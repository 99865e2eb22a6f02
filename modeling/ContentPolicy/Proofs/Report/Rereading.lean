import ContentPolicy.Proofs.Report.Reading
import ContentPolicy.Proofs.Sorted.Map
import ContentPolicy.Proofs.Text.LowerCase
import ContentPolicy.Proofs.Uri.Rereading

/-!
Reading the JSON form of a report or of a log entry. The names of its fields are current already,
each field is of the kind that its name asks for, and none waits for the document's URI any more. So
a member is read as the field that it was written for, and the fields make up the same map, provided
that each field that was read comes back from its own written form.
-/

namespace ContentPolicy

open Text

namespace Location

variable {l : Location}

/-- What is written without a colon and without a question mark has no scheme, port or query. -/
theorem absent_of_unmarked (noColon : ':' ∉ l.render) (noQuestion : '?' ∉ l.render) :
    l.scheme = "" ∧ l.port = none ∧ l.query = "" := by
  have located : l.isSchemeOnly = false := by
    rw [← Bool.not_eq_true]
    intro only
    rw [render, if_pos only] at noColon
    exact noColon (List.mem_append_right _ List.mem_cons_self)
  rw [render, located, if_neg Bool.false_ne_true] at noColon noQuestion
  simp only [List.mem_append, not_or] at noColon noQuestion
  obtain ⟨⟨⟨⟨inScheme, _⟩, inPort⟩, _⟩, _⟩ := noColon
  refine ⟨?_, ?_, ?_⟩
  · by_contra given
    apply inScheme
    rw [renderScheme, if_neg given]
    split <;> simp
  · cases written : l.port with
    | none => rfl
    | some port =>
        rw [written] at inPort
        exact absurd List.mem_cons_self inPort
  · by_contra given
    apply noQuestion.2
    rw [renderQuery, if_neg given]
    exact List.mem_cons_self

theorem render_of_absent (noScheme : l.scheme = "") (noPort : l.port = none)
    (noQuery : l.query = "") : l.render = l.host.toList ++ Percent.encodePath l.path.toList := by
  have located : l.isSchemeOnly = false := by simp [isSchemeOnly, noScheme]
  rw [render, located, noScheme, noPort, noQuery]
  simp [renderScheme, renderPort, renderQuery]

/-- A location that a reader gave is the word for the document's URI only if it is written like the
word: blanks around it could come from a query alone, and a query has a mark in front. -/
theorem Readable.spells_of_isSelf (readable : l.Readable)
    (self : ReportParser.isSelf (Uri.regular l).text = true) : spells l.render "self" = true := by
  have whole : (Uri.regular l).text.toList = l.render := String.toList_ofList
  rw [ReportParser.isSelf, whole] at self
  have letters : "self".toList.all Char.isAlphanum = true := by decide
  have unmarked : ∀ mark : Char, isBlank mark = false → mark.isAlphanum = false →
      mark ∉ l.render := by
    intro mark visible caseless member
    have spelled := Reference.not_spells_of_mark mark caseless
      (mem_trim_of_visible member visible) letters
    exact Bool.false_ne_true (spelled.symm.trans self)
  obtain ⟨noScheme, noPort, noQuery⟩ :=
    absent_of_unmarked (unmarked ':' (by decide) (by decide)) (unmarked '?' (by decide) (by decide))
  have written := render_of_absent noScheme noPort noQuery
  have named : l.host = "" ∨ Authority.isName l.host.toList = true := by
    refine readable.host.resolve_left ?_
    rw [noScheme]
    exact Bool.false_ne_true
  have clear : ∀ c ∈ l.render, isBlank c = false := by
    intro c member
    rw [written] at member
    rcases List.mem_append.mp member with inHost | inPath
    · rcases named with empty | isName
      · rw [empty] at inHost
        cases inHost
      · exact (Authority.isName_clear isName inHost).1
    · exact (Percent.encodePath_clear inPath).1
  rwa [trim_of_no_blank clear] at self

end Location

namespace ReportParser

variable {p : ReportParser}

/-- A reader for which a current name stays current, and that gives no URI a scheme of its own. -/
structure IsStable (p : ReportParser) : Prop where
  currentKey : ∀ raw, p.currentKey (p.currentKey raw) = p.currentKey raw
  named : p.uri.schemePorts.Named
  noScheme : p.uri.addScheme = false

/-- A field whose written form is read as the field again. A URI must not be written like the word
for the document's URI. -/
def ComesBack (p : ReportParser) : ReportField → Prop
  | .uri u => p.uri.parse u.text = u ∧ spells u.render "self" = false
  | .directive d => p.policyParser.directive.parse d.text = d
  | .policy q => p.policyParser.parse q.text = q
  | .raw _ => True

instance : DecidablePred p.ComesBack
  | .uri u => inferInstanceAs (Decidable (p.uri.parse u.text = u ∧ spells u.render "self" = false))
  | .directive d => inferInstanceAs (Decidable (p.policyParser.directive.parse d.text = d))
  | .policy q => inferInstanceAs (Decidable (p.policyParser.parse q.text = q))
  | .raw _ => .isTrue trivial

def AllFit (p : ReportParser) (fields : SortedMap String ReportField) : Prop :=
  ∀ key field, fields.get? key = some field → p.currentKey key = key ∧ p.kind? key = field.kind?

theorem parseJson_fits (stable : p.IsStable) {json : Json}
    {fields : SortedMap String ReportField} (read : p.parseJson json = .valid fields) :
    p.AllFit fields := by
  obtain ⟨members, _, rfl, _⟩ := parseJson_eq_valid_iff.mp read
  refine parseJson_forall read ?_ ?_
  · exact fun member _ _ isField => ⟨stable.currentKey member.1, readMember_kind isField⟩
  · exact fun member _ waits _ _ => ⟨stable.currentKey member.1, readMember_document waits⟩

theorem isSelf_of_comesBack (stable : p.IsStable) {u : Uri} (back : p.ComesBack (.uri u)) :
    isSelf u.text = false := by
  cases u with
  | regular l =>
      have readable := UriParser.read_readable stable.named stable.noScheme back.1
      rw [← Bool.not_eq_true]
      intro self
      exact Bool.false_ne_true (back.2.symm.trans (readable.spells_of_isSelf self))
  | _ => decide

theorem readMember_toJson (stable : p.IsStable) {key : String} {field : ReportField}
    (kind : p.kind? key = field.kind?) (isRead : p.IsRead field) (back : p.ComesBack field) :
    p.readMember key field.toJson = .field field := by
  rw [readMember, kind]
  cases field with
  | uri u =>
      have located : isSelf u.text = false := isSelf_of_comesBack stable back
      have reread : p.uri.parse u.text = u := back.1
      simp only [ReportField.kind?, ReportField.toJson, located, Bool.and_false,
        Bool.false_eq_true, if_false, readText?, reread, if_neg isRead.1]
  | directive d =>
      have reread : p.policyParser.directive.parse d.text = d := back
      simp [ReportField.kind?, ReportField.toJson, readText?, reread, isRead.1]
  | policy q =>
      have reread : p.policyParser.parse q.text = q := back
      simp [ReportField.kind?, ReportField.toJson, readText?, reread, isRead.1]
  | raw json => rfl

theorem parseJson_toJson (stable : p.IsStable) {json : Json}
    {fields : SortedMap String ReportField} (read : p.parseJson json = .valid fields)
    (back : ∀ key field, fields.get? key = some field → p.ComesBack field) :
    p.parseJson (Report.valid fields).toJson = .valid fields := by
  have fits := parseJson_fits stable read
  have allRead : p.AllRead fields := by
    have whole := parseJson_allRead (p := p) json
    rwa [read] at whole
  obtain ⟨_, _, _, _, _, required⟩ := parseJson_eq_valid_iff.mp read
  refine parseJson_eq_valid_iff.mpr ⟨_, (fields, []), rfl, ?_, rfl, required⟩
  -- No name waits for the document's URI, neither before nor after a step.
  apply SortedMap.foldlM_mapValues (f := fun made => (made, []))
  intro key field found made
  obtain ⟨current, kind⟩ := fits key field found
  have reread := readMember_toJson stable kind (allRead _ _ found) (back _ _ found)
  simp only [addMember, current, reread]

def allComeBack (p : ReportParser) (r : Report) : Bool :=
  r.fields.entries.all fun e => decide (p.ComesBack e.2)

theorem allComeBack_iff {r : Report} :
    p.allComeBack r = true ↔ ∀ key field, r.get? key = some field → p.ComesBack field := by
  rw [allComeBack, List.all_eq_true]
  constructor
  · intro all key field found
    exact of_decide_eq_true (all (key, field) ((SortedMap.get?_eq_some_iff _ _ _).mp found))
  · intro all e entry
    exact decide_eq_true (all e.1 e.2 (SortedMap.get?_of_mem entry))

theorem standard_isStable : standard.IsStable where
  currentKey := by
    intro raw
    have renamed : standard.currentKey "document-uri" = "document-uri" := by decide
    have others : ∀ key, key ≠ "document-url" → standard.keyRenames.get? key = none :=
      fun key other => (SortedMap.get?_singleton _ _ _).trans (if_neg other)
    by_cases old : lowerCase raw = "document-url"
    · have current : standard.currentKey raw = "document-uri" := by
        rw [currentKey, old]
        rfl
      rw [current, renamed]
    · have current : standard.currentKey raw = lowerCase raw := by
        simp only [currentKey, others _ old, Option.getD_none]
      rw [current]
      simp only [currentKey, lowerCase_lowerCase, others _ old, Option.getD_none]
  named := SchemePorts.standard_named
  noScheme := rfl

end ReportParser

namespace LogEntryParser

variable {p : LogEntryParser}

theorem addMember_toJson (stable : p.report.IsStable) {key : String} {field : LogField}
    (fits : p.Fits key field)
    (back : ∀ r, field = .report r → ∀ k f, r.get? k = some f → p.report.ComesBack f)
    (fields : SortedMap String LogField) :
    p.addMember fields (key, field.toJson) = some (fields.insert key field) := by
  cases field with
  | report r =>
      obtain ⟨isReport, valid, json, read⟩ := fits
      cases r with
      | invalid => cases valid
      | valid inner =>
          have reread := ReportParser.parseJson_toJson stable read (back _ rfl)
          simp only [addMember, if_pos isReport, LogField.toJson, reread]
          rfl
  | raw json =>
      have other : key ≠ LogEntry.reportKey := fits
      simp only [addMember, if_neg other, LogField.toJson]

theorem parseJson_toJson (stable : p.report.IsStable) {json : Json}
    {fields : SortedMap String LogField} (read : p.parseJson json = .valid fields)
    (back : ∀ key r, fields.get? key = some (.report r) →
      ∀ k f, r.get? k = some f → p.report.ComesBack f) :
    p.parseJson (LogEntry.valid fields).toJson = .valid fields := by
  obtain ⟨_, _, _, required⟩ := parseJson_eq_valid_iff.mp read
  refine parseJson_eq_valid_iff.mpr ⟨_, rfl, ?_, required⟩
  apply SortedMap.foldlM_mapValues (f := id)
  intro key field found added
  exact addMember_toJson stable (parseJson_fits read key field found)
    (fun r isReport => back key r (isReport ▸ found)) added

end LogEntryParser

/-- The standard readers read a report, and a log entry, again from its JSON form, provided that the
fields of the report come back from their written forms. -/
theorem parseJson_toJson_of_comesBack :
    (∀ json : Json,
        let r := ReportParser.standard.parseJson json
        r.isInvalid = false →
          (∀ key field, r.get? key = some field → ReportParser.standard.ComesBack field) →
            ReportParser.standard.parseJson r.toJson = r) ∧
      ∀ json : Json,
        let e := LogEntryParser.standard.parseJson json
        e.isInvalid = false →
          (∀ r, e.report? = some r →
            ∀ key field, r.get? key = some field → ReportParser.standard.ComesBack field) →
              LogEntryParser.standard.parseJson e.toJson = e := by
  constructor
  · intro json r valid back
    cases read : r with
    | invalid =>
        rw [read] at valid
        cases valid
    | valid fields =>
        rw [read] at back
        exact ReportParser.parseJson_toJson ReportParser.standard_isStable read back
  · intro json e valid back
    cases read : e with
    | invalid =>
        rw [read] at valid
        cases valid
    | valid fields =>
        rw [read] at back
        refine LogEntryParser.parseJson_toJson ReportParser.standard_isStable read ?_
        intro key r found
        obtain ⟨isReport, _⟩ := LogEntryParser.parseJson_fits read key _ found
        apply back r
        rw [LogEntry.report?, LogEntry.get?, LogEntry.fields, ← isReport, found]

/-- A report with an old name, a field that stands for the document's URI and one that is kept as it
was sent, and the entry that holds it. -/
theorem parseJson_toJson_of_comesBack_renamed :
    let report : Json := .object
      [ ("Blocked-URI", .string "Self"), ("Document-URL", .string "http://u@D.com/a%2fb?q#f"),
        ("violated-directive", .string "img-src *.a.com:80"), ("status", .bool true) ]
    let entry : Json := .object [("csp-report", report), ("policy-type", .string "regular")]
    let r := ReportParser.standard.parseJson report
    let e := LogEntryParser.standard.parseJson entry
    ((!r.isInvalid && ReportParser.standard.allComeBack r) = true ∧
        (!e.isInvalid && e.report?.all ReportParser.standard.allComeBack) = true) ∧
      ReportParser.standard.parseJson r.toJson = r ∧
        LogEntryParser.standard.parseJson e.toJson = e := by
  intro report entry r e
  have reportBack : (!r.isInvalid && ReportParser.standard.allComeBack r) = true := by
    decide +kernel
  have entryBack : (!e.isInvalid && e.report?.all ReportParser.standard.allComeBack) = true := by
    decide +kernel
  refine ⟨⟨reportBack, entryBack⟩, ?_⟩
  rw [Bool.and_eq_true, Bool.not_eq_true'] at reportBack entryBack
  constructor
  · exact parseJson_toJson_of_comesBack.1 report reportBack.1
      (ReportParser.allComeBack_iff.mp reportBack.2)
  · refine parseJson_toJson_of_comesBack.2 entry entryBack.1 fun r found => ?_
    have inner := entryBack.2
    rw [found] at inner
    exact ReportParser.allComeBack_iff.mp inner

end ContentPolicy
