import ContentPolicy.Proofs.Policy.Strictness
import ContentPolicy.Proofs.Report.Reading

/-!
Strict and lenient readers of reports and log entries. Each step of reading that a strict reader
takes, the lenient one takes as well, to the same fields; so what the strict reader accepts, both
read the same, on all levels from sources to log entries.
-/

namespace ContentPolicy

namespace ReportParser

variable {p : ReportParser}

theorem eq_of_lenient (lenient : p.strict = false) : { p with strict := false } = p := by
  rw [← lenient]

theorem readText?_lenient {kind : FieldKind} {text : String} {field : ReportField}
    (found : p.readText? kind text = some field) :
    { p with strict := false }.readText? kind text = some field := by
  obtain ⟨typed, read⟩ := readText?_eq_some_iff.mp found
  refine readText?_eq_some_iff.mpr ⟨typed, ?_⟩
  cases field with
  | uri u => exact read
  | directive d =>
      obtain ⟨valid, rfl⟩ := read
      exact ⟨valid, DirectiveParser.read_lenient valid⟩
  | policy q =>
      obtain ⟨valid, rfl⟩ := read
      exact ⟨valid, PolicyParser.read_lenient valid⟩
  | raw json => exact read

theorem readMember_lenient {key : String} {value : Json} (good : p.readMember key value ≠ .bad) :
    { p with strict := false }.readMember key value = p.readMember key value := by
  have kinds : { p with strict := false }.kind? key = p.kind? key := rfl
  rw [readMember] at good ⊢
  rw [readMember, kinds]
  cases listed : p.kind? key with
  | none => rfl
  | some kind =>
      cases value with
      | string text =>
          simp only [listed] at good ⊢
          split
          · rfl
          · rename_i located
            rw [if_neg located] at good
            cases found : p.readText? kind text with
            | none => exact absurd (by rw [found]) good
            | some field => rw [readText?_lenient found]
      | _ => rfl

theorem addMember_lenient (strict : p.strict = true) (draft : Draft) (member : String × Json)
    (draft' : Draft) (step : p.addMember draft member = some draft') :
    { p with strict := false }.addMember draft member = some draft' := by
  have good : p.readMember (p.currentKey member.1) member.2 ≠ .bad := by
    intro bad
    simp only [addMember, bad, strict, if_true] at step
    cases step
  have keys : { p with strict := false }.currentKey member.1 = p.currentKey member.1 := rfl
  simp only [addMember, keys, readMember_lenient good] at step ⊢
  split at step
  · exact step
  · exact step
  · rename_i bad
    exact absurd bad good

theorem resolveDocument_lenient (strict : p.strict = true) (fields : SortedMap String ReportField)
    (key : String) (fields' : SortedMap String ReportField)
    (step : p.resolveDocument fields key = some fields') :
    { p with strict := false }.resolveDocument fields key = some fields' := by
  have kinds : { p with strict := false }.kind? Report.documentKey = p.kind? Report.documentKey :=
    rfl
  simp only [resolveDocument, kinds, strict, if_true] at step ⊢
  split at step
  · split at step
    · rename_i located
      rw [if_pos located]
      exact step
    · cases step
  · cases step

theorem parseJson_lenient {json : Json} (valid : (p.parseJson json).isInvalid = false) :
    { p with strict := false }.parseJson json = p.parseJson json := by
  cases strict : p.strict with
  | false => rw [eq_of_lenient strict]
  | true =>
      cases read : p.parseJson json with
      | invalid =>
          rw [read] at valid
          cases valid
      | valid fields =>
          obtain ⟨members, draft, rfl, added, resolved, required⟩ :=
            parseJson_eq_valid_iff.mp read
          have lenientAdded := foldlM_of_step (addMember_lenient strict) added
          have lenientResolved := foldlM_of_step (resolveDocument_lenient strict) resolved
          exact parseJson_eq_valid_iff.mpr
            ⟨members, draft, rfl, lenientAdded, lenientResolved, required⟩

theorem parse_lenient {text : String} (valid : (p.parse text).isInvalid = false) :
    { p with strict := false }.parse text = p.parse text := by
  rw [parse] at valid ⊢
  rw [parse]
  cases read : Json.parse? text with
  | none => rfl
  | some json =>
      rw [read] at valid
      exact parseJson_lenient valid

end ReportParser

namespace LogEntryParser

variable {p : LogEntryParser}

def withStrict (p : LogEntryParser) (strict : Bool) : LogEntryParser :=
  { p with report := { p.report with strict } }

theorem withStrict_of_lenient (lenient : p.report.strict = false) : p.withStrict false = p := by
  rw [withStrict, ReportParser.eq_of_lenient lenient]

theorem addMember_lenient (strict : p.report.strict = true) (fields : SortedMap String LogField)
    (member : String × Json) (fields' : SortedMap String LogField)
    (step : p.addMember fields member = some fields') :
    (p.withStrict false).addMember fields member = some fields' := by
  simp only [addMember, strict, if_true] at step ⊢
  split at step
  · rename_i isReport
    rw [if_pos isReport]
    split at step
    · rename_i valid
      have same : (p.withStrict false).report.parseJson member.2 = p.report.parseJson member.2 :=
        ReportParser.parseJson_lenient (by simpa using valid)
      rw [same, if_pos valid]
      exact step
    · cases step
  · rename_i other
    rw [if_neg other]
    exact step

theorem parseJson_lenient {json : Json} (valid : (p.parseJson json).isInvalid = false) :
    (p.withStrict false).parseJson json = p.parseJson json := by
  cases strict : p.report.strict with
  | false => rw [withStrict_of_lenient strict]
  | true =>
      cases read : p.parseJson json with
      | invalid =>
          rw [read] at valid
          cases valid
      | valid fields =>
          obtain ⟨members, rfl, run, required⟩ := parseJson_eq_valid_iff.mp read
          have lenientRun := foldlM_of_step (addMember_lenient strict) run
          exact parseJson_eq_valid_iff.mpr ⟨members, rfl, lenientRun, required⟩

theorem parse_lenient {text : String} (valid : (p.parse text).isInvalid = false) :
    (p.withStrict false).parse text = p.parse text := by
  rw [parse] at valid ⊢
  rw [parse]
  cases read : Json.parse? text with
  | none => rfl
  | some json =>
      rw [read] at valid
      exact parseJson_lenient valid

end LogEntryParser

/-- What a reader accepts, strict or not, the lenient reader with the same settings reads as the
same value. -/
theorem lenient_reads_valid :
    (∀ (p : DirectiveParser) (text : String), p.parse text ≠ .invalid →
        { p with strict := false }.parse text = p.parse text) ∧
      (∀ (p : PolicyParser) (text : String), (p.parse text).isInvalid = false →
        (p.withStrict false).parse text = p.parse text) ∧
      (∀ (p : ReportParser) (text : String), (p.parse text).isInvalid = false →
        { p with strict := false }.parse text = p.parse text) ∧
      (∀ (p : ReportParser) (json : Json), (p.parseJson json).isInvalid = false →
        { p with strict := false }.parseJson json = p.parseJson json) ∧
      (∀ (p : LogEntryParser) (text : String), (p.parse text).isInvalid = false →
        (p.withStrict false).parse text = p.parse text) ∧
      ∀ (p : LogEntryParser) (json : Json), (p.parseJson json).isInvalid = false →
        (p.withStrict false).parseJson json = p.parseJson json := by
  constructor
  · exact fun p text => DirectiveParser.read_lenient
  constructor
  · exact fun p text => PolicyParser.read_lenient
  constructor
  · exact fun p text => ReportParser.parse_lenient
  constructor
  · exact fun p json => ReportParser.parseJson_lenient
  constructor
  · exact fun p text => LogEntryParser.parse_lenient
  · exact fun p json => LogEntryParser.parseJson_lenient

/-- The standard readers are strict; each accepts a text here. -/
theorem lenient_reads_valid_standard :
    let directive := "img-src 'self'"
    let policy := "img-src *; img-src 'none'"
    let report : Json := .object
      [("blocked-uri", .string "self"), ("document-uri", .string "http://d"),
        ("violated-directive", .string "img-src *")]
    let entry : Json := .object [("csp-report", report), ("policy-type", .string "regular")]
    (PolicyParser.standard.strict = true ∧ ReportParser.standard.strict = true) ∧
      (DirectiveParser.standard.parse directive ≠ .invalid ∧
        { DirectiveParser.standard with strict := false }.parse directive =
          DirectiveParser.standard.parse directive) ∧
      ((PolicyParser.standard.parse policy).isInvalid = false ∧
        (PolicyParser.standard.withStrict false).parse policy = PolicyParser.standard.parse policy) ∧
      ((ReportParser.standard.parseJson report).isInvalid = false ∧
        { ReportParser.standard with strict := false }.parseJson report =
          ReportParser.standard.parseJson report) ∧
      (LogEntryParser.standard.parseJson entry).isInvalid = false ∧
        (LogEntryParser.standard.withStrict false).parseJson entry =
          LogEntryParser.standard.parseJson entry := by
  intro directive policy report entry
  obtain ⟨directives, policies, _, reports, _, entries⟩ := lenient_reads_valid
  have directiveValid : DirectiveParser.standard.parse directive ≠ .invalid := by decide
  have policyValid : (PolicyParser.standard.parse policy).isInvalid = false := by decide
  have reportValid : (ReportParser.standard.parseJson report).isInvalid = false := by
    decide +kernel
  have entryValid : (LogEntryParser.standard.parseJson entry).isInvalid = false := by
    decide +kernel
  exact ⟨⟨rfl, rfl⟩, ⟨directiveValid, directives _ _ directiveValid⟩,
    ⟨policyValid, policies _ _ policyValid⟩, ⟨reportValid, reports _ _ reportValid⟩,
    entryValid, entries _ _ entryValid⟩

end ContentPolicy
