import ContentPolicy.Proofs.Report.Reading

/-!
The kinds of the fields in reports and log entries that were read. A field is of the kind that its
current name asks for, whether it was read from a text, kept as it was sent, or given the document's
URI; several members may come under one current name, and what the last of them left is of its kind.
-/

namespace ContentPolicy

namespace ReportParser

variable {p : ReportParser} {key : String} {field : ReportField}

/-- A good field of the kind that its name asks for: the first list with the name counts, and under
a name in no list stands what was sent. -/
def IsOfKind (p : ReportParser) (key : String) : ReportField → Prop
  | .uri u => key ∈ p.uriKeys ∧ u ≠ .invalid
  | .directive d => key ∉ p.uriKeys ∧ key ∈ p.directiveKeys ∧ d ≠ .invalid
  | .policy q =>
      key ∉ p.uriKeys ∧ key ∉ p.directiveKeys ∧ key ∈ p.policyKeys ∧ q.isInvalid = false
  | .raw _ => key ∉ p.uriKeys ∧ key ∉ p.directiveKeys ∧ key ∉ p.policyKeys

/-- Whether a member of the object stands under the current name, and was sent as the field if the
field is kept as it was sent. -/
def StemsFrom (p : ReportParser) (members : List (String × Json)) (key : String)
    (field : ReportField) : Prop :=
  ∃ member ∈ members, p.currentKey member.1 = key ∧ ∀ json, field = .raw json → member.2 = json

theorem isOfKind_of_kind (kind : p.kind? key = field.kind?) (isRead : p.IsRead field) :
    p.IsOfKind key field := by
  rw [kind?] at kind
  split at kind
  · rename_i listed
    cases field with
    | uri u => exact ⟨listed, isRead.1⟩
    | _ => cases kind
  · rename_i notUri
    split at kind
    · rename_i listed
      cases field with
      | directive d => exact ⟨notUri, listed, isRead.1⟩
      | _ => cases kind
    · rename_i notDirective
      split at kind
      · rename_i listed
        cases field with
        | policy q => exact ⟨notUri, notDirective, listed, isRead.1⟩
        | _ => cases kind
      · rename_i notPolicy
        cases field with
        | raw json => exact ⟨notUri, notDirective, notPolicy⟩
        | _ => cases kind

theorem readMember_raw {value json : Json} (found : p.readMember key value = .field (.raw json)) :
    value = json := by
  rcases readMember_eq_field found with ⟨_, same⟩ | ⟨kind, text, _, read⟩
  · exact (ReportField.raw.inj same).symm
  · exact absurd (ReportParser.readText?_eq_some_iff.mp read).1 nofun

theorem parseJson_isOfKind {members : List (String × Json)}
    {fields : SortedMap String ReportField} (read : p.parseJson (.object members) = .valid fields)
    (found : fields.get? key = some field) :
    p.IsOfKind key field ∧ p.StemsFrom members key field := by
  have all : ∀ key field, fields.get? key = some field →
      p.kind? key = field.kind? ∧ p.IsRead field ∧ p.StemsFrom members key field := by
    refine parseJson_forall read ?_ ?_
    · intro member isMember field isField
      refine ⟨readMember_kind isField, readMember_isRead isField, member, isMember, rfl, ?_⟩
      rintro json rfl
      exact readMember_raw isField
    -- Only names that ask for a URI wait for that of the document.
    · intro member isMember waits u document
      exact ⟨readMember_document waits, document.2.1, member, isMember, rfl, nofun⟩
  obtain ⟨kind, isRead, stems⟩ := all key field found
  exact ⟨isOfKind_of_kind kind isRead, stems⟩

end ReportParser

theorem Report.eq_valid_fields {r : Report} (isValid : r.isInvalid = false) :
    r = .valid r.fields := by
  cases r with
  | valid fields => rfl
  | invalid => cases isValid

theorem LogEntry.eq_valid_fields {e : LogEntry} (isValid : e.isInvalid = false) :
    e = .valid e.fields := by
  cases e with
  | valid fields => rfl
  | invalid => cases isValid

/-- A report that was read has all required fields, and each of its fields is of the kind that its
current name asks for; the report in a log entry that was read is a report that was read. -/
theorem isOfKind_of_parseJson :
    (∀ (p : ReportParser) (members : List (String × Json)),
        let r := p.parseJson (.object members)
        r.isInvalid = false →
          (∀ key ∈ p.requiredKeys, ∃ field, r.get? key = some field) ∧
            ∀ key field, r.get? key = some field →
              p.IsOfKind key field ∧ p.StemsFrom members key field) ∧
      ∀ (p : LogEntryParser) (json : Json),
        let e := p.parseJson json
        e.isInvalid = false →
          ∀ field, e.get? LogEntry.reportKey = some field →
            ∃ r, field = .report r ∧ r.isInvalid = false ∧
              ∃ members, p.report.parseJson (.object members) = r := by
  constructor
  · intro p members r isValid
    have read : p.parseJson (.object members) = .valid r.fields := Report.eq_valid_fields isValid
    obtain ⟨_, _, _, _, _, required⟩ := ReportParser.parseJson_eq_valid_iff.mp read
    constructor
    · intro key listed
      exact (SortedMap.contains_iff r.fields key).mp (List.all_eq_true.mp required key listed)
    · exact fun key field found => ReportParser.parseJson_isOfKind read found
  · intro p json e isValid field found
    have read : p.parseJson json = .valid e.fields := LogEntry.eq_valid_fields isValid
    have fits := LogEntryParser.parseJson_fits read LogEntry.reportKey field found
    cases field with
    | report r =>
        obtain ⟨_, reportValid, value, reportRead⟩ := fits
        refine ⟨r, rfl, reportValid, ?_⟩
        obtain ⟨members, _, rfl, _⟩ := ReportParser.parseJson_eq_valid_iff.mp
          (reportRead.trans (Report.eq_valid_fields reportValid))
        exact ⟨members, reportRead⟩
    | raw json => exact absurd rfl fits

/-- Two members come under one current name, and two wait for the document's URI, one of them under
the name of the document itself. -/
theorem isOfKind_of_parseJson_renamed :
    let members : List (String × Json) :=
      [("BLOCKED-URI", .string "self"), ("Document-URL", .string "http://d/a"),
        ("disposition", .bool true), ("document-uri", .string " Self "),
        ("violated-directive", .string "img-src *")]
    let r := ReportParser.standard.parseJson (.object members)
    let e := LogEntryParser.standard.parseJson (.object [("csp-report", .object members)])
    (r.isInvalid = false ∧ "document-uri" ∈ ReportParser.standard.requiredKeys ∧
        ∃ field, r.get? "document-uri" = some field ∧
          ReportParser.standard.IsOfKind "document-uri" field ∧
            ReportParser.standard.StemsFrom members "document-uri" field) ∧
      e.isInvalid = false ∧
        ∃ field, e.get? LogEntry.reportKey = some field ∧
          ∃ r, field = .report r ∧ r.isInvalid = false ∧
            ∃ members, LogEntryParser.standard.report.parseJson (.object members) = r := by
  intro members r e
  obtain ⟨reports, entries⟩ := isOfKind_of_parseJson
  obtain ⟨reportValid, entryValid, present⟩ : r.isInvalid = false ∧ e.isInvalid = false ∧
      e.fields.contains LogEntry.reportKey = true := by decide +kernel
  have listed : "document-uri" ∈ ReportParser.standard.requiredKeys := by decide
  obtain ⟨required, kinds⟩ := reports .standard members reportValid
  obtain ⟨field, found⟩ := required "document-uri" listed
  obtain ⟨inner, foundInner⟩ := (SortedMap.contains_iff _ _).mp present
  exact ⟨⟨reportValid, listed, field, found, kinds "document-uri" field found⟩, entryValid, inner,
    foundInner, entries .standard _ entryValid inner foundInner⟩

end ContentPolicy
