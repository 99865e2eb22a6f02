import ContentPolicy.LogEntry.Parser
import ContentPolicy.Proofs.Runs
import ContentPolicy.Proofs.Sorted.Map

/-!
What the fields of a report that was read hold. Each typed field stems from a text that the reader
of its kind accepted, whatever members came before and after it and whichever of them stood for the
document's URI.
-/

namespace ContentPolicy

namespace ReportField

def kind? : ReportField → Option FieldKind
  | .uri _ => some .uri
  | .directive _ => some .directive
  | .policy _ => some .policy
  | .raw _ => none

end ReportField

namespace ReportParser

variable {p : ReportParser}

def IsRead (p : ReportParser) : ReportField → Prop
  | .uri u => u ≠ .invalid ∧ ∃ text, p.uri.parse text = u
  | .directive d => d ≠ .invalid ∧ ∃ text, p.policyParser.directive.parse text = d
  | .policy q => q.isInvalid = false ∧ ∃ text, p.policyParser.parse text = q
  | .raw _ => True

def AllRead (p : ReportParser) (fields : SortedMap String ReportField) : Prop :=
  ∀ key field, fields.get? key = some field → p.IsRead field

def IsReadFrom (p : ReportParser) (text : String) : ReportField → Prop
  | .uri u => u ≠ .invalid ∧ p.uri.parse text = u
  | .directive d => d ≠ .invalid ∧ p.policyParser.directive.parse text = d
  | .policy q => q.isInvalid = false ∧ p.policyParser.parse text = q
  | .raw _ => False

theorem readText?_eq_some_iff {kind : FieldKind} {text : String} {field : ReportField} :
    p.readText? kind text = some field ↔
      field.kind? = some kind ∧ p.IsReadFrom text field := by
  constructor
  · intro found
    cases kind with
    | uri =>
        obtain ⟨valid, same⟩ := Option.ite_none_left_eq_some.mp found
        cases same
        exact ⟨rfl, valid, rfl⟩
    | directive =>
        obtain ⟨valid, same⟩ := Option.ite_none_left_eq_some.mp found
        cases same
        exact ⟨rfl, valid, rfl⟩
    | policy =>
        obtain ⟨valid, same⟩ := Option.ite_none_left_eq_some.mp found
        cases same
        exact ⟨rfl, Bool.eq_false_iff.mpr valid, rfl⟩
  · rintro ⟨typed, read⟩
    cases field with
    | uri u =>
        cases typed
        obtain ⟨valid, rfl⟩ := read
        exact if_neg valid
    | directive d =>
        cases typed
        obtain ⟨valid, rfl⟩ := read
        exact if_neg valid
    | policy q =>
        cases typed
        obtain ⟨valid, rfl⟩ := read
        exact if_neg (Bool.eq_false_iff.mp valid)
    | raw json => cases read

theorem IsReadFrom.isRead {text : String} {field : ReportField} (read : p.IsReadFrom text field) :
    p.IsRead field := by
  cases field with
  | uri u => exact ⟨read.1, text, read.2⟩
  | directive d => exact ⟨read.1, text, read.2⟩
  | policy q => exact ⟨read.1, text, read.2⟩
  | raw json => trivial

theorem readMember_eq_field {key : String} {value : Json} {field : ReportField}
    (found : p.readMember key value = .field field) :
    p.kind? key = none ∧ field = .raw value ∨
      ∃ kind text, p.kind? key = some kind ∧ p.readText? kind text = some field := by
  rw [readMember] at found
  split at found
  · rename_i untyped
    cases found
    exact .inl ⟨untyped, rfl⟩
  · rename_i kind typed
    split at found
    · rename_i text
      split at found
      · cases found
      · split at found
        · rename_i read
          cases found
          exact .inr ⟨kind, text, typed, read⟩
        · cases found
    · cases found

theorem readMember_isRead {key : String} {value : Json} {field : ReportField}
    (found : p.readMember key value = .field field) : p.IsRead field := by
  rcases readMember_eq_field found with ⟨_, rfl⟩ | ⟨kind, text, _, read⟩
  · trivial
  · exact (readText?_eq_some_iff.mp read).2.isRead

theorem readMember_kind {key : String} {value : Json} {field : ReportField}
    (found : p.readMember key value = .field field) : p.kind? key = field.kind? := by
  rcases readMember_eq_field found with ⟨untyped, rfl⟩ | ⟨kind, text, typed, read⟩
  · exact untyped
  · rw [typed, (readText?_eq_some_iff.mp read).1]

theorem readMember_document {key : String} {value : Json}
    (found : p.readMember key value = .document) : p.kind? key = some .uri := by
  rw [readMember] at found
  split at found
  · cases found
  · rename_i kind typed
    split at found
    · split at found
      · rename_i located
        rw [Bool.and_eq_true, decide_eq_true_iff] at located
        rw [typed, located.1]
      · split at found <;> cases found
    · cases found

theorem addMember_cases {draft draft' : Draft} {member : String × Json}
    (step : p.addMember draft member = some draft') :
    (∃ field, p.readMember (p.currentKey member.1) member.2 = .field field ∧
        draft' = (draft.1.insert (p.currentKey member.1) field, draft.2)) ∨
      (p.readMember (p.currentKey member.1) member.2 = .document ∧
        draft' = (draft.1, draft.2 ++ [p.currentKey member.1])) ∨
      draft' = draft := by
  rw [addMember] at step
  split at step
  · rename_i field read
    exact .inl ⟨field, read, (Option.some.inj step).symm⟩
  · rename_i waits
    exact .inr (.inl ⟨waits, (Option.some.inj step).symm⟩)
  · split at step
    · cases step
    · exact .inr (.inr (Option.some.inj step).symm)

/-- A name that waited gets the document's URI, or is left out. -/
theorem resolveDocument_cases {fields fields' : SortedMap String ReportField} {key : String}
    (step : p.resolveDocument fields key = some fields') :
    (∃ u, fields.get? Report.documentKey = some (.uri u) ∧ fields' = fields.insert key (.uri u)) ∨
      fields' = fields := by
  rw [resolveDocument] at step
  split at step
  · rename_i u document
    split at step
    · exact .inl ⟨u, document, (Option.some.inj step).symm⟩
    · split at step
      · cases step
      · exact .inr (Option.some.inj step).symm
  · split at step
    · cases step
    · exact .inr (Option.some.inj step).symm

/-- A report is read from an object whose members can be added, the names that wait for the
document's URI filled, and the required names found. -/
theorem parseJson_eq_valid_iff {json : Json} {fields : SortedMap String ReportField} :
    p.parseJson json = .valid fields ↔
      ∃ members draft, json = .object members ∧ members.foldlM p.addMember (∅, []) = some draft ∧
        draft.2.foldlM p.resolveDocument draft.1 = some fields ∧
        p.requiredKeys.all fields.contains = true := by
  constructor
  · intro read
    rw [parseJson.eq_def] at read
    split at read
    · rename_i members
      rw [readMembers] at read
      dsimp only at read
      split at read
      · rename_i run
        split at read
        · rename_i required
          cases read
          obtain ⟨draft, added, resolved⟩ := Option.bind_eq_some_iff.mp run
          exact ⟨members, draft, rfl, added, resolved, required⟩
        · cases read
      · cases read
    · cases read
  · rintro ⟨members, draft, rfl, added, resolved, required⟩
    rw [parseJson, readMembers]
    simp only [added, resolved, Option.bind_eq_bind, Option.bind_some]
    exact if_pos required

/-- Whether all fields hold what they should, and so will the fields under the names that wait, once
they are given the document's URI. -/
def DraftHolds (Holds : String → ReportField → Prop) (draft : Draft) : Prop :=
  (∀ key field, draft.1.get? key = some field → Holds key field) ∧
    ∀ key ∈ draft.2, ∀ u, Holds Report.documentKey (.uri u) → Holds key (.uri u)

section Holds

variable {Holds : String → ReportField → Prop}

theorem addMember_holds {draft draft' : Draft} {member : String × Json}
    (added : ∀ field, p.readMember (p.currentKey member.1) member.2 = .field field →
      Holds (p.currentKey member.1) field)
    (waiting : p.readMember (p.currentKey member.1) member.2 = .document →
      ∀ u, Holds Report.documentKey (.uri u) → Holds (p.currentKey member.1) (.uri u))
    (holds : DraftHolds Holds draft) (step : p.addMember draft member = some draft') :
    DraftHolds Holds draft' := by
  rcases addMember_cases step with ⟨field, isField, rfl⟩ | ⟨waits, rfl⟩ | rfl
  · exact ⟨SortedMap.forall_insert holds.1 (added field isField), holds.2⟩
  · refine ⟨holds.1, fun key listed => ?_⟩
    rcases List.mem_append.mp listed with earlier | last
    · exact holds.2 key earlier
    · rw [List.mem_singleton.mp last]
      exact waiting waits
  · exact holds

theorem resolveDocument_holds {fields fields' : SortedMap String ReportField} {key : String}
    (waits : ∀ u, Holds Report.documentKey (.uri u) → Holds key (.uri u))
    (holds : ∀ k field, fields.get? k = some field → Holds k field)
    (step : p.resolveDocument fields key = some fields') :
    ∀ k field, fields'.get? k = some field → Holds k field := by
  rcases resolveDocument_cases step with ⟨u, document, rfl⟩ | rfl
  · exact SortedMap.forall_insert holds (waits u (holds _ _ document))
  · exact holds

/-- What holds of each field as it is read from a member, and passes from the document's field to
the names that wait for the document's URI, holds of all fields of the report. -/
theorem parseJson_forall {members : List (String × Json)} {fields : SortedMap String ReportField}
    (read : p.parseJson (.object members) = .valid fields)
    (added : ∀ member ∈ members, ∀ field,
      p.readMember (p.currentKey member.1) member.2 = .field field →
        Holds (p.currentKey member.1) field)
    (waiting : ∀ member ∈ members, p.readMember (p.currentKey member.1) member.2 = .document →
      ∀ u, Holds Report.documentKey (.uri u) → Holds (p.currentKey member.1) (.uri u)) :
    ∀ key field, fields.get? key = some field → Holds key field := by
  obtain ⟨_, draft, same, run, resolved, _⟩ := parseJson_eq_valid_iff.mp read
  cases same
  have start : DraftHolds Holds (∅, []) :=
    ⟨fun _ _ absent => (nomatch absent), fun _ absent => (nomatch absent)⟩
  have drafted : DraftHolds Holds draft :=
    foldlM_keeps (DraftHolds Holds)
      (fun member isMember _ _ =>
        addMember_holds (added member isMember) (waiting member isMember)) start run
  -- No name is left to wait: each was given what holds of the document's field.
  exact foldlM_keeps (fun fields => ∀ key field, fields.get? key = some field → Holds key field)
    (fun key listed _ _ => resolveDocument_holds (drafted.2 key listed)) drafted.1 resolved

end Holds

theorem parseJson_allRead (json : Json) : p.AllRead (p.parseJson json).fields := by
  cases read : p.parseJson json with
  | invalid => exact fun _ _ absent => (nomatch absent)
  | valid fields =>
      obtain ⟨members, _, rfl, _⟩ := parseJson_eq_valid_iff.mp read
      exact parseJson_forall read (fun _ _ _ => readMember_isRead) fun _ _ _ _ => id

theorem parse_allRead (text : String) : p.AllRead (p.parse text).fields := by
  rw [parse]
  split
  · exact parseJson_allRead _
  · exact fun _ _ absent => nomatch absent

theorem isRead_of_directive? {r : Report} (read : p.AllRead r.fields) {key : String} {d : Directive}
    (found : r.directive? key = some d) : p.IsRead (.directive d) := by
  rw [Report.directive?, Report.get?] at found
  split at found
  · rename_i field
    cases found
    exact read key _ field
  · cases found

theorem isRead_of_uri? {r : Report} (read : p.AllRead r.fields) {key : String} {u : Uri}
    (found : r.uri? key = some u) : p.IsRead (.uri u) := by
  rw [Report.uri?, Report.get?] at found
  split at found
  · rename_i field
    cases found
    exact read key _ field
  · cases found

theorem isRead_of_policy? {r : Report} (read : p.AllRead r.fields) {key : String} {q : Policy}
    (found : r.policy? key = some q) : p.IsRead (.policy q) := by
  rw [Report.policy?, Report.get?] at found
  split at found
  · rename_i field
    cases found
    exact read key _ field
  · cases found

end ReportParser

theorem LogEntry.report?_eq_some_iff {e : LogEntry} {r : Report} :
    e.report? = some r ↔ e.get? reportKey = some (.report r) := by
  rw [report?]
  split
  · rename_i field
    rw [field, Option.some.injEq, Option.some.injEq, LogField.report.injEq]
  · rename_i other
    exact iff_of_false nofun (other r)

namespace LogEntryParser

variable {p : LogEntryParser}

def AllRead (p : LogEntryParser) (fields : SortedMap String LogField) : Prop :=
  ∀ key r, fields.get? key = some (.report r) → ∃ json, p.report.parseJson json = r

theorem addMember_cases {fields fields' : SortedMap String LogField} {member : String × Json}
    (step : p.addMember fields member = some fields') :
    (member.1 = LogEntry.reportKey ∧ (p.report.parseJson member.2).isInvalid = false ∧
        fields' = fields.insert member.1 (.report (p.report.parseJson member.2))) ∨
      (member.1 ≠ LogEntry.reportKey ∧ fields' = fields.insert member.1 (.raw member.2)) ∨
      fields' = fields := by
  rw [addMember] at step
  dsimp only at step
  split at step
  · rename_i isReport
    split at step
    · rename_i valid
      exact .inl ⟨isReport, by simpa using valid, (Option.some.inj step).symm⟩
    · split at step
      · cases step
      · exact .inr (.inr (Option.some.inj step).symm)
  · rename_i other
    exact .inr (.inl ⟨other, (Option.some.inj step).symm⟩)

theorem parseJson_eq_valid_iff {json : Json} {fields : SortedMap String LogField} :
    p.parseJson json = .valid fields ↔
      ∃ members, json = .object members ∧ members.foldlM p.addMember ∅ = some fields ∧
        p.requiredKeys.all fields.contains = true := by
  constructor
  · intro read
    rw [parseJson.eq_def] at read
    split at read
    · rename_i members
      split at read
      · rename_i run
        split at read
        · rename_i required
          cases read
          exact ⟨members, rfl, run, required⟩
        · cases read
      · cases read
    · cases read
  · rintro ⟨members, rfl, run, required⟩
    rw [parseJson, run]
    exact if_pos required

/-- A field that stands where its kind belongs: a report that was read under the name of reports,
and all else under other names. -/
def Fits (p : LogEntryParser) (key : String) : LogField → Prop
  | .report r =>
      key = LogEntry.reportKey ∧ r.isInvalid = false ∧ ∃ json, p.report.parseJson json = r
  | .raw _ => key ≠ LogEntry.reportKey

def AllFit (p : LogEntryParser) (fields : SortedMap String LogField) : Prop :=
  ∀ key field, fields.get? key = some field → p.Fits key field

theorem addMember_fits {fields fields' : SortedMap String LogField} {member : String × Json}
    (fits : p.AllFit fields) (step : p.addMember fields member = some fields') :
    p.AllFit fields' := by
  rcases addMember_cases step with ⟨isReport, valid, rfl⟩ | ⟨other, rfl⟩ | rfl
  · exact SortedMap.forall_insert fits ⟨isReport, valid, member.2, rfl⟩
  · exact SortedMap.forall_insert fits other
  · exact fits

theorem parseJson_fits {json : Json} {fields : SortedMap String LogField}
    (read : p.parseJson json = .valid fields) : p.AllFit fields := by
  obtain ⟨members, _, run, _⟩ := parseJson_eq_valid_iff.mp read
  have start : p.AllFit ∅ := fun _ _ absent => nomatch absent
  exact foldlM_keeps p.AllFit (fun _ _ _ _ => addMember_fits) start run

theorem parse_allRead (text : String) : p.AllRead (p.parse text).fields := by
  intro key r found
  rw [parse] at found
  split at found
  · rename_i json _
    cases read : p.parseJson json with
    | invalid =>
        rw [read] at found
        cases found
    | valid fields =>
        rw [read] at found
        exact (parseJson_fits read key _ found).2.2
  · cases found

end LogEntryParser

end ContentPolicy
