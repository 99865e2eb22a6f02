import ContentPolicy.Proofs.Directive.Violation
import ContentPolicy.Proofs.Policy.Combination
import ContentPolicy.Proofs.Report.Reading
import ContentPolicy.Task.Generation

/-!
The violations that entries tell of. An entry whose policy is valid names a violated directive and
a blocked URI that fit together, and its policy has one directive with the one source made from
them; so no such policy has the directive for all types.
-/

namespace ContentPolicy

structure Violation where
  violated : Directive
  type : ReportType
  blocked : Uri
  deriving DecidableEq

namespace Violation

def event (v : Violation) : Uri := Directive.event v.type v.blocked

def source (v : Violation) : Source := Directive.eventSource v.type v.blocked

def policy (v : Violation) : Policy := .valid (.singleton v.violated.type (.singleton v.source))

def Admissible (v : Violation) : Prop := Directive.Admissible v.violated v.type v.blocked

theorem hasDirective_policy (v : Violation) (type : String) :
    v.policy.HasDirective type ↔ type = v.violated.type := by
  rw [Policy.HasDirective, policy, Policy.whitelists]
  simp [SortedMap.get?_singleton]

theorem hasSource_policy (v : Violation) (type : String) (s : Source) :
    v.policy.HasSource type s ↔ type = v.violated.type ∧ s = v.source := by
  rw [Policy.HasSource, policy, Policy.whitelists]
  simp [SortedMap.get?_singleton]

end Violation

def Report.violation? (r : Report) (type : ReportType) : Option Violation :=
  match r.directive? violatedKey, r.uri? blockedKey with
  | some violated, some blocked => some ⟨violated, type, blocked⟩
  | _, _ => none

def LogEntry.violation? (e : LogEntry) : Option Violation :=
  match e.report?, e.typeName? with
  | some r, some name => (ReportType.ofName? name).bind r.violation?
  | _, _ => none

namespace Settings

def violation? (s : Settings) (source : EventSource) (line : String) : Option Violation :=
  match source with
  | .reports type => (s.report.parse line).violation? type
  | .logEntries => (s.logEntry.parse line).violation?

end Settings

theorem Report.violation_of_valid {r : Report} {type : ReportType}
    (isValid : (r.generatePolicy type).isInvalid = false) :
    ∃ v, r.violation? type = some v ∧ v.Admissible ∧ r.generatePolicy type = v.policy := by
  rw [generatePolicy] at isValid ⊢
  rw [violation?]
  cases isViolated : r.directive? violatedKey with
  | none =>
      rw [isViolated] at isValid
      cases isValid
  | some violated =>
      cases isBlocked : r.uri? blockedKey with
      | none =>
          rw [isViolated, isBlocked] at isValid
          cases isValid
      | some blocked =>
          rw [isViolated, isBlocked] at isValid
          dsimp only at isValid ⊢
          split at isValid
          · cases isValid
          · rename_i generated
            have admissible := Directive.admitting_ne_invalid_iff.mp generated
            refine ⟨⟨violated, type, blocked⟩, rfl, admissible, ?_⟩
            rw [if_neg generated, admissible.admitting_eq]
            rfl

theorem LogEntry.violation_of_valid {e : LogEntry} (isValid : e.generatePolicy.isInvalid = false) :
    ∃ v, e.violation? = some v ∧ v.Admissible ∧ e.generatePolicy = v.policy := by
  rw [generatePolicy] at isValid ⊢
  rw [violation?]
  cases isReport : e.report? with
  | none =>
      rw [isReport] at isValid
      cases isValid
  | some r =>
      cases isName : e.typeName? with
      | none =>
          rw [isReport, isName] at isValid
          cases isValid
      | some name =>
          rw [isReport, isName] at isValid
          dsimp only [Report.generatePolicyFor] at isValid ⊢
          cases named : ReportType.ofName? name with
          | none =>
              rw [named] at isValid
              cases isValid
          | some type =>
              rw [named] at isValid
              exact Report.violation_of_valid isValid

namespace ReportParser

theorem violation_isRead {p : ReportParser} {r : Report} {type : ReportType} {v : Violation}
    (read : p.AllRead r.fields) (found : r.violation? type = some v) :
    p.IsRead (.directive v.violated) ∧ p.IsRead (.uri v.blocked) := by
  rw [Report.violation?] at found
  split at found
  · rename_i isViolated isBlocked
    cases found
    exact ⟨isRead_of_directive? read isViolated, isRead_of_uri? read isBlocked⟩
  · cases found

end ReportParser

namespace LogEntryParser

theorem violation_isRead {p : LogEntryParser} {e : LogEntry} {v : Violation}
    (read : p.AllRead e.fields) (found : e.violation? = some v) :
    p.report.IsRead (.directive v.violated) ∧ p.report.IsRead (.uri v.blocked) := by
  rw [LogEntry.violation?] at found
  split at found
  · rename_i r name isReport _
    obtain ⟨type, _, isViolation⟩ := Option.bind_eq_some_iff.mp found
    rw [LogEntry.report?, LogEntry.get?] at isReport
    split at isReport
    · rename_i field
      cases isReport
      obtain ⟨json, rfl⟩ := read _ _ field
      exact ReportParser.violation_isRead (ReportParser.parseJson_allRead json) isViolation
    · cases isReport
  · cases found

end LogEntryParser

namespace Settings

theorem violation_isRead {s : Settings} {source : EventSource} {line : String} {v : Violation}
    (found : s.violation? source line = some v) :
    s.report.IsRead (.directive v.violated) ∧ s.report.IsRead (.uri v.blocked) := by
  cases source with
  | reports type => exact ReportParser.violation_isRead (ReportParser.parse_allRead line) found
  | logEntries =>
      -- Reports in entries are read the same way, up to the policies in them.
      have all := LogEntryParser.parse_allRead (p := s.logEntry) line
      exact LogEntryParser.violation_isRead all found

/-- The policy that would have allowed the event on a line; none if the line is no entry. -/
def eventPolicy? (s : Settings) (source : EventSource) (line : String) : Option Policy :=
  match source with
  | .reports type => (s.readReport? line).map fun r => r.generatePolicy type
  | .logEntries => (s.readLogEntry? line).map LogEntry.generatePolicy

/-- Where the policy of an event is valid, it is that of the violation on the line. -/
theorem violation_of_eventPolicy? {s : Settings} {source : EventSource} {line : String} {q : Policy}
    (found : s.eventPolicy? source line = some q) (isValid : q.isInvalid = false) :
    ∃ v, s.violation? source line = some v ∧ v.Admissible ∧ q = v.policy := by
  cases source with
  | reports type =>
      obtain ⟨r, read, rfl⟩ := Option.map_eq_some_iff.mp found
      obtain ⟨rfl, _⟩ := Option.guard_eq_some_iff.mp read
      exact Report.violation_of_valid isValid
  | logEntries =>
      obtain ⟨e, read, rfl⟩ := Option.map_eq_some_iff.mp found
      obtain ⟨rfl, _⟩ := Option.guard_eq_some_iff.mp read
      exact LogEntry.violation_of_valid isValid

end Settings

end ContentPolicy
