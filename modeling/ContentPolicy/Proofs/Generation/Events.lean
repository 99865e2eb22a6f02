import ContentPolicy.Proofs.Directive.Reading
import ContentPolicy.Proofs.Generation.Violations
import ContentPolicy.Proofs.Policy.Segments
import ContentPolicy.Proofs.Settings.Standard
import ContentPolicy.Proofs.Uri.Reading

/-!
The policies that events give. Each has standard types and sources that were made from the blocked
URI, so a semicolon can only stand in the data of a scheme without slashes.
-/

namespace ContentPolicy

open Text

/-- The form of patterns that are made from URIs that were read. -/
structure UriPattern.Reported (p : UriPattern) : Prop where
  scheme : ∀ c ∈ p.scheme.toList, UriParts.isSchemeChar c = true
  host : Scheme.hasNoSlashes p.scheme = true ∨ p.host = "" ∨ Authority.isName p.host.toList = true

def Source.Reported : Source → Prop
  | .uri p => p.Reported
  | _ => True

def Policy.Reported (q : Policy) : Prop :=
  ∀ type w, q.whitelists.get? type = some w →
    type ∈ DirectiveParser.standardTypes ∧ ∀ s ∈ w, s.Reported

/-- Whether no pattern has a semicolon in its host, which is written as it is. -/
def Policy.HostsClear (q : Policy) : Prop :=
  ∀ type p, q.HasSource type (.uri p) → ';' ∉ p.host.toList

namespace UriPattern

theorem semicolon_mem_render {p : UriPattern} (reported : p.Reported) :
    ';' ∈ p.render ↔ ';' ∈ p.host.toList := by
  have noScheme : ';' ∉ p.scheme.toList := by
    intro inside
    exact absurd (reported.scheme ';' inside) (by decide)
  have noPath : ';' ∉ Percent.encodePath p.path.toList := fun inside =>
    (Percent.encodePath_clear inside).2.1 rfl
  have noPort : ';' ∉ renderPort p.port := by
    intro inside
    cases written : p.port with
    | none =>
        rw [written] at inside
        cases inside
    | some port =>
        rw [written] at inside
        rcases List.mem_cons.mp inside with colon | digit
        · exact absurd colon (by decide)
        · exact absurd (PortPattern.mem_render digit) (by decide)
  -- Of all the parts only the host is written as it is.
  rw [render]
  by_cases only : p.isSchemeOnly = true
  · have noHost : p.host = "" := by
      simp only [isSchemeOnly, Bool.and_eq_true, decide_eq_true_eq] at only
      exact only.1.1.2
    rw [if_pos only, noHost]
    simp [noScheme]
  · rw [if_neg only]
    have noMark : ';' ∉ renderScheme p.scheme := by
      rw [renderScheme]
      split
      · exact List.not_mem_nil
      · simp [noScheme]
    simp only [List.mem_append, noMark, noPort, noPath, false_or, or_false]

/-- Only the data of a scheme without slashes can hold a semicolon. -/
theorem Reported.noSlashes_of_semicolon {p : UriPattern} (reported : p.Reported)
    (inside : ';' ∈ p.host.toList) : Scheme.hasNoSlashes p.scheme = true := by
  rcases reported.host with noSlashes | noHost | isName
  · exact noSlashes
  · rw [noHost] at inside
    cases inside
  · rw [Authority.isName, Bool.and_eq_true] at isName
    have named := List.all_eq_true.mp isName.2 ';' inside
    exact absurd rfl (Authority.isNameChar_clear (.inl named)).2.1

theorem reported_of_location {l : Location} (readable : l.Readable) (port : Option PortPattern)
    (path : String) : (make l.scheme l.host port path).Reported := by
  rw [make]
  constructor
  · intro c member
    rw [toList_toLower] at member
    obtain ⟨d, inside, rfl⟩ := List.mem_map.mp member
    rw [isSchemeChar_toLower]
    exact readable.scheme d inside
  · rcases readable.host with noSlashes | noHost | isName
    · left
      have lowered : ∀ s ∈ Scheme.withoutSlashes, s.toLower = s := by decide +kernel
      rw [lowered l.scheme (Scheme.hasNoSlashes_iff.mp noSlashes)]
      exact noSlashes
    · rw [noHost]
      exact .inr (.inl SourceParser.toLower_empty)
    · rw [toList_toLower, Authority.isName_lower]
      exact .inr (.inr isName)

end UriPattern

theorem Source.semicolon_mem_render {s : Source} (reported : s.Reported) :
    ';' ∈ s.render ↔ ∃ p, s = .uri p ∧ ';' ∈ p.host.toList := by
  cases s with
  | uri p =>
      change ';' ∈ p.render ↔ _
      rw [UriPattern.semicolon_mem_render reported]
      simp
  | self => exact iff_of_false (by decide) (fun ⟨_, absent, _⟩ => nomatch absent)
  | unsafeInline => exact iff_of_false (by decide) (fun ⟨_, absent, _⟩ => nomatch absent)
  | unsafeEval => exact iff_of_false (by decide) (fun ⟨_, absent, _⟩ => nomatch absent)
  | invalid => exact iff_of_false (by decide) (fun ⟨_, absent, _⟩ => nomatch absent)

/-- How a reader of reports must be set up for the policies of its reports to have the reported
form. -/
structure ReportParser.IsPlain (p : ReportParser) : Prop where
  types : p.policy.directive.allowedTypes = DirectiveParser.standardTypes
  schemes : p.uri.schemePorts.Named
  noScheme : p.uri.addScheme = false

namespace ReportParser

variable {p : ReportParser}

theorem type_of_read (plain : p.IsPlain) {d : Directive} (read : p.IsRead (.directive d)) :
    d.type ∈ DirectiveParser.standardTypes := by
  have phrases : ∀ r ∈ Restriction.all, r.type ∈ DirectiveParser.standardTypes := by decide
  obtain ⟨valid, text, parsed⟩ := read
  rcases DirectiveParser.type_of_read valid parsed with allowed | ⟨phrase, listed, same⟩
  · have same : p.policyParser.directive.allowedTypes = DirectiveParser.standardTypes := plain.types
    rw [same] at allowed
    exact List.contains_iff_mem.mp allowed
  · exact same ▸ phrases phrase listed

theorem eventSource_reported (plain : p.IsPlain) {blocked : Uri} (read : p.IsRead (.uri blocked))
    (type : ReportType) : (Directive.eventSource type blocked).Reported := by
  obtain ⟨_, text, parsed⟩ := read
  have blank : Location.blank.Readable := ⟨fun _ absent => (nomatch absent), .inr (.inl rfl)⟩
  cases type with
  | regular =>
      apply UriPattern.reported_of_location
      cases blocked with
      | regular l => exact UriParser.read_readable plain.schemes plain.noScheme parsed
      | empty => exact blank
      | invalid => exact blank
      | inline => exact blank
      | eval => exact blank
  | eval => trivial
  | inline => trivial

end ReportParser

theorem Violation.policy_reported {p : ReportParser} (plain : p.IsPlain) {v : Violation}
    (violated : p.IsRead (.directive v.violated)) (blocked : p.IsRead (.uri v.blocked)) :
    v.policy.Reported := by
  intro type w found
  rw [policy, Policy.whitelists, SortedMap.get?_singleton] at found
  split at found
  · rename_i same
    cases found
    refine ⟨same ▸ ReportParser.type_of_read plain violated, fun s member => ?_⟩
    obtain rfl := (SortedSet.mem_singleton _ s).mp member
    exact ReportParser.eventSource_reported plain blocked v.type
  · cases found

namespace Settings

theorem eventPolicy?_reported {s : Settings} (plain : s.report.IsPlain) {source : EventSource}
    {line : String} {q : Policy} (found : s.eventPolicy? source line = some q) : q.Reported := by
  cases q with
  | invalid => exact fun _ _ absent => nomatch absent
  | valid m =>
      obtain ⟨v, isViolation, _, made⟩ := violation_of_eventPolicy? found rfl
      obtain ⟨violated, blocked⟩ := violation_isRead isViolation
      exact made ▸ Violation.policy_reported plain violated blocked

theorem standard_isPlain (profile : Profile) (strict : Bool) :
    (Settings.standard profile strict).report.IsPlain :=
  ⟨rfl, SchemePorts.standard_named, rfl⟩

end Settings

end ContentPolicy
