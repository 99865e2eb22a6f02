import ContentPolicy.Proofs.Directive.Reading
import ContentPolicy.Proofs.Generation.Union
import ContentPolicy.Proofs.Policy.Verdict
import ContentPolicy.Proofs.Settings.Loading

/-!
The generated policy allows all events that it was generated from. The source made from an event
allows it, is in the union of all policies, and allows no less when paths are stripped; and the type
it stands under is the one that is looked up, since types are read in lower case.
-/

namespace ContentPolicy

namespace Settings

theorem exists_kept_source (s : Settings) (stripPaths : Bool) {q : Policy} {type : String}
    {x : Source} (has : q.HasSource type x) {resource document : Uri} {ports : SchemePorts}
    (allowed : x.allows resource document ports = true) :
    ∃ y, (s.kept stripPaths q).HasSource type y ∧ y.allows resource document ports = true := by
  cases stripPaths with
  | true =>
      have remains := Source.strip_allows s.schemeOnly allowed
      have source := (Policy.hasSource_strip s.schemeOnly q type _).mpr
        ⟨Source.valid_of_allows remains, x, has, rfl⟩
      exact ⟨x.strip s.schemeOnly, source, remains⟩
  | false => exact ⟨x, has, allowed⟩

theorem violated_lowered {text : String} {o : Overrides} {s : Settings}
    (loaded : load text o = .ok s) {source : EventSource} {line : String} {v : Violation}
    (found : s.violation? source line = some v) : v.violated.type.toLower = v.violated.type := by
  have phrases : ∀ r ∈ Restriction.all, r.type.toLower = r.type := by decide +kernel
  obtain ⟨⟨valid, text, parsed⟩, _⟩ := violation_isRead found
  rcases DirectiveParser.type_of_read valid parsed with allowed | ⟨phrase, listed, same⟩
  · exact lowered_of_allowed loaded (List.contains_iff_mem.mp allowed)
  · exact same ▸ phrases phrase listed

/-- With settings that were loaded, whatever could be read of a file: the generated policy allows
the event of each line whose own policy is valid, for every document and all tables. -/
theorem allows_generated {text : String} {o : Overrides} {s : Settings}
    (loaded : load text o = .ok s) (source : EventSource) (stripPaths : Bool) {file : FileLines}
    (readable : file.error = none) :
    ∃ g, (s.generate source stripPaths file).result = .ok g ∧
      ∀ line ∈ file.lines, ∀ q, s.eventPolicy? source line = some q → q.isInvalid = false →
        ∃ v, s.violation? source line = some v ∧
          ((v.type = .regular → v.blocked.location.scheme ≠ "") →
            ∀ document ports types,
              g.policy.allows v.event v.violated.type document ports types = true) := by
  refine ⟨_, s.result_generate source stripPaths readable, fun line member q event isValid => ?_⟩
  have inside := mem_eventPolicies.mpr ⟨⟨line, member, event⟩, isValid⟩
  obtain ⟨v, isViolation, admissible, rfl⟩ := violation_of_eventPolicy? event isValid
  refine ⟨v, isViolation, fun named document ports types => ?_⟩
  -- The event's own source, what is kept of it, and that in the union.
  have own : v.policy.HasSource v.violated.type v.source :=
    (v.hasSource_policy _ _).mpr ⟨rfl, rfl⟩
  have allowed : v.source.allows v.event document ports = true :=
    admissible.eventSource_allows named document ports
  obtain ⟨x, has, remains⟩ := s.exists_kept_source stripPaths own allowed
  have union := s.isUnion_generation source stripPaths file.lines
  refine Policy.allows_of_hasSource ?_ remains types
  rw [violated_lowered loaded isViolation]
  exact (union.sources _ x).mpr ⟨_, List.mem_map_of_mem inside, has⟩

/-- Of an image under the scheme of an extension, only the scheme is kept. -/
theorem allows_generated_extension :
    let s := Settings.standard .strict true
    let line := "\x7b\"violated-directive\":\"img-src 'self'\"," ++
      "\"document-uri\":\"http://d\",\"blocked-uri\":\"mx://b/x\"\x7d"
    let file : FileLines := ⟨"reports", [line], none⟩
    let q : Policy := .valid (.singleton "img-src" (.singleton (.uri ⟨"mx", "b", none, "/x"⟩)))
    let image : Uri := .regular ⟨"mx", "b", none, "/x", ""⟩
    load "" {} = .ok s ∧ s.eventPolicy? (.reports .regular) line = some q ∧
      ∃ g, (s.generate (.reports .regular) true file).result = .ok g ∧
        ∀ document ports types, g.policy.allows image "img-src" document ports types = true := by
  intro s line file q image
  have loaded : load "" {} = .ok s :=
    load_eq_ok_iff.mpr ⟨{}, by decide, Config.resolve_default {}⟩
  obtain ⟨event, isViolation⟩ : s.eventPolicy? (.reports .regular) line = some q ∧
      s.violation? (.reports .regular) line =
        some ⟨.regular "img-src" (.singleton .self), .regular, image⟩ := by
    decide +kernel
  have readable : file.error = none := rfl
  obtain ⟨g, done, all⟩ := allows_generated loaded (.reports .regular) true readable
  obtain ⟨v, found, allowed⟩ := all line List.mem_cons_self q event rfl
  obtain rfl := Option.some.inj (isViolation.symm.trans found)
  exact ⟨loaded, event, g, done, allowed fun _ => by decide⟩

end Settings

end ContentPolicy
