import ContentPolicy.Proofs.Generation.Events
import ContentPolicy.Proofs.Generation.Union

/-!
The segments of generated policies. Combining policies adds and loses no source, and stripping paths
loses all data; so the printed policy has one segment for each directive unless paths are kept and
an event has data with a semicolon.
-/

namespace ContentPolicy

open Text

namespace Policy

theorem reported_of_isUnion {u : Policy} {ps : List Policy} (union : u.IsUnion ps)
    (each : ∀ p ∈ ps, p.Reported) : u.Reported := by
  intro type w found
  constructor
  · obtain ⟨p, member, v, own⟩ := (union.types type).mp ⟨w, found⟩
    exact (each p member type v own).1
  · intro s inside
    obtain ⟨p, member, v, own, source⟩ := (union.sources type s).mp ⟨w, found, inside⟩
    exact (each p member type v own).2 s source

theorem reported_strip {q : Policy} (reported : q.Reported) (schemes : List String) :
    (q.stripPaths schemes).Reported := by
  intro type stripped found
  rw [get?_strip] at found
  obtain ⟨w, own, rfl⟩ := Option.map_eq_some_iff.mp found
  refine ⟨(reported type w own).1, fun s member => ?_⟩
  obtain ⟨_, whole, inside, image⟩ := Whitelist.mem_strip.mp member
  cases s with
  | uri p =>
      obtain ⟨pattern, rfl, cases⟩ := Source.strip_uri_cases image
      have form : pattern.Reported := (reported type w own).2 _ inside
      rcases cases with ⟨_, rfl⟩ | ⟨_, rfl⟩
      · exact UriPattern.reported_of_location (l := .ofScheme pattern.scheme)
          ⟨form.scheme, .inr (.inl rfl)⟩ none ""
      · exact ⟨form.scheme, form.host⟩
  | self => trivial
  | unsafeInline => trivial
  | unsafeEval => trivial
  | invalid => trivial

/-- Stripping reduces the schemes that have data to the scheme alone. -/
theorem hostsClear_strip {q : Policy} (reported : q.Reported) :
    (q.stripPaths Scheme.reducedToScheme).HostsClear := by
  intro type p found inside
  obtain ⟨stripped, directive, member⟩ := found
  rw [get?_strip] at directive
  obtain ⟨w, own, rfl⟩ := Option.map_eq_some_iff.mp directive
  obtain ⟨_, whole, source, image⟩ := Whitelist.mem_strip.mp member
  obtain ⟨pattern, rfl, cases⟩ := Source.strip_uri_cases image
  have form : pattern.Reported := (reported type w own).2 _ source
  rcases cases with ⟨_, rfl⟩ | ⟨kept, rfl⟩
  · rw [UriPattern.ofScheme, UriPattern.make, SourceParser.toLower_empty] at inside
    cases inside
  -- A semicolon makes it a scheme with data, and all of these are reduced.
  · have listed := Scheme.hasNoSlashes_iff.mp (form.noSlashes_of_semicolon inside)
    have reduced : ∀ s ∈ Scheme.withoutSlashes, s ≠ "" ∧ s ∈ Scheme.reducedToScheme := by
      decide
    obtain ⟨notEmpty, isReduced⟩ := reduced pattern.scheme listed
    exact kept.elim notEmpty fun notListed => notListed isReduced

theorem segmentTypes_reported_iff {q : Policy} (reported : q.Reported)
    (isValid : q.isInvalid = false) (notEmpty : q.hasNoDirective = false) :
    (segmentTypes q.render).Perm (q.whitelists.keys.map some) ↔ q.HostsClear := by
  cases q with
  | invalid => cases isValid
  | valid m =>
      have stored : ∀ e ∈ m.entries, (valid m).whitelists.get? e.1 = some e.2 :=
        fun _ entry => SortedMap.get?_of_mem entry
      have tokens : ∀ e ∈ m.entries, IsToken e.1.toList := fun e entry =>
        DirectiveParser.standardTypes_isToken (reported e.1 e.2 (stored e entry)).1
      refine (segmentTypes_render_iff notEmpty tokens).trans ?_
      constructor
      · intro clear type p found inside
        obtain ⟨w, directive, member⟩ := found
        have entry := (SortedMap.get?_eq_some_iff m type w).mp directive
        have source := (reported type w directive).2 _ member
        exact clear (type, w) entry _ member
          ((Source.semicolon_mem_render source).mpr ⟨p, rfl, inside⟩)
      · intro clear e entry s member inside
        have source := (reported e.1 e.2 (stored e entry)).2 s member
        obtain ⟨p, rfl, mark⟩ := (Source.semicolon_mem_render source).mp inside
        exact clear e.1 p ⟨e.2, stored e entry, member⟩ mark

end Policy

namespace Settings

open Policy

theorem hasSource_combineAll_eventPolicies {s : Settings} {source : EventSource}
    {lines : List String} (type : String) (x : Source) :
    (combineAll (s.eventPolicies source lines)).HasSource type x ↔
      ∃ line ∈ lines, ∃ q, s.eventPolicy? source line = some q ∧ q.HasSource type x := by
  have union := isUnion_combineAll (s.combinable_eventPolicies source lines)
  refine (union.sources type x).trans ?_
  constructor
  · rintro ⟨q, member, has⟩
    obtain ⟨⟨line, inside, event⟩, _⟩ := mem_eventPolicies.mp member
    exact ⟨line, inside, q, event, has⟩
  · rintro ⟨line, inside, q, event, has⟩
    have isValid : q.isInvalid = false := by
      cases q with
      | valid m => rfl
      | invalid =>
          obtain ⟨_, absent, _⟩ := has
          cases absent
    exact ⟨q, mem_eventPolicies.mpr ⟨⟨line, inside, event⟩, isValid⟩, has⟩

theorem reported_combineAll_eventPolicies {s : Settings} (plain : s.report.IsPlain)
    (source : EventSource) (lines : List String) :
    (combineAll (s.eventPolicies source lines)).Reported := by
  apply reported_of_isUnion (isUnion_combineAll (s.combinable_eventPolicies source lines))
  intro q member
  obtain ⟨⟨line, _, event⟩, _⟩ := mem_eventPolicies.mp member
  exact eventPolicy?_reported plain event

/-- The printed text of a policy that was generated with the standard settings has one segment for
each directive, which starts with its type, exactly when paths are stripped or no event has a source
with a semicolon in its host. -/
theorem segmentTypes_generate_iff {o : Overrides} {s : Settings}
    (resolved : Config.resolve {} o = .ok s) {source : EventSource} {stripPaths : Bool}
    {file : FileLines} {g : Generation}
    (done : (s.generate source stripPaths file).result = .ok g)
    (notEmpty : g.policy.hasNoDirective = false) :
    (Policy.segmentTypes g.receipt.policy.toList).Perm (g.policy.whitelists.keys.map some) ↔
      stripPaths = true ∨
        ∀ line ∈ file.lines, ∀ q, s.eventPolicy? source line = some q → q.HostsClear := by
  obtain ⟨plain, schemeOnly⟩ : s.report.IsPlain ∧ s.schemeOnly = Scheme.reducedToScheme := by
    rw [Config.resolve_default] at resolved
    obtain rfl := Except.ok.inj resolved
    exact ⟨standard_isPlain _ _, rfl⟩
  obtain rfl := s.eq_generation_of_result source stripPaths done
  have reported := reported_combineAll_eventPolicies plain source file.lines
  have isValid := s.generation_valid source stripPaths file.lines
  have printed : (s.generation source stripPaths file.lines).receipt.policy.toList =
      (s.generation source stripPaths file.lines).policy.render := String.toList_ofList
  -- Stripped or not, the policy has the reported form, so its hosts alone decide.
  rw [printed]
  rw [generation] at notEmpty isValid ⊢
  cases stripPaths with
  | true =>
      rw [kept, if_pos rfl, schemeOnly] at notEmpty isValid ⊢
      rw [segmentTypes_reported_iff (reported_strip reported _) isValid notEmpty]
      exact iff_of_true (hostsClear_strip reported) (.inl rfl)
  | false =>
      rw [kept, if_neg Bool.false_ne_true] at notEmpty isValid ⊢
      rw [segmentTypes_reported_iff reported isValid notEmpty, or_iff_right Bool.false_ne_true]
      constructor
      · intro clear line member q event type p has
        exact clear type p
          ((hasSource_combineAll_eventPolicies type _).mpr ⟨line, member, q, event, has⟩)
      · intro clear type p has
        obtain ⟨line, member, q, event, inside⟩ :=
          (hasSource_combineAll_eventPolicies type _).mp has
        exact clear line member q event type p inside

/-- A semicolon in a path is escaped, so it starts no segment. -/
theorem segmentTypes_generate_host :
    let s := Settings.standard .strict true
    let file : FileLines := ⟨"reports", ["\x7b\"violated-directive\":\"img-src 'self'\"," ++
      "\"document-uri\":\"http://d\",\"blocked-uri\":\"http://b/x%3By\"\x7d"], none⟩
    let image : Source := .uri ⟨"http", "b", none, "/x;y"⟩
    let g : Generation := ⟨.valid (.singleton "img-src" (.singleton image)), 1, 1⟩
    Config.resolve {} {} = .ok s ∧ (s.generate (.reports .regular) false file).result = .ok g ∧
      g.policy.hasNoDirective = false ∧
      (∀ line ∈ file.lines, ∀ q, s.eventPolicy? (.reports .regular) line = some q →
        q.HostsClear) ∧
      (Policy.segmentTypes g.receipt.policy.toList).Perm [some "img-src"] := by
  intro s file image g
  have resolved : Config.resolve {} {} = .ok s := Config.resolve_default {}
  obtain ⟨done, event⟩ : (s.generate (.reports .regular) false file).result = .ok g ∧
      ∀ line ∈ file.lines, s.eventPolicy? (.reports .regular) line = some g.policy := by
    decide +kernel
  have clear : g.policy.HostsClear := by
    rintro type p ⟨w, found, inside⟩
    obtain ⟨_, own⟩ := Option.ite_none_right_eq_some.mp
      ((SortedMap.get?_singleton _ _ _).symm.trans found)
    obtain rfl := Option.some.inj own
    obtain rfl := Source.uri.inj ((SortedSet.mem_singleton _ _).mp inside)
    decide
  have all : ∀ line ∈ file.lines, ∀ q, s.eventPolicy? (.reports .regular) line = some q →
      q.HostsClear := by
    intro line member q found
    exact Option.some.inj ((event line member).symm.trans found) ▸ clear
  exact ⟨resolved, done, rfl, all, (segmentTypes_generate_iff resolved done rfl).mpr (.inr all)⟩

/-- The data of a blocked URI are written as they are, and can add a directive. -/
theorem segmentTypes_generate_data :
    ¬∀ (o : Overrides) (s : Settings) (source : EventSource) (stripPaths : Bool)
      (file : FileLines) (g : Generation), Config.resolve {} o = .ok s →
        (s.generate source stripPaths file).result = .ok g → g.policy.hasNoDirective = false →
        (Policy.segmentTypes g.receipt.policy.toList).Perm
          (g.policy.whitelists.keys.map some) := by
  intro all
  let file : FileLines := ⟨"reports", ["\x7b\"violated-directive\":\"img-src 'self'\"," ++
    "\"document-uri\":\"http://d\",\"blocked-uri\":\"data:x;script-src *\"\x7d"], none⟩
  let data : Source := .uri ⟨"data", "x;script-src *", none, ""⟩
  let g : Generation := ⟨.valid (.singleton "img-src" (.singleton data)), 1, 1⟩
  have resolved := Config.resolve_default {}
  have done : ((Settings.standard .strict true).generate (.reports .regular) false file).result =
      .ok g := by
    decide +kernel
  have same := (all _ _ _ _ _ _ resolved done rfl).length_eq
  have two : (Policy.segmentTypes g.receipt.policy.toList).length = 2 := by decide +kernel
  exact absurd (two.symm.trans same) (by decide)

end Settings

end ContentPolicy
