import ContentPolicy.Proofs.Directive.Reading
import ContentPolicy.Proofs.Policy.Combination
import ContentPolicy.Proofs.Source.Matching

/-!
Policies without paths. Stripping keeps all types; the sources of a stripped policy are what is left
of the sources of the policy, so stripping a union is the union of what was stripped. What is left
of a source has nothing more to lose, so stripping twice is stripping once.
-/

namespace ContentPolicy

namespace Source

theorem strip_ofScheme (schemes : List String) (scheme : String) :
    (uri (.ofScheme scheme)).strip schemes = .uri (.ofScheme scheme) := by
  rw [strip_uri]
  split
  · simp only [UriPattern.ofScheme, UriPattern.make, Text.toLower_idempotent]
  · rfl

theorem strip_strip (schemes : List String) (s : Source) :
    (s.strip schemes).strip schemes = s.strip schemes := by
  cases s with
  | uri p =>
      rw [strip_uri]
      split
      · exact strip_ofScheme schemes p.scheme
      -- Without its path a pattern has the scheme that it had, and it is not listed.
      · rename_i kept
        exact (strip_uri schemes p.withoutPath).trans (if_neg kept)
  | self => rfl
  | unsafeInline => rfl
  | unsafeEval => rfl
  | invalid => rfl

end Source

namespace Whitelist

theorem mem_strip {schemes : List String} {w : Whitelist} {s : Source} :
    s ∈ w.strip schemes ↔ s.isInvalid = false ∧ ∃ whole ∈ w, whole.strip schemes = s := by
  rw [strip, mem_ofSources, List.mem_map, and_comm]
  rfl

theorem strip_strip (schemes : List String) (w : Whitelist) :
    Whitelist.strip schemes (w.strip schemes) = w.strip schemes := by
  apply SortedSet.ext_mem
  intro s
  constructor
  · intro twice
    obtain ⟨isValid, once, inside, same⟩ := mem_strip.mp twice
    obtain ⟨_, whole, member, rfl⟩ := mem_strip.mp inside
    rw [Source.strip_strip] at same
    exact mem_strip.mpr ⟨isValid, whole, member, same⟩
  · intro once
    obtain ⟨isValid, whole, _, rfl⟩ := mem_strip.mp once
    exact mem_strip.mpr ⟨isValid, _, once, Source.strip_strip schemes whole⟩

theorem strip_union (schemes : List String) (v w : Whitelist) :
    Whitelist.strip schemes (v.union w) = (v.strip schemes).union (w.strip schemes) := by
  apply SortedSet.ext_mem
  intro s
  simp only [SortedSet.mem_union, mem_strip, or_and_right, exists_or, and_or_left]

end Whitelist

namespace Source

theorem strip_uri_cases {schemes : List String} {s : Source} {p : UriPattern}
    (stripped : s.strip schemes = .uri p) :
    ∃ whole, s = .uri whole ∧
      (whole.scheme ∈ schemes ∧ p = .ofScheme whole.scheme ∨
        (whole.scheme = "" ∨ whole.scheme ∉ schemes) ∧ p = whole.withoutPath) := by
  cases s with
  | uri whole =>
      refine ⟨whole, rfl, ?_⟩
      rw [strip_uri] at stripped
      split at stripped
      · rename_i listed
        exact .inl ⟨listed.2, (Source.uri.inj stripped).symm⟩
      · rename_i kept
        rw [not_and_or, not_not] at kept
        exact .inr ⟨kept, (Source.uri.inj stripped).symm⟩
  | self => cases stripped
  | unsafeInline => cases stripped
  | unsafeEval => cases stripped
  | invalid => cases stripped

end Source

namespace Policy

variable (schemes : List String)

theorem isInvalid_strip (q : Policy) : (q.stripPaths schemes).isInvalid = q.isInvalid := by
  cases q with
  | invalid => rfl
  | valid m => rfl

theorem get?_strip (q : Policy) (type : String) :
    (q.stripPaths schemes).whitelists.get? type =
      (q.whitelists.get? type).map (Whitelist.strip schemes) := by
  cases q with
  | invalid => rfl
  | valid m => exact SortedMap.get?_mapValues m (Whitelist.strip schemes) type

theorem hasDirective_strip (q : Policy) (type : String) :
    (q.stripPaths schemes).HasDirective type ↔ q.HasDirective type := by
  simp only [HasDirective, get?_strip, Option.map_eq_some_iff]
  constructor
  · rintro ⟨_, w, found, _⟩
    exact ⟨w, found⟩
  · rintro ⟨w, found⟩
    exact ⟨_, w, found, rfl⟩

theorem hasSource_strip (q : Policy) (type : String) (s : Source) :
    (q.stripPaths schemes).HasSource type s ↔
      s.isInvalid = false ∧ ∃ whole, q.HasSource type whole ∧ whole.strip schemes = s := by
  simp only [HasSource, get?_strip, Option.map_eq_some_iff]
  constructor
  · rintro ⟨_, ⟨w, found, rfl⟩, member⟩
    obtain ⟨isValid, whole, inside, image⟩ := Whitelist.mem_strip.mp member
    exact ⟨isValid, whole, ⟨w, found, inside⟩, image⟩
  · rintro ⟨isValid, whole, ⟨w, found, inside⟩, image⟩
    exact ⟨_, ⟨w, found, rfl⟩, Whitelist.mem_strip.mpr ⟨isValid, whole, inside, image⟩⟩

theorem strip_strip (q : Policy) :
    (q.stripPaths schemes).stripPaths schemes = q.stripPaths schemes := by
  apply ext_get? (isInvalid_strip schemes _)
  intro type
  simp only [get?_strip, Option.map_map]
  cases q.whitelists.get? type with
  | none => rfl
  | some w => exact congrArg some (Whitelist.strip_strip schemes w)

theorem combinable_strip (ps : List Policy) :
    Combinable (ps.map (stripPaths schemes)) ↔ Combinable ps := by
  simp only [Combinable, List.forall_mem_map, isInvalid_strip, hasDirective_strip]

theorem isInvalid_combine_strip (p q : Policy) :
    ((p.stripPaths schemes).combine (q.stripPaths schemes)).isInvalid =
      (p.combine q).isInvalid := by
  rw [Bool.eq_iff_iff, ← not_iff_not, Bool.not_eq_true, Bool.not_eq_true,
    isInvalid_combine_iff, isInvalid_combine_iff]
  exact combinable_strip schemes [p, q]

theorem strip_combine (p q : Policy) :
    (p.combine q).stripPaths schemes = (p.stripPaths schemes).combine (q.stripPaths schemes) := by
  have same := isInvalid_combine_strip schemes p q
  cases isInvalid : (p.combine q).isInvalid with
  | true =>
      rw [isInvalid_iff.mp isInvalid, isInvalid_iff.mp (same.trans isInvalid)]
      rfl
  | false =>
      apply ext_get? ((isInvalid_strip schemes _).trans same.symm)
      intro type
      rw [get?_strip, get?_combine isInvalid, get?_combine (same.trans isInvalid), get?_strip,
        get?_strip]
      cases p.whitelists.get? type with
      | none => cases q.whitelists.get? type <;> rfl
      | some v =>
          cases q.whitelists.get? type with
          | none => rfl
          | some w => exact congrArg some (Whitelist.strip_union schemes v w)

theorem strip_combineAll (ps : List Policy) :
    (combineAll ps).stripPaths schemes = combineAll (ps.map (stripPaths schemes)) := by
  -- Stripping leaves the empty policy, with which the fold starts, as it is.
  suffices step : ∀ start : Policy, (ps.foldl combine start).stripPaths schemes =
      (ps.map (stripPaths schemes)).foldl combine (start.stripPaths schemes) from step empty
  induction ps with
  | nil => exact fun _ => rfl
  | cons p rest ih =>
      intro start
      rw [List.foldl_cons, ih, strip_combine, List.map_cons, List.foldl_cons]

theorem isUnion_strip {u : Policy} {ps : List Policy} (union : u.IsUnion ps) :
    (u.stripPaths schemes).IsUnion (ps.map (stripPaths schemes)) := by
  constructor
  · intro type
    rw [hasDirective_strip, union.types]
    constructor
    · rintro ⟨p, member, has⟩
      exact ⟨_, List.mem_map_of_mem member, (hasDirective_strip schemes p type).mpr has⟩
    · rintro ⟨_, image, has⟩
      obtain ⟨p, member, rfl⟩ := List.mem_map.mp image
      exact ⟨p, member, (hasDirective_strip schemes p type).mp has⟩
  · intro type s
    rw [hasSource_strip]
    constructor
    · rintro ⟨isValid, whole, source, same⟩
      obtain ⟨p, member, has⟩ := (union.sources type whole).mp source
      exact ⟨_, List.mem_map_of_mem member,
        (hasSource_strip schemes p type s).mpr ⟨isValid, whole, has, same⟩⟩
    · rintro ⟨_, image, has⟩
      obtain ⟨p, member, rfl⟩ := List.mem_map.mp image
      obtain ⟨isValid, whole, source, same⟩ := (hasSource_strip schemes p type s).mp has
      exact ⟨isValid, whole, (union.sources type whole).mpr ⟨p, member, source⟩, same⟩

/-- Stripping paths is idempotent, and it makes no difference whether policies are stripped before
or after they are combined, be the combination invalid or not; so all members of a fold can be
stripped beforehand. -/
theorem stripPaths_homomorphism (p q : Policy) (ps : List Policy) :
    (p.stripPaths schemes).stripPaths schemes = p.stripPaths schemes ∧
      (p.combine q).stripPaths schemes =
        (p.stripPaths schemes).combine (q.stripPaths schemes) ∧
      (combineAll ps).stripPaths schemes = combineAll (ps.map (stripPaths schemes)) :=
  ⟨strip_strip schemes p, strip_combine schemes p q, strip_combineAll schemes ps⟩

end Policy

end ContentPolicy
