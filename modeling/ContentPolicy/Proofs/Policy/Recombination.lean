import ContentPolicy.Proofs.Policy.Basics
import ContentPolicy.Proofs.Policy.Combination

/-!
Putting a policy together again from its basic policies. A whitelist has as many parts as sources,
or one if it has none, so taking a policy apart loses nothing and merges nothing. Combined again in
any order, the basic policies make up the policy they came from, unless it has the directive for all
types beside another one: such parts do not combine.
-/

namespace ContentPolicy

namespace Whitelist

theorem length_parts (w : Whitelist) : w.parts.length = max 1 w.size := by
  rw [parts_eq]
  cases empty : w.isEmpty with
  | true =>
      have noSource : w.size = 0 := List.length_eq_zero_iff.mpr (List.isEmpty_iff.mp empty)
      rw [noSource]
      rfl
  | false =>
      have notEmpty : 0 < w.size :=
        List.length_pos_iff.mpr (by simpa [SortedSet.isEmpty] using empty)
      rw [if_neg Bool.false_ne_true, List.length_map]
      exact (Nat.max_eq_right notEmpty).symm

theorem size_le_one_of_mem_parts {w part : Whitelist} (isPart : part ∈ w.parts) :
    part.size ≤ 1 := by
  rcases mem_parts_iff.mp isPart with ⟨_, rfl⟩ | ⟨s, _, rfl⟩
  · exact Nat.zero_le 1
  · exact Nat.le_refl 1

theorem mem_of_mem_part {w part : Whitelist} (isPart : part ∈ w.parts) {s : Source}
    (inside : s ∈ part) : s ∈ w := by
  rcases mem_parts_iff.mp isPart with ⟨_, rfl⟩ | ⟨t, member, rfl⟩
  · exact absurd inside (SortedSet.not_mem_empty s)
  · exact (SortedSet.mem_singleton t s).mp inside ▸ member

end Whitelist

namespace Policy

variable {m : SortedMap String Whitelist}

theorem isBasic_single {type : String} {part : Whitelist} (small : part.size ≤ 1) :
    (valid (.singleton type part)).isBasic = true := decide_eq_true small

theorem length_basics (notEmpty : m.isEmpty = false) :
    (valid m).basics.length = ((valid m).directives.map fun d => max 1 d.sources.size).sum := by
  have whole : (valid m).directives = m.entries.map fun e => .regular e.1 e.2 := rfl
  rw [basics_of_some notEmpty, List.length_flatMap, whole, List.map_map]
  refine congrArg List.sum (List.map_congr_left fun e _ => ?_)
  rw [List.length_map, Whitelist.length_parts]
  rfl

theorem isBasic_of_mem_basics (notEmpty : m.isEmpty = false) {b : Policy}
    (member : b ∈ (valid m).basics) : b.isBasic = true := by
  rw [basics_of_some notEmpty] at member
  obtain ⟨e, _, inside⟩ := List.mem_flatMap.mp member
  obtain ⟨part, isPart, rfl⟩ := List.mem_map.mp inside
  exact isBasic_single (Whitelist.size_le_one_of_mem_parts isPart)

theorem get?_single {type key : String} {part w : Whitelist} :
    (valid (.singleton type part)).whitelists.get? key = some w ↔ key = type ∧ part = w := by
  rw [whitelists, SortedMap.get?_singleton]
  split
  · rename_i same
    simp [same]
  · rename_i other
    simp [other]

theorem hasDirective_basics (type : String) :
    (∃ b ∈ (valid m).basics, b.HasDirective type) ↔ (valid m).HasDirective type := by
  constructor
  · rintro ⟨b, member, found⟩
    rcases basics_cases member with rfl | ⟨key, w, part, present, _, rfl⟩
    · exact absurd found (not_hasDirective_empty type)
    · obtain ⟨v, here⟩ := found
      obtain ⟨rfl, _⟩ := get?_single.mp here
      exact ⟨w, present⟩
  · rintro ⟨w, present⟩
    obtain ⟨part, isPart⟩ := w.exists_part
    exact ⟨_, single_mem_basics_iff.mpr ⟨w, present, isPart⟩, part, get?_single.mpr ⟨rfl, rfl⟩⟩

theorem hasSource_basics (type : String) (s : Source) :
    (∃ b ∈ (valid m).basics, b.HasSource type s) ↔ (valid m).HasSource type s := by
  constructor
  · rintro ⟨b, member, source⟩
    rcases basics_cases member with rfl | ⟨key, w, part, present, isPart, rfl⟩
    · exact absurd source.hasDirective (not_hasDirective_empty type)
    · obtain ⟨v, here, inside⟩ := source
      obtain ⟨rfl, rfl⟩ := get?_single.mp here
      exact ⟨w, present, Whitelist.mem_of_mem_part isPart inside⟩
  · rintro ⟨w, present, inside⟩
    have isPart := Whitelist.singleton_mem_parts_iff.mpr inside
    exact ⟨_, single_mem_basics_iff.mpr ⟨w, present, isPart⟩, .singleton s,
      get?_single.mpr ⟨rfl, rfl⟩, (SortedSet.mem_singleton s s).mpr rfl⟩

theorem isInvalid_of_mem_basics {b : Policy} (member : b ∈ (valid m).basics) :
    b.isInvalid = false := by
  rcases basics_cases member with rfl | ⟨_, _, _, _, _, rfl⟩
  · rfl
  · rfl

theorem combinable_basics :
    Combinable (valid m).basics ↔
      (valid m).hasDefault = false ∨
        (valid m = .empty ∨ ∃ w, valid m = .valid (.singleton defaultType w)) := by
  have valid' : ∀ b ∈ (valid m).basics, b.isInvalid = false := fun _ => isInvalid_of_mem_basics
  have free : (∀ b ∈ (valid m).basics, ¬b.HasDirective defaultType) ↔
      (valid m).hasDefault = false := by
    rw [← Bool.not_eq_true, hasDefault_iff, ← hasDirective_basics]
    simp only [not_exists, not_and]
  have alone : (∀ b ∈ (valid m).basics, ∀ type, b.HasDirective type → type = defaultType) ↔
      ∀ type, (valid m).HasDirective type → type = defaultType := by
    simp only [← hasDirective_basics]
    exact ⟨fun all type ⟨b, member, found⟩ => all b member type found,
      fun all b member type found => all type ⟨b, member, found⟩⟩
  rw [Combinable, free, alone, defaultOnly_iff rfl]
  exact and_iff_right valid'

theorem combineAll_basics (fits : Combinable (valid m).basics) :
    combineAll (valid m).basics = valid m := by
  have union := isUnion_combineAll fits
  apply eq_of_sources ((isInvalid_combineAll_iff _).mpr fits)
  · exact fun type => (union.types type).trans (hasDirective_basics type)
  · exact fun type s => (union.sources type s).trans (hasSource_basics type s)

/-- Taking a policy apart. A policy without directives is its own only part; any other has, for each
directive, a basic policy for each source, or one if there is no source, and no two are alike. In
whatever order the parts are combined, they give the policy back if it does not have the directive
for all types or has nothing else, and no policy otherwise. -/
theorem basics_recombine (m : SortedMap String Whitelist) :
    (valid m).basics.Nodup ∧
      ((valid m).hasNoDirective = true → (valid m).basics = [valid m]) ∧
      ((valid m).hasNoDirective = false →
        (valid m).basics.length =
            ((valid m).directives.map fun d => max 1 d.sources.size).sum ∧
          ∀ b ∈ (valid m).basics, b.isBasic = true) ∧
      ∀ parts : List Policy, parts.Perm (valid m).basics →
        ((valid m).hasDefault = false ∨ (∃ w, valid m = .valid (.singleton defaultType w)) →
          parts.foldl combine empty = valid m) ∧
        ((valid m).hasDefault = true ∧ (∀ w, valid m ≠ .valid (.singleton defaultType w)) →
          parts.foldl combine empty = .invalid) := by
  refine ⟨basics_nodup _, fun empty => if_pos empty, fun notEmpty => ?_, fun parts order => ?_⟩
  · exact ⟨length_basics notEmpty, fun b => isBasic_of_mem_basics notEmpty⟩
  · have anyOrder : parts.foldl combine empty = combineAll (valid m).basics :=
      combineAll_congr fun b => order.mem_iff
    rw [anyOrder]
    constructor
    · rintro fits
      exact combineAll_basics (combinable_basics.mpr (fits.imp_right .inr))
    · rintro ⟨default, mixed⟩
      rw [← isInvalid_iff, ← Bool.not_eq_false, isInvalid_combineAll_iff, combinable_basics]
      rintro (free | noPolicy | ⟨w, alone⟩)
      · exact Bool.false_ne_true (free.symm.trans default)
      · rw [noPolicy] at default
        cases default
      · exact mixed w alone

/-- Two sources in one directive and none in another, combined again from the last part to the
first: once without a directive for all types, and once beside one. -/
theorem basics_recombine_reversed :
    let images : SortedMap String Whitelist :=
      .ofList [("img-src", .ofList [.self, .unsafeInline]), ("style-src", ∅)]
    let mixed := images.insert defaultType (.singleton .self)
    ((valid images).hasNoDirective = false ∧ (valid images).basics.length = 3) ∧
      ((valid images).hasDefault = false ∧
        (valid images).basics.reverse.foldl combine empty = valid images) ∧
      (valid mixed).hasDefault = true ∧ (∀ w, valid mixed ≠ .valid (.singleton defaultType w)) ∧
        (valid mixed).basics.reverse.foldl combine empty = .invalid := by
  intro images mixed
  obtain ⟨_, _, counted, again⟩ := basics_recombine images
  obtain ⟨_, _, _, apart⟩ := basics_recombine mixed
  have notEmpty : (valid images).hasNoDirective = false := by decide
  have free : (valid images).hasDefault = false := by decide
  have default : (valid mixed).hasDefault = true := by decide
  have others : ∀ w, valid mixed ≠ .valid (.singleton defaultType w) := by
    intro w alone
    have sizes : (valid mixed).size = 1 := congrArg size alone
    exact absurd sizes (by decide)
  have three : ((valid images).directives.map fun d => max 1 d.sources.size).sum = 3 := by decide
  exact ⟨⟨notEmpty, (counted notEmpty).1.trans three⟩,
    ⟨free, (again _ (List.reverse_perm _)).1 (.inl free)⟩,
    default, others, (apart _ (List.reverse_perm _)).2 ⟨default, others⟩⟩

end Policy

end ContentPolicy
