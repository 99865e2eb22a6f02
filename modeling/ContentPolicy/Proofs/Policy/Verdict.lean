import ContentPolicy.Proofs.Policy.Matching

/-!
Which directive of a policy decides. It is that of the type, or else that for all types where the
type falls back to it; a policy that has neither goes by the bare star. So a combined policy allows
what either side allows by the directive of the type that decides, though not what a side allows for
want of one; and code of the document runs only where the directive that decides has the keyword.
-/

namespace ContentPolicy

namespace Directive

theorem allows_iff {d : Directive} {resource document : Uri} {ports : SchemePorts} :
    d.allows resource document ports = true ↔
      ∃ s ∈ d.sources, s.allows resource document ports = true := by
  cases d with
  | regular type w => exact Whitelist.allows_iff
  | restriction phrase => exact iff_of_false nofun nofun
  | invalid => exact iff_of_false nofun nofun

theorem allows_unlocated_iff {d : Directive} {resource document : Uri} {ports : SchemePorts}
    (unlocated : resource.isRegular = false) :
    d.allows resource document ports = true ↔
      .unsafeInline ∈ d.sources ∧ resource = .inline ∨
        .unsafeEval ∈ d.sources ∧ resource = .eval := by
  simp only [allows_iff, Source.allows_unlocated_iff unlocated]
  constructor
  · rintro ⟨s, member, ⟨rfl, event⟩ | ⟨rfl, event⟩⟩
    · exact .inl ⟨member, event⟩
    · exact .inr ⟨member, event⟩
  · rintro (⟨member, event⟩ | ⟨member, event⟩)
    · exact ⟨_, member, .inl ⟨rfl, event⟩⟩
    · exact ⟨_, member, .inr ⟨rfl, event⟩⟩

end Directive

namespace Policy

/-- The directive that decides about a type, given in lower case, if the policy has one: that of the
type, or else that for all types, if the type is among those that fall back to it. -/
def governingDirective? (p : Policy) (name : String) (types : List String) : Option Directive :=
  (p.directive? name).or (if name ∈ types then p.directive? defaultType else none)

def AllowsUnder (p : Policy) (key : String) (resource document : Uri) (ports : SchemePorts) :
    Prop :=
  ∃ d, p.directive? key = some d ∧ d.allows resource document ports = true

variable {p q : Policy} {resource document : Uri} {type name key : String} {ports : SchemePorts}
  {types : List String}

theorem hasDirective_iff : p.HasDirective key ↔ ∃ d, p.directive? key = some d := by
  simp [HasDirective, directive?]

theorem directive?_eq_none_iff : p.directive? key = none ↔ ¬p.HasDirective key := by
  rw [hasDirective_iff, ← Option.ne_none_iff_exists', not_not]

theorem AllowsUnder.hasDirective (under : p.AllowsUnder key resource document ports) :
    p.HasDirective key :=
  hasDirective_iff.mpr ⟨under.choose, under.choose_spec.1⟩

theorem allowsUnder_iff :
    p.AllowsUnder key resource document ports ↔
      ∃ s, p.HasSource key s ∧ s.allows resource document ports = true := by
  simp only [AllowsUnder, directive?, Option.map_eq_some_iff, HasSource]
  constructor
  · rintro ⟨_, ⟨w, found, rfl⟩, allowed⟩
    obtain ⟨s, member, allowed⟩ := Directive.allows_iff.mp allowed
    exact ⟨s, ⟨w, found, member⟩, allowed⟩
  · rintro ⟨s, ⟨w, found, member⟩, allowed⟩
    exact ⟨_, ⟨w, found, rfl⟩, Directive.allows_iff.mpr ⟨s, member, allowed⟩⟩

theorem valid_of_hasDirective (has : p.HasDirective key) : p.isInvalid = false := by
  cases p with
  | valid m => rfl
  | invalid => cases has.choose_spec

theorem governing_eq (p : Policy) (name : String) (types : List String) :
    p.governing name types =
      ((p.governingDirective? name types).map Directive.sources).or
        (if name ∈ types then some (.singleton .any) else none) := by
  simp only [governing, governingDirective?, directive?, List.contains_iff_mem]
  cases p.whitelists.get? name with
  | some w => rfl
  | none =>
      by_cases falls : name ∈ types
      · simp only [if_pos falls]
        cases p.whitelists.get? defaultType <;> rfl
      · simp only [if_neg falls]
        rfl

/-- A policy decides by a directive, or by the bare star where the type falls back and there is no
directive to fall back to. -/
theorem allows_iff_governingDirective :
    p.allows resource type document ports types = true ↔
      p.isInvalid = false ∧
        ((∃ d, p.governingDirective? type.toLower types = some d ∧
            d.allows resource document ports = true) ∨
          p.governingDirective? type.toLower types = none ∧ type.toLower ∈ types ∧
            Source.any.allows resource document ports = true) := by
  rw [allows_iff, governing_eq]
  refine and_congr_right fun _ => ?_
  cases p.governingDirective? type.toLower types with
  | some d => simp [Directive.allows_iff, Whitelist.allows_iff]
  | none => simp [Whitelist.allows_iff]

theorem governingDirective?_of_own (has : p.HasDirective name) :
    p.governingDirective? name types = p.directive? name := by
  obtain ⟨d, found⟩ := hasDirective_iff.mp has
  rw [governingDirective?, found, Option.some_or]

theorem governingDirective?_of_absent (absent : ¬p.HasDirective name) :
    p.governingDirective? name types =
      if name ∈ types then p.directive? defaultType else none := by
  rw [governingDirective?, directive?_eq_none_iff.mpr absent, Option.none_or]

theorem governingDirective?_eq_none_iff :
    p.governingDirective? name types = none ↔
      ¬p.HasDirective name ∧ ¬(name ∈ types ∧ p.HasDirective defaultType) := by
  rw [governingDirective?, Option.or_eq_none_iff, directive?_eq_none_iff]
  by_cases falls : name ∈ types
  · simp [falls, directive?_eq_none_iff]
  · simp [falls]

theorem hasDirective_and_allows_iff
    (decides : p.HasDirective key → p.governingDirective? type.toLower types = p.directive? key) :
    p.HasDirective key ∧ p.allows resource type document ports types = true ↔
      p.AllowsUnder key resource document ports := by
  constructor
  · rintro ⟨has, allowed⟩
    obtain ⟨_, byDirective | ⟨absent, _⟩⟩ := allows_iff_governingDirective.mp allowed
    · rw [decides has] at byDirective
      exact byDirective
    · obtain ⟨d, found⟩ := hasDirective_iff.mp has
      rw [decides has, found] at absent
      cases absent
  · intro under
    have has := under.hasDirective
    have isValid := valid_of_hasDirective has
    refine ⟨has, allows_iff_governingDirective.mpr ⟨isValid, .inl ?_⟩⟩
    rw [decides has]
    exact under

theorem allows_of_hasSource {s : Source} (has : p.HasSource type.toLower s)
    (allowed : s.allows resource document ports = true) (types : List String) :
    p.allows resource type document ports types = true := by
  have under := allowsUnder_iff.mpr ⟨s, has, allowed⟩
  exact ((hasDirective_and_allows_iff governingDirective?_of_own).mpr under).2

theorem allows_of_ungoverned (isValid : p.isInvalid = false)
    (absent : p.governingDirective? type.toLower types = none) :
    p.allows resource type document ports types =
      (decide (type.toLower ∈ types) && Source.any.allows resource document ports) := by
  rw [Bool.eq_iff_iff, allows_iff_governingDirective, absent, isValid]
  simp

theorem allowsUnder_combine (isValid : (p.combine q).isInvalid = false) :
    (p.combine q).AllowsUnder key resource document ports ↔
      p.AllowsUnder key resource document ports ∨ q.AllowsUnder key resource document ports := by
  simp only [allowsUnder_iff, hasSource_combine isValid, or_and_right, exists_or]

/-- Where the same directive decides in a combined policy and on the sides that have it, the verdict
is that of one of these sides. -/
theorem allows_combine_of_decides (isValid : (p.combine q).isInvalid = false)
    (has : p.HasDirective key ∨ q.HasDirective key)
    (decides : ∀ r ∈ [p.combine q, p, q], r.HasDirective key →
      r.governingDirective? type.toLower types = r.directive? key) :
    (p.combine q).allows resource type document ports types = true ↔
      p.HasDirective key ∧ p.allows resource type document ports types = true ∨
        q.HasDirective key ∧ q.allows resource type document ports types = true := by
  simp only [List.forall_mem_cons] at decides
  obtain ⟨whole, left, right, _⟩ := decides
  have combined := (hasDirective_combine isValid key).mpr has
  calc
    (p.combine q).allows resource type document ports types = true ↔
        (p.combine q).AllowsUnder key resource document ports := by
      rw [← hasDirective_and_allows_iff whole, and_iff_right combined]
    _ ↔ p.AllowsUnder key resource document ports ∨
        q.AllowsUnder key resource document ports := allowsUnder_combine isValid
    _ ↔ _ := by
      rw [hasDirective_and_allows_iff left, hasDirective_and_allows_iff right]

theorem not_hasDirective_combine (isValid : (p.combine q).isInvalid = false)
    (neither : ¬(p.HasDirective key ∨ q.HasDirective key)) :
    ∀ r ∈ [p.combine q, p, q], ¬r.HasDirective key := by
  simp only [List.forall_mem_cons, hasDirective_combine isValid]
  exact ⟨neither, fun left => neither (.inl left), fun right => neither (.inr right), nofun⟩

/-- What a combined policy allows. If a side has a directive of the type, the sides that have one
decide; if no side has one, and the type falls back to a directive for all types that a side has,
the sides with such a directive decide; in all other cases the verdict is that of either side. -/
theorem allows_combine (isValid : (p.combine q).isInvalid = false) (resource : Uri)
    (type : String) (document : Uri) (ports : SchemePorts) (types : List String) :
    let allowed (r : Policy) := r.allows resource type document ports types
    let name := type.toLower
    let own := p.HasDirective name ∨ q.HasDirective name
    let fallback := name ∈ types ∧ (p.HasDirective defaultType ∨ q.HasDirective defaultType)
    (own → (allowed (p.combine q) = true ↔
        p.HasDirective name ∧ allowed p = true ∨ q.HasDirective name ∧ allowed q = true)) ∧
      (¬own → fallback → (allowed (p.combine q) = true ↔
        p.HasDirective defaultType ∧ allowed p = true ∨
          q.HasDirective defaultType ∧ allowed q = true)) ∧
      (¬own → ¬fallback →
        allowed (p.combine q) = allowed p ∧ allowed (p.combine q) = allowed q) := by
  intro allowed name own fallback
  refine ⟨fun has => ?_, fun neither ⟨falls, has⟩ => ?_, fun neither unfallen => ?_⟩
  · exact allows_combine_of_decides isValid has fun r _ => governingDirective?_of_own
  · have absent := not_hasDirective_combine isValid neither
    refine allows_combine_of_decides isValid has fun r member _ => ?_
    rw [governingDirective?_of_absent (absent r member), if_pos falls]
  · have absent := not_hasDirective_combine isValid neither
    have eachValid : ∀ r ∈ [p.combine q, p, q], r.isInvalid = false := by
      rw [List.forall_mem_cons]
      exact ⟨isValid, ((isInvalid_combine_iff p q).mp isValid).1⟩
    have verdict : ∀ r ∈ [p.combine q, p, q],
        allowed r = (decide (name ∈ types) && Source.any.allows resource document ports) := by
      intro r member
      refine allows_of_ungoverned (eachValid r member) ?_
      refine governingDirective?_eq_none_iff.mpr ⟨absent r member, ?_⟩
      rintro ⟨falls, has⟩
      exact not_hasDirective_combine isValid (fun side => unfallen ⟨falls, side⟩) r member has
    simp only [List.forall_mem_cons] at verdict
    obtain ⟨whole, left, right, _⟩ := verdict
    exact ⟨whole.trans left.symm, whole.trans right.symm⟩

/-- An image falls back to the directive for all types that one side has. The other side has no
directive at all and would allow every image, which counts for nothing. -/
theorem allows_combine_fallback :
    let p : Policy := .valid (.singleton "default-src" (.singleton .self))
    let image := Uri.regular ⟨"http", "a", none, "", ""⟩
    let document := Uri.regular ⟨"http", "b", none, "", ""⟩
    (p.combine .empty).isInvalid = false ∧
      Policy.empty.allows image "IMG-src" document ∅ ["img-src"] = true ∧
      (p.combine .empty).allows image "IMG-src" document ∅ ["img-src"] = false := by
  intro p image document
  have isValid : (p.combine .empty).isInvalid = false := by decide
  obtain ⟨_, fallback, _⟩ := allows_combine isValid image "IMG-src" document ∅ ["img-src"]
  have verdicts : Policy.empty.allows image "IMG-src" document ∅ ["img-src"] = true ∧
      p.allows image "IMG-src" document ∅ ["img-src"] = false ∧
      "IMG-src".toLower = "img-src" := by decide +kernel
  obtain ⟨byStar, refused, lowered⟩ := verdicts
  have own : ¬(p.HasDirective "img-src" ∨ Policy.empty.HasDirective "img-src") := by
    rw [not_or, ← directive?_eq_none_iff, ← directive?_eq_none_iff]
    decide
  have default : p.HasDirective defaultType := ⟨.singleton .self, by decide⟩
  rw [lowered] at fallback
  refine ⟨isValid, byStar, ?_⟩
  rw [← Bool.not_eq_true, fallback own ⟨List.mem_singleton_self _, .inl default⟩]
  rintro (⟨_, allowed⟩ | ⟨has, _⟩)
  · exact absurd (refused.symm.trans allowed) Bool.false_ne_true
  · exact not_hasDirective_empty defaultType has

theorem allows_unlocated_iff (unlocated : resource.isRegular = false) :
    p.allows resource type document ports types = true ↔
      p.isInvalid = false ∧ ∃ d, p.governingDirective? type.toLower types = some d ∧
        (.unsafeInline ∈ d.sources ∧ resource = .inline ∨
          .unsafeEval ∈ d.sources ∧ resource = .eval) := by
  have star : Source.any.allows resource document ports = false := by
    rw [← Bool.not_eq_true, Source.allows_unlocated_iff unlocated]
    rintro (⟨same, _⟩ | ⟨same, _⟩) <;> cases same
  simp only [allows_iff_governingDirective, star, Directive.allows_unlocated_iff unlocated,
    Bool.false_eq_true, and_false, or_false]

/-- Code that stands in the document runs exactly when the policy is valid and the directive that
decides has the keyword for it, and so does code made at run time; neither the star nor a scheme nor
the document's origin nor the lack of a directive lets any through. What names no resource is never
allowed. -/
theorem allows_unlocated (p : Policy) (type : String) (document : Uri) (ports : SchemePorts)
    (types : List String) :
    let has (keyword : Source) := p.isInvalid = false ∧
      ∃ d, p.governingDirective? type.toLower types = some d ∧ keyword ∈ d.sources
    (p.allows .inline type document ports types = true ↔ has .unsafeInline) ∧
      (p.allows .eval type document ports types = true ↔ has .unsafeEval) ∧
      p.allows .empty type document ports types = false ∧
      p.allows .invalid type document ports types = false := by
  simp only [← Bool.not_eq_true]
  refine ⟨?_, ?_, ?_, ?_⟩
  all_goals
    rw [allows_unlocated_iff rfl]
    simp

end Policy

end ContentPolicy
