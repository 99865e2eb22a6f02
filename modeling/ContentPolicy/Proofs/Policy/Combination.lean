import Mathlib.Data.List.Basic
import ContentPolicy.Proofs.Policy.Reading

/-!
Combining policies. Each step asks of two policies only whether the directive for all types would
be mixed with others; over a whole list this comes to one condition on its members
(`Policy.Combinable`), and a combination that succeeds is the union of all of them, type by type. So
nothing but the set of members matters.
-/

namespace ContentPolicy

namespace Policy

def HasDirective (p : Policy) (type : String) : Prop := ∃ w, p.whitelists.get? type = some w

def HasSource (q : Policy) (type : String) (s : Source) : Prop :=
  ∃ w, q.whitelists.get? type = some w ∧ s ∈ w

/-- Whether a policy has the types of all given policies, each with the union of its whitelists. -/
structure IsUnion (u : Policy) (ps : List Policy) : Prop where
  types : ∀ type, u.HasDirective type ↔ ∃ p ∈ ps, p.HasDirective type
  sources : ∀ type s, u.HasSource type s ↔ ∃ p ∈ ps, p.HasSource type s

/-- Whether no policy is invalid, and the directive for all types is in none of them or is never
beside another one. -/
def Combinable (ps : List Policy) : Prop :=
  (∀ p ∈ ps, p.isInvalid = false) ∧
    ((∀ p ∈ ps, ¬p.HasDirective defaultType) ∨
      ∀ p ∈ ps, ∀ type, p.HasDirective type → type = defaultType)

theorem isInvalid_iff {p : Policy} : p.isInvalid = true ↔ p = .invalid := by
  cases p with
  | valid m => exact iff_of_false nofun nofun
  | invalid => exact iff_of_true rfl rfl

theorem ext_get? {p q : Policy} (same : p.isInvalid = q.isInvalid)
    (found : ∀ type, p.whitelists.get? type = q.whitelists.get? type) : p = q := by
  cases p with
  | invalid => exact (isInvalid_iff.mp same.symm).symm
  | valid m =>
      cases q with
      | invalid => cases same
      | valid n => exact congrArg valid (SortedMap.ext_get? found)

theorem hasDefault_iff (p : Policy) : p.hasDefault = true ↔ p.HasDirective defaultType :=
  SortedMap.contains_iff p.whitelists defaultType

theorem hasDirective_keys (p : Policy) (type : String) :
    p.HasDirective type ↔ type ∈ p.whitelists.keys :=
  (SortedMap.mem_keys_iff p.whitelists type).symm

theorem not_hasDirective_empty (type : String) : ¬empty.HasDirective type :=
  fun ⟨_, absent⟩ => nomatch absent

theorem HasSource.hasDirective {p : Policy} {type : String} {s : Source}
    (source : p.HasSource type s) : p.HasDirective type :=
  ⟨source.choose, source.choose_spec.1⟩

theorem isDefaultOnlyOrEmpty_iff (p : Policy) :
    p.isDefaultOnlyOrEmpty = true ↔ ∀ type, p.HasDirective type → type = defaultType := by
  simp only [hasDirective_keys, isDefaultOnlyOrEmpty, hasDefault, Bool.or_eq_true,
    Bool.and_eq_true, decide_eq_true_eq, SortedMap.contains_iff, ← SortedMap.mem_keys_iff]
  have sorted := p.whitelists.ascending
  simp only [hasNoDirective, SortedMap.isEmpty, size, SortedMap.size, SortedMap.keys]
  cases entries : p.whitelists.entries with
  | nil => simp
  | cons e rest =>
      cases rest with
      | nil => simp [eq_comm]
      | cons f rest =>
          rw [entries] at sorted
          have fresh := SortedSet.not_mem_of_ascending_cons sorted
          simp only [List.map_cons, List.mem_cons, not_or] at fresh
          simp only [List.isEmpty_cons, List.length_cons, List.map_cons, List.mem_cons]
          constructor
          · rintro (empty | ⟨_, one⟩)
            · cases empty
            · omega
          -- Two keys cannot both be the one for all types.
          · intro only
            have first := only e.1 (.inl rfl)
            have second := only f.1 (.inr (.inl rfl))
            exact absurd (first.trans second.symm) fresh.1

theorem defaultOnly_iff {p : Policy} (isValid : p.isInvalid = false) :
    (∀ type, p.HasDirective type → type = defaultType) ↔
      p = .empty ∨ ∃ w, p = .valid (.singleton defaultType w) := by
  cases p with
  | invalid => cases isValid
  | valid m =>
      constructor
      · intro only
        have absent : ∀ type, type ≠ defaultType → m.get? type = none := by
          intro type other
          cases found : m.get? type with
          | none => rfl
          | some w => exact absurd (only type ⟨w, found⟩) other
        cases default : m.get? defaultType with
        | none =>
            refine .inl (congrArg valid (SortedMap.ext_get? fun type => ?_))
            by_cases same : type = defaultType
            · rw [same, default, SortedMap.get?_empty]
            · rw [absent type same, SortedMap.get?_empty]
        | some w =>
            refine .inr ⟨w, congrArg valid (SortedMap.ext_get? fun type => ?_)⟩
            rw [SortedMap.get?_singleton]
            by_cases same : type = defaultType
            · rw [same, default, if_pos rfl]
            · rw [absent type same, if_neg same]
      · rintro (empty | ⟨w, single⟩) type found
        · rw [empty] at found
          exact absurd found (not_hasDirective_empty type)
        · obtain ⟨v, found⟩ := found
          rw [single, whitelists, SortedMap.get?_singleton] at found
          split at found
          · assumption
          · cases found

theorem isInvalid_combine_iff (p q : Policy) :
    (p.combine q).isInvalid = false ↔ Combinable [p, q] := by
  have noConflict : conflict p q = false ↔
      (¬p.HasDirective defaultType ∧ ¬q.HasDirective defaultType) ∨
        (∀ type, p.HasDirective type → type = defaultType) ∧
          ∀ type, q.HasDirective type → type = defaultType := by
    simp only [conflict, Bool.and_eq_false_iff, Bool.or_eq_false_iff, Bool.not_eq_false',
      Bool.and_eq_true, isDefaultOnlyOrEmpty_iff, ← hasDefault_iff, Bool.not_eq_true]
  simp only [Combinable, List.forall_mem_cons, List.not_mem_nil, false_imp_iff, implies_true,
    and_true, ← noConflict]
  cases p with
  | invalid => simp [combine, isInvalid]
  | valid m =>
      cases q with
      | invalid => simp [combine, isInvalid]
      | valid n =>
          rw [combine]
          cases conflict (valid m) (valid n) <;> simp [isInvalid]

theorem combine_valid {m n : SortedMap String Whitelist}
    (isValid : ((valid m).combine (valid n)).isInvalid = false) :
    (valid m).combine (valid n) = .valid (m.mergeWith SortedSet.union n) := by
  rw [combine] at isValid ⊢
  split at isValid
  · cases isValid
  · rename_i noConflict
    rw [if_neg noConflict]

theorem get?_combine {p q : Policy} (isValid : (p.combine q).isInvalid = false) (type : String) :
    (p.combine q).whitelists.get? type =
      Option.merge SortedSet.union (p.whitelists.get? type) (q.whitelists.get? type) := by
  cases p with
  | invalid => cases isValid
  | valid m =>
      cases q with
      | invalid => cases isValid
      | valid n =>
          rw [combine_valid isValid, whitelists, whitelists, whitelists, SortedMap.get?_mergeWith]
          cases m.get? type with
          | none => cases n.get? type <;> rfl
          | some v => cases n.get? type <;> rfl

theorem hasDirective_combine {p q : Policy} (isValid : (p.combine q).isInvalid = false)
    (type : String) :
    (p.combine q).HasDirective type ↔ p.HasDirective type ∨ q.HasDirective type := by
  simp only [HasDirective, get?_combine isValid]
  cases p.whitelists.get? type with
  | none => simp
  | some v => cases q.whitelists.get? type <;> simp

theorem hasSource_combine {p q : Policy} (isValid : (p.combine q).isInvalid = false)
    (type : String) (s : Source) :
    (p.combine q).HasSource type s ↔ p.HasSource type s ∨ q.HasSource type s := by
  rw [HasSource, HasSource, HasSource, get?_combine isValid]
  cases p.whitelists.get? type with
  | none =>
      cases q.whitelists.get? type with
      | none => simp
      | some w => simp
  | some v =>
      cases q.whitelists.get? type with
      | none => simp
      | some w => simp

/-- Two policies that are combined stand for themselves in any list. -/
theorem combinable_combine (p q : Policy) (rest : List Policy) :
    Combinable (p.combine q :: rest) ↔ Combinable (p :: q :: rest) := by
  by_cases pair : Combinable [p, q]
  · have isValid := (isInvalid_combine_iff p q).mpr pair
    obtain ⟨sides, _⟩ := pair
    simp only [List.forall_mem_cons] at sides
    simp only [Combinable, List.forall_mem_cons, hasDirective_combine isValid, isValid, sides,
      not_or, or_imp, forall_and, true_and, and_assoc]
  · constructor
    · intro whole
      exact absurd ((isInvalid_combine_iff p q).mp (whole.1 _ List.mem_cons_self)) pair
    · intro whole
      simp only [Combinable, List.forall_mem_cons] at whole pair
      exact absurd (by grind) pair

theorem foldl_combine_invalid (ps : List Policy) : ps.foldl combine .invalid = .invalid := by
  induction ps with
  | nil => rfl
  | cons p rest ih => exact ih

theorem isInvalid_foldl_combine (ps : List Policy) (start : Policy) (fits : Combinable [start]) :
    (ps.foldl combine start).isInvalid = false ↔ Combinable (start :: ps) := by
  induction ps generalizing start with
  | nil => exact iff_of_true (fits.1 start List.mem_cons_self) fits
  | cons p rest ih =>
      rw [List.foldl_cons, ← combinable_combine]
      cases next : start.combine p with
      | valid m =>
          have step := (isInvalid_combine_iff start p).mp (congrArg isInvalid next)
          exact ih _ (next ▸ (combinable_combine start p []).mpr step)
      | invalid =>
          rw [foldl_combine_invalid]
          exact iff_of_false Bool.noConfusion fun whole => nomatch whole.1 _ List.mem_cons_self

theorem combine_valid_of_foldl {start p : Policy} {rest : List Policy}
    (isValid : ((p :: rest).foldl combine start).isInvalid = false) :
    (start.combine p).isInvalid = false := by
  cases next : start.combine p with
  | valid m => rfl
  | invalid =>
      rw [List.foldl_cons, next, foldl_combine_invalid] at isValid
      cases isValid

theorem isUnion_foldl_combine (ps : List Policy) (start : Policy)
    (isValid : (ps.foldl combine start).isInvalid = false) :
    (ps.foldl combine start).IsUnion (start :: ps) := by
  induction ps generalizing start with
  | nil => exact ⟨by simp, by simp⟩
  | cons p rest ih =>
      have union := ih _ isValid
      have step := combine_valid_of_foldl isValid
      constructor
      · intro type
        refine (union.types type).trans ?_
        simp only [List.exists_mem_cons_iff, hasDirective_combine step, or_assoc]
      · intro type s
        refine (union.sources type s).trans ?_
        simp only [List.exists_mem_cons_iff, hasSource_combine step, or_assoc]

theorem combinable_empty (ps : List Policy) : Combinable (empty :: ps) ↔ Combinable ps := by
  have isValid : empty.isInvalid = false := rfl
  simp [Combinable, not_hasDirective_empty, isValid]

theorem isInvalid_combineAll_iff (ps : List Policy) :
    (combineAll ps).isInvalid = false ↔ Combinable ps :=
  (isInvalid_foldl_combine ps empty ((combinable_empty []).mpr ⟨by simp, by simp⟩)).trans
    (combinable_empty ps)

theorem isUnion_combineAll {ps : List Policy} (fits : Combinable ps) :
    (combineAll ps).IsUnion ps := by
  have union := isUnion_foldl_combine ps empty ((isInvalid_combineAll_iff ps).mpr fits)
  constructor
  · intro type
    exact (union.types type).trans (by simp [not_hasDirective_empty])
  · intro type s
    refine (union.sources type s).trans ?_
    simp only [List.exists_mem_cons_iff]
    exact or_iff_right fun source => not_hasDirective_empty type source.hasDirective

theorem eq_of_sources {p q : Policy} (same : p.isInvalid = q.isInvalid)
    (types : ∀ type, p.HasDirective type ↔ q.HasDirective type)
    (sources : ∀ type s, p.HasSource type s ↔ q.HasSource type s) : p = q := by
  apply ext_get? same
  intro type
  have here := sources type
  cases first : p.whitelists.get? type with
  | none =>
      cases second : q.whitelists.get? type with
      | none => rfl
      | some w =>
          obtain ⟨v, found⟩ := (types type).mpr ⟨w, second⟩
          exact absurd (first.symm.trans found) nofun
  | some v =>
      obtain ⟨w, second⟩ := (types type).mp ⟨v, first⟩
      have member : ∀ s, s ∈ v ↔ s ∈ w := by
        simpa [HasSource, first, second] using here
      rw [second, SortedSet.ext_mem member]

theorem combineAll_ext {ps qs : List Policy} (fits : Combinable ps ↔ Combinable qs)
    (types : Combinable ps → ∀ type,
      (∃ p ∈ ps, p.HasDirective type) ↔ ∃ q ∈ qs, q.HasDirective type)
    (sources : Combinable ps → ∀ type s,
      (∃ p ∈ ps, p.HasSource type s) ↔ ∃ q ∈ qs, q.HasSource type s) :
    combineAll ps = combineAll qs := by
  by_cases first : Combinable ps
  · have second := fits.mp first
    have isValid := (isInvalid_combineAll_iff ps).mpr first
    apply eq_of_sources (isValid.trans ((isInvalid_combineAll_iff qs).mpr second).symm)
    · intro type
      rw [(isUnion_combineAll first).types, (isUnion_combineAll second).types]
      exact types first type
    · intro type s
      rw [(isUnion_combineAll first).sources, (isUnion_combineAll second).sources]
      exact sources first type s
  · have second := mt fits.mpr first
    rw [← isInvalid_combineAll_iff, Bool.not_eq_false] at first second
    rw [isInvalid_iff.mp first, isInvalid_iff.mp second]

theorem combineAll_congr {ps qs : List Policy} (same : ∀ p, p ∈ ps ↔ p ∈ qs) :
    combineAll ps = combineAll qs := by
  apply combineAll_ext
  · simp only [Combinable, same]
  · simp only [same, implies_true]
  · simp only [same, implies_true]

theorem combineAll_combine (p q : Policy) (rest : List Policy) :
    combineAll (p.combine q :: rest) = combineAll (p :: q :: rest) := by
  have step : Combinable (p.combine q :: rest) → (p.combine q).isInvalid = false :=
    fun whole => whole.1 _ List.mem_cons_self
  apply combineAll_ext (combinable_combine p q rest)
  · intro whole type
    simp only [List.exists_mem_cons_iff, hasDirective_combine (step whole), or_assoc]
  · intro whole type s
    simp only [List.exists_mem_cons_iff, hasSource_combine (step whole), or_assoc]

/-- A combination is a fold, since it never has the directive for all types beside another one. -/
theorem combine_eq_combineAll (p q : Policy) : p.combine q = combineAll [p, q] := by
  rw [← combineAll_combine]
  cases isInvalid : (p.combine q).isInvalid with
  | true =>
      rw [isInvalid_iff.mp isInvalid]
      rfl
  | false =>
      have fits : Combinable [p.combine q] :=
        (combinable_combine p q []).mpr ((isInvalid_combine_iff p q).mp isInvalid)
      have union := isUnion_combineAll fits
      apply eq_of_sources (isInvalid.trans ((isInvalid_combineAll_iff _).mpr fits).symm)
      · simpa using fun type => (union.types type).symm
      · simpa using fun type s => (union.sources type s).symm

theorem combine_comm (p q : Policy) : p.combine q = q.combine p := by
  rw [combine_eq_combineAll p q, combine_eq_combineAll q p]
  exact combineAll_congr fun r => by simp [or_comm]

theorem combine_assoc (p q r : Policy) : (p.combine q).combine r = p.combine (q.combine r) := by
  calc
    (p.combine q).combine r = combineAll [p, q, r] := by
      rw [combine_eq_combineAll, combineAll_combine]
    _ = combineAll [q, r, p] := combineAll_congr fun x => by grind
    _ = p.combine (q.combine r) := by
      rw [combine_comm p, combine_eq_combineAll (q.combine r), combineAll_combine]

theorem combineAll_foldl (ps : List Policy) (start : Policy) (rest : List Policy) :
    combineAll (ps.foldl combine start :: rest) = combineAll (start :: (ps ++ rest)) := by
  induction ps generalizing start with
  | nil => rfl
  | cons p ps ih => exact (ih (start.combine p)).trans (combineAll_combine start p _)

theorem combineAll_groups (ps : List Policy) (groups : List (List Policy)) :
    combineAll (ps ++ groups.map combineAll) = combineAll (ps ++ groups.flatten) := by
  induction groups generalizing ps with
  | nil => rfl
  | cons g groups ih =>
      calc
        combineAll (ps ++ (g :: groups).map combineAll) =
            combineAll (combineAll g :: (ps ++ groups.map combineAll)) :=
          combineAll_congr fun p => by grind
        _ = combineAll (g ++ (ps ++ groups.map combineAll)) := combineAll_foldl g empty _
        _ = combineAll ((ps ++ g) ++ groups.map combineAll) :=
          combineAll_congr fun p => by grind
        _ = combineAll ((ps ++ g) ++ groups.flatten) := ih (ps ++ g)
        _ = combineAll (ps ++ (g :: groups).flatten) := by
          rw [List.append_assoc, List.flatten_cons]

/-- A fold is valid exactly when no member is invalid and the directive for all types stands in
none of them or alone wherever it stands. Then it is the union of the members. So combining is
commutative and associative, and a fold depends on the set of its members alone. -/
theorem combineAll_is_union (ps : List Policy) :
    ((combineAll ps).isInvalid = false ↔
        (∀ p ∈ ps, p.isInvalid = false) ∧
          ((∀ p ∈ ps, p.hasDefault = false) ∨
            ∀ p ∈ ps, p = .empty ∨ ∃ w, p = .valid (.singleton defaultType w))) ∧
      ((combineAll ps).isInvalid = false → (combineAll ps).IsUnion ps) ∧
      (∀ p q : Policy, p.combine q = q.combine p) ∧
      (∀ p q r : Policy, (p.combine q).combine r = p.combine (q.combine r)) ∧
      (∀ qs : List Policy, (∀ p, p ∈ qs ↔ p ∈ ps) → combineAll qs = combineAll ps) ∧
      ∀ groups : List (List Policy), (∀ p, p ∈ groups.flatten ↔ p ∈ ps) →
        combineAll (groups.map combineAll) = combineAll ps := by
  refine ⟨?_, ?_, combine_comm, combine_assoc, fun _ => combineAll_congr, ?_⟩
  · rw [isInvalid_combineAll_iff]
    refine and_congr_right fun allValid => or_congr ?_ ?_
    · simp only [← hasDefault_iff, Bool.not_eq_true]
    · exact forall₂_congr fun p member => defaultOnly_iff (allValid p member)
  · intro isValid
    exact isUnion_combineAll ((isInvalid_combineAll_iff ps).mp isValid)
  · intro groups same
    exact (combineAll_groups [] groups).trans (combineAll_congr same)

theorem combineAll_is_union_groups :
    let image : Policy := .valid (.singleton "img-src" (.singleton .self))
    let script : Policy := .valid (.singleton "script-src" (.singleton .unsafeEval))
    (combineAll [image, script]).isInvalid = false ∧
      (combineAll [image, script]).IsUnion [image, script] ∧
      (∀ p, p ∈ [[script], [image, script], []].flatten ↔ p ∈ [image, script]) ∧
      combineAll ([[script], [image, script], []].map combineAll) = combineAll [image, script] := by
  intro image script
  obtain ⟨_, union, _, _, _, groups⟩ := combineAll_is_union [image, script]
  have isValid : (combineAll [image, script]).isInvalid = false := by decide
  have same : ∀ p, p ∈ [[script], [image, script], []].flatten ↔ p ∈ [image, script] := by
    simp [or_comm]
  exact ⟨isValid, union isValid, same, groups _ same⟩

end Policy

end ContentPolicy
