import ContentPolicy.Proofs.Policy.Basics

/-!
Comparing two policies as values. What both have and what one has alone are the basic policies of
that one, each named once; and since the basic policies say which policy they make up, two policies
differ exactly when something is on one side alone.
-/

namespace ContentPolicy

namespace Policy

variable {m n : SortedMap String Whitelist}

theorem compareWith_valid (m n : SortedMap String Whitelist) :
    (valid m).compareWith (valid n) =
      { common := (valid m).basics.filter (· ∈ (valid n).basics)
        onlyLeft := (valid m).basics.filter (· ∉ (valid n).basics)
        onlyRight := (valid n).basics.filter (· ∉ (valid m).basics) } := rfl

theorem filter_basics_perm (p q : Policy) :
    (p.basics.filter (· ∈ q.basics) ++ p.basics.filter (· ∉ q.basics)).Perm p.basics := by
  simpa using List.filter_append_perm (fun b => decide (b ∈ q.basics)) p.basics

theorem filter_basics_comm (p q : Policy) :
    (p.basics.filter (· ∈ q.basics)).Perm (q.basics.filter (· ∈ p.basics)) := by
  apply (List.perm_ext_iff_of_nodup (p.basics_nodup.filter _) (q.basics_nodup.filter _)).mpr
  intro b
  simp [and_comm]

theorem compareWith_nodup (p q : Policy) :
    ((p.compareWith q).common ++ (p.compareWith q).onlyLeft ++
      (p.compareWith q).onlyRight).Nodup := by
  rw [compareWith]
  split
  · exact List.nodup_nil
  · have left := (filter_basics_perm p q).nodup_iff.mpr p.basics_nodup
    apply left.append (q.basics_nodup.filter _)
    intro b inLeft inRight
    have member : b ∈ p.basics := (filter_basics_perm p q).mem_iff.mp inLeft
    exact of_decide_eq_true (List.mem_filter.mp inRight).2 member

theorem only_eq_nil_iff :
    ((valid m).compareWith (valid n)).onlyLeft = [] ∧
        ((valid m).compareWith (valid n)).onlyRight = [] ↔ m = n := by
  rw [compareWith_valid, List.filter_eq_nil_iff, List.filter_eq_nil_iff]
  simp only [decide_eq_true_eq, not_not]
  constructor
  · rintro ⟨left, right⟩
    exact eq_of_basics fun b => ⟨left b, right b⟩
  · rintro rfl
    exact ⟨fun _ member => member, fun _ member => member⟩

theorem mem_common_or_onlyLeft_iff (b : Policy) :
    b ∈ ((valid m).compareWith (valid n)).common ∨ b ∈ ((valid m).compareWith (valid n)).onlyLeft ↔
      b ∈ (valid m).basics := by
  rw [compareWith_valid, ← List.mem_append]
  exact (filter_basics_perm _ _).mem_iff

theorem mem_common_or_onlyRight_iff (b : Policy) :
    b ∈ ((valid m).compareWith (valid n)).common ∨
        b ∈ ((valid m).compareWith (valid n)).onlyRight ↔
      b ∈ (valid n).basics := by
  rw [compareWith_valid, (filter_basics_comm _ _).mem_iff, ← List.mem_append]
  exact (filter_basics_perm _ _).mem_iff

/-- A comparison takes each of two policies apart: what both have and what the one has alone have
nothing in common and are together its basic policies, none of them named twice. Nothing is on one
side alone exactly when the two policies are the same, whatever directives they mix. -/
theorem compareWith_partitions (m n : SortedMap String Whitelist) :
    let c := (valid m).compareWith (valid n)
    (c.common.Nodup ∧ c.onlyLeft.Nodup ∧ c.onlyRight.Nodup) ∧
      (c.common.Disjoint c.onlyLeft ∧
        ∀ b, b ∈ c.common ∨ b ∈ c.onlyLeft ↔ b ∈ (valid m).basics) ∧
      (c.common.Disjoint c.onlyRight ∧
        ∀ b, b ∈ c.common ∨ b ∈ c.onlyRight ↔ b ∈ (valid n).basics) ∧
      (c.onlyLeft = [] ∧ c.onlyRight = [] ↔ valid m = valid n) := by
  intro c
  obtain ⟨left, right, apart⟩ := List.nodup_append'.mp (compareWith_nodup (valid m) (valid n))
  obtain ⟨both, onlyLeft, disjoint⟩ := List.nodup_append'.mp left
  refine ⟨⟨both, onlyLeft, right⟩, ⟨disjoint, mem_common_or_onlyLeft_iff⟩,
    ⟨fun b inBoth => apart (List.mem_append_left _ inBoth), mem_common_or_onlyRight_iff⟩, ?_⟩
  rw [Policy.valid.injEq]
  exact only_eq_nil_iff

end Policy

end ContentPolicy
