/-!
Finite sets as strictly ascending lists. A set has one such list, so two sets with the same
members are equal (`SortedSet.ext_mem`), and listing a set needs no order of its own.
-/

namespace ContentPolicy

def Ascending {α : Type} [Ord α] (xs : List α) : Prop :=
  xs.Pairwise fun a b => compare a b = .lt

theorem ascending_nil {α : Type} [Ord α] : Ascending ([] : List α) := List.Pairwise.nil

structure SortedSet (α : Type) [Ord α] where
  toList : List α
  ascending : Ascending toList
  deriving DecidableEq

namespace SortedSet

variable {α : Type} [Ord α]

def place (a : α) : List α → List α
  | [] => [a]
  | b :: rest =>
      match compare a b with
      | .lt => a :: b :: rest
      | .eq => a :: rest
      | .gt => b :: place a rest

theorem mem_place [Std.LawfulEqOrd α] (a x : α) (xs : List α) :
    x ∈ place a xs ↔ x = a ∨ x ∈ xs := by
  induction xs with
  | nil => simp [place]
  | cons b rest ih =>
      simp only [place]
      split
      · simp
      · rename_i same
        have : a = b := Std.LawfulEqCmp.eq_of_compare same
        subst this
        simp
      · simp only [List.mem_cons, ih]
        grind

theorem place_ascending [Std.TransOrd α] [Std.LawfulEqOrd α] (a : α) (xs : List α)
    (sorted : Ascending xs) : Ascending (place a xs) := by
  induction xs with
  | nil => simp [place, Ascending]
  | cons b rest ih =>
      have tail : Ascending rest := List.Pairwise.of_cons sorted
      have head : ∀ c ∈ rest, compare b c = .lt :=
        fun _ member => List.rel_of_pairwise_cons sorted member
      simp only [place]
      split
      · rename_i before
        refine List.Pairwise.cons (fun c member => ?_) sorted
        rcases List.mem_cons.mp member with same | later
        · exact same ▸ before
        · exact Std.TransCmp.lt_trans before (head c later)
      · rename_i same
        have : a = b := Std.LawfulEqCmp.eq_of_compare same
        subst this
        exact sorted
      · rename_i after
        refine List.Pairwise.cons (fun c member => ?_) (ih tail)
        rcases (mem_place a c rest).mp member with same | later
        · exact same ▸ Std.OrientedCmp.lt_of_gt after
        · exact head c later

instance : EmptyCollection (SortedSet α) := ⟨⟨[], ascending_nil⟩⟩

instance : Membership α (SortedSet α) := ⟨fun s a => a ∈ s.toList⟩

instance [DecidableEq α] (a : α) (s : SortedSet α) : Decidable (a ∈ s) :=
  inferInstanceAs (Decidable (a ∈ s.toList))

theorem mem_def (a : α) (s : SortedSet α) : a ∈ s ↔ a ∈ s.toList := Iff.rfl

def size (s : SortedSet α) : Nat := s.toList.length

def isEmpty (s : SortedSet α) : Bool := s.toList.isEmpty

def any (s : SortedSet α) (p : α → Bool) : Bool := s.toList.any p

def singleton (a : α) : SortedSet α := ⟨[a], List.pairwise_singleton _ _⟩

@[simp] theorem not_mem_empty (x : α) : ¬ x ∈ (∅ : SortedSet α) := List.not_mem_nil

@[simp] theorem mem_singleton (a x : α) : x ∈ singleton a ↔ x = a := List.mem_singleton

section Lawful

variable [Std.TransOrd α] [Std.LawfulEqOrd α]

def insert (s : SortedSet α) (a : α) : SortedSet α :=
  ⟨place a s.toList, place_ascending a s.toList s.ascending⟩

def ofList (xs : List α) : SortedSet α := xs.foldr (fun a s => s.insert a) ∅

def union (s t : SortedSet α) : SortedSet α := s.toList.foldr (fun a u => u.insert a) t

/-- The images of the members; images that coincide are one member. -/
def image (s : SortedSet α) (f : α → α) : SortedSet α := ofList (s.toList.map f)

theorem mem_insert (s : SortedSet α) (a x : α) : x ∈ s.insert a ↔ x = a ∨ x ∈ s :=
  mem_place a x s.toList

@[simp] theorem mem_ofList (xs : List α) (x : α) : x ∈ ofList xs ↔ x ∈ xs := by
  induction xs with
  | nil => exact iff_of_false (not_mem_empty x) List.not_mem_nil
  | cons a rest ih =>
      change x ∈ (ofList rest).insert a ↔ _
      rw [mem_insert, ih, List.mem_cons]

@[simp] theorem mem_union (s t : SortedSet α) (x : α) : x ∈ s.union t ↔ x ∈ s ∨ x ∈ t := by
  rw [mem_def x s]
  unfold union
  induction s.toList with
  | nil => simp
  | cons a rest ih => simp only [List.foldr_cons, mem_insert, ih, List.mem_cons, or_assoc]

@[simp] theorem mem_image (s : SortedSet α) (f : α → α) (x : α) :
    x ∈ s.image f ↔ ∃ a ∈ s, f a = x := by
  rw [image, mem_ofList]
  exact List.mem_map

omit [Std.TransOrd α] in
theorem not_mem_of_ascending_cons {a : α} {xs : List α} (sorted : Ascending (a :: xs)) :
    a ∉ xs := fun member => by
  have before : compare a a = .lt := List.rel_of_pairwise_cons sorted member
  exact absurd (Std.ReflCmp.compare_self.symm.trans before) (by decide)

theorem ascending_unique (xs ys : List α) (sortedXs : Ascending xs) (sortedYs : Ascending ys)
    (same : ∀ x, x ∈ xs ↔ x ∈ ys) : xs = ys := by
  induction xs generalizing ys with
  | nil =>
      cases ys with
      | nil => rfl
      | cons b rest => exact absurd ((same b).mpr List.mem_cons_self) List.not_mem_nil
  | cons a xs ih =>
      cases ys with
      | nil => exact absurd ((same a).mp List.mem_cons_self) List.not_mem_nil
      | cons b ys =>
          have heads : a = b := by
            rcases List.mem_cons.mp ((same a).mp List.mem_cons_self) with eq | later
            · exact eq
            · rcases List.mem_cons.mp ((same b).mpr List.mem_cons_self) with eq | earlier
              · exact eq.symm
              · have turn : compare b b = .lt := Std.TransCmp.lt_trans
                  (List.rel_of_pairwise_cons sortedYs later)
                  (List.rel_of_pairwise_cons sortedXs earlier)
                exact absurd (Std.ReflCmp.compare_self.symm.trans turn) (by decide)
          subst heads
          have freshX := not_mem_of_ascending_cons sortedXs
          have freshY := not_mem_of_ascending_cons sortedYs
          congr 1
          refine ih ys (List.Pairwise.of_cons sortedXs) (List.Pairwise.of_cons sortedYs) fun x => ?_
          have := same x
          simp only [List.mem_cons] at this
          constructor
          · intro member
            rcases this.mp (.inr member) with eq | found
            · exact absurd (eq ▸ member) freshX
            · exact found
          · intro member
            rcases this.mpr (.inr member) with eq | found
            · exact absurd (eq ▸ member) freshY
            · exact found

theorem ext_mem {s t : SortedSet α} (same : ∀ x, x ∈ s ↔ x ∈ t) : s = t := by
  obtain ⟨xs, sortedXs⟩ := s
  obtain ⟨ys, sortedYs⟩ := t
  have := ascending_unique xs ys sortedXs sortedYs same
  subst this
  rfl

end Lawful

end SortedSet

end ContentPolicy
