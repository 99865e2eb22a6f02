import ContentPolicy.Sorted.Set

/-!
Finite maps as lists of entries with strictly ascending keys. A map has one such list, so two maps
that answer every look-up alike are equal (`SortedMap.ext_get?`). Look-up laws need no hypothesis
on the list: `get?_insert`, `get?_erase`, `get?_mapValues` and `get?_mergeWith` say what each
operation does to the look-up view.
-/

namespace ContentPolicy

/-- A finite map, held as its entries in ascending order of keys. -/
structure SortedMap (κ ν : Type) [Ord κ] where
  entries : List (κ × ν)
  ascending : Ascending (entries.map Prod.fst)
  deriving DecidableEq

namespace SortedMap

variable {κ ν : Type} [Ord κ]

def find (k : κ) : List (κ × ν) → Option ν
  | [] => none
  | (j, v) :: rest => if compare k j = .eq then some v else find k rest

def place (k : κ) (v : ν) : List (κ × ν) → List (κ × ν)
  | [] => [(k, v)]
  | (j, w) :: rest =>
      match compare k j with
      | .lt => (k, v) :: (j, w) :: rest
      | .eq => (k, v) :: rest
      | .gt => (j, w) :: place k v rest

theorem keys_place [Std.LawfulEqOrd κ] (k : κ) (v : ν) (es : List (κ × ν)) :
    (place k v es).map Prod.fst = SortedSet.place k (es.map Prod.fst) := by
  induction es with
  | nil => rfl
  | cons e rest ih =>
      obtain ⟨j, w⟩ := e
      simp only [place, SortedSet.place, List.map_cons]
      split <;> simp_all

instance : EmptyCollection (SortedMap κ ν) := ⟨⟨[], ascending_nil⟩⟩

instance : Inhabited (SortedMap κ ν) := ⟨∅⟩

def get? (m : SortedMap κ ν) (k : κ) : Option ν := find k m.entries

def contains (m : SortedMap κ ν) (k : κ) : Bool := (m.get? k).isSome

def keys (m : SortedMap κ ν) : List κ := m.entries.map Prod.fst

def values (m : SortedMap κ ν) : List ν := m.entries.map Prod.snd

def size (m : SortedMap κ ν) : Nat := m.entries.length

def isEmpty (m : SortedMap κ ν) : Bool := m.entries.isEmpty

def singleton (k : κ) (v : ν) : SortedMap κ ν := ⟨[(k, v)], List.pairwise_singleton _ _⟩

def mapValues {μ : Type} (m : SortedMap κ ν) (f : ν → μ) : SortedMap κ μ where
  entries := m.entries.map fun e => (e.1, f e.2)
  ascending := by
    simpa [List.map_map, Function.comp_def] using m.ascending

def erase (m : SortedMap κ ν) (k : κ) : SortedMap κ ν where
  entries := m.entries.filter fun e => compare k e.1 != .eq
  ascending := m.ascending.sublist (List.filter_sublist.map Prod.fst)

section Lawful

variable [Std.TransOrd κ] [Std.LawfulEqOrd κ]

def insert (m : SortedMap κ ν) (k : κ) (v : ν) : SortedMap κ ν where
  entries := place k v m.entries
  ascending := by
    rw [keys_place]
    exact SortedSet.place_ascending k _ m.ascending

def insertNew (m : SortedMap κ ν) (k : κ) (v : ν) : SortedMap κ ν :=
  if m.contains k then m else m.insert k v

/-- Inserts the entries from left to right: of several values for one key the last stays. -/
def ofList (es : List (κ × ν)) : SortedMap κ ν := es.foldl (fun m e => m.insert e.1 e.2) ∅

def mergeWith (f : ν → ν → ν) (m n : SortedMap κ ν) : SortedMap κ ν :=
  m.entries.foldr
    (fun e u => u.insert e.1 (match n.get? e.1 with | some w => f e.2 w | none => e.2)) n

omit [Std.TransOrd κ] in
theorem compare_eq_iff (a b : κ) : compare a b = .eq ↔ a = b :=
  ⟨Std.LawfulEqCmp.eq_of_compare, fun same => same ▸ Std.ReflCmp.compare_self⟩

omit [Std.TransOrd κ] in
theorem find_place_self (k : κ) (v : ν) (es : List (κ × ν)) : find k (place k v es) = some v := by
  induction es with
  | nil => simp [place, find]
  | cons e rest ih =>
      obtain ⟨j, w⟩ := e
      simp only [place]
      split
      · simp [find]
      · simp [find]
      · rename_i after
        simp [find, after, ih]

omit [Std.TransOrd κ] in
theorem find_place_ne (k l : κ) (v : ν) (es : List (κ × ν)) (different : l ≠ k) :
    find l (place k v es) = find l es := by
  have unequal : compare l k ≠ .eq := fun same => different ((compare_eq_iff l k).mp same)
  induction es with
  | nil => simp [place, find, unequal]
  | cons e rest ih =>
      obtain ⟨j, w⟩ := e
      simp only [place]
      split
      · simp [find, unequal]
      · rename_i same
        have : k = j := (compare_eq_iff k j).mp same
        subst this
        simp [find, unequal]
      · simp only [find, ih]

theorem get?_insert [DecidableEq κ] (m : SortedMap κ ν) (k l : κ) (v : ν) :
    (m.insert k v).get? l = if l = k then some v else m.get? l := by
  by_cases same : l = k
  · subst same
    exact (find_place_self l v m.entries).trans (if_pos rfl).symm
  · exact (find_place_ne k l v m.entries same).trans (if_neg same).symm

omit [Std.TransOrd κ] [Std.LawfulEqOrd κ] in
@[simp] theorem get?_empty (k : κ) : (∅ : SortedMap κ ν).get? k = none := rfl

omit [Std.TransOrd κ] [Std.LawfulEqOrd κ] in
theorem get?_mapValues {μ : Type} (m : SortedMap κ ν) (f : ν → μ) (k : κ) :
    (m.mapValues f).get? k = (m.get? k).map f := by
  obtain ⟨es, sorted⟩ := m
  change find k (es.map fun e => (e.1, f e.2)) = (find k es).map f
  clear sorted
  induction es with
  | nil => rfl
  | cons e rest ih =>
      simp only [List.map_cons, find, ih]
      split <;> rfl

omit [Std.TransOrd κ] in
theorem get?_erase [DecidableEq κ] (m : SortedMap κ ν) (k l : κ) :
    (m.erase k).get? l = if l = k then none else m.get? l := by
  obtain ⟨es, sorted⟩ := m
  change find l (es.filter fun e => compare k e.1 != .eq) = if l = k then none else find l es
  clear sorted
  induction es with
  | nil => simp [find]
  | cons e rest ih =>
      obtain ⟨j, w⟩ := e
      by_cases atK : compare k j = .eq
      · have : k = j := (compare_eq_iff k j).mp atK
        subst this
        by_cases same : l = k
        · subst same
          simpa [List.filter_cons, atK] using ih
        · have unequal : compare l k ≠ .eq := fun h => same ((compare_eq_iff l k).mp h)
          simpa [List.filter_cons, atK, find, unequal, same] using ih
      · by_cases same : l = k
        · subst same
          simpa [List.filter_cons, atK, find] using ih
        · simp only [same, if_false] at ih
          simp [atK, find, same, ih]

theorem get?_mergeWith (f : ν → ν → ν) (m n : SortedMap κ ν) (k : κ) :
    (m.mergeWith f n).get? k =
      match m.get? k, n.get? k with
      | some v, some w => some (f v w)
      | some v, none => some v
      | none, found => found := by
  classical
  obtain ⟨es, sorted⟩ := m
  simp only [mergeWith, get?]
  clear sorted
  induction es with
  | nil => simp [find]
  | cons e rest ih =>
      obtain ⟨j, w⟩ := e
      rw [List.foldr_cons]
      change (insert _ j _).get? k = _
      rw [get?_insert]
      by_cases same : k = j
      · subst same
        have self : compare k k = .eq := (compare_eq_iff k k).mpr rfl
        simp only [if_true, find, self]
        split <;> simp_all
      · have unequal : compare k j ≠ .eq := fun h => same ((compare_eq_iff k j).mp h)
        simp only [same, if_false, find, unequal]
        exact ih

omit [Std.TransOrd κ] in
theorem find_eq_some_iff (es : List (κ × ν)) (sorted : Ascending (es.map Prod.fst)) (k : κ)
    (v : ν) : find k es = some v ↔ (k, v) ∈ es := by
  induction es with
  | nil => simp [find]
  | cons e rest ih =>
      obtain ⟨j, w⟩ := e
      have fresh := SortedSet.not_mem_of_ascending_cons sorted
      have ih := ih (List.Pairwise.of_cons sorted)
      by_cases same : k = j
      · subst same
        have absent : ∀ u, (k, u) ∉ rest := fun u h => fresh (List.mem_map.mpr ⟨(k, u), h, rfl⟩)
        simp [find, absent, eq_comm]
      · have unequal : compare k j ≠ .eq := fun h => same ((compare_eq_iff k j).mp h)
        simp [find, unequal, ih, same]

omit [Std.TransOrd κ] in
theorem get?_eq_some_iff (m : SortedMap κ ν) (k : κ) (v : ν) :
    m.get? k = some v ↔ (k, v) ∈ m.entries :=
  find_eq_some_iff m.entries m.ascending k v

omit [Std.TransOrd κ] in
theorem get?_of_mem {m : SortedMap κ ν} {e : κ × ν} (entry : e ∈ m.entries) :
    m.get? e.1 = some e.2 :=
  (get?_eq_some_iff m e.1 e.2).mpr entry

omit [Std.TransOrd κ] in
theorem mem_keys_iff (m : SortedMap κ ν) (k : κ) : k ∈ m.keys ↔ ∃ v, m.get? k = some v := by
  simp [keys, get?_eq_some_iff]

omit [Std.TransOrd κ] [Std.LawfulEqOrd κ] in
theorem contains_iff (m : SortedMap κ ν) (k : κ) :
    m.contains k = true ↔ ∃ v, m.get? k = some v := by
  simp [contains, Option.isSome_iff_exists]

theorem entries_unique (es fs : List (κ × ν)) (sortedE : Ascending (es.map Prod.fst))
    (sortedF : Ascending (fs.map Prod.fst)) (same : ∀ e, e ∈ es ↔ e ∈ fs) : es = fs := by
  induction es generalizing fs with
  | nil =>
      cases fs with
      | nil => rfl
      | cons b rest => exact absurd ((same b).mpr List.mem_cons_self) List.not_mem_nil
  | cons e es ih =>
      have keysSame : (e :: es).map Prod.fst = fs.map Prod.fst := by
        refine SortedSet.ascending_unique _ _ sortedE sortedF fun k => ?_
        simp only [List.mem_map]
        exact ⟨fun ⟨x, member, eq⟩ => ⟨x, (same x).mp member, eq⟩,
          fun ⟨x, member, eq⟩ => ⟨x, (same x).mpr member, eq⟩⟩
      cases fs with
      | nil => simp at keysSame
      | cons g gs =>
          simp only [List.map_cons, List.cons.injEq] at keysSame
          have freshE := SortedSet.not_mem_of_ascending_cons sortedE
          have freshF := SortedSet.not_mem_of_ascending_cons sortedF
          have heads : e = g := by
            rcases List.mem_cons.mp ((same e).mp List.mem_cons_self) with eq | later
            · exact eq
            · exact absurd (keysSame.1 ▸ List.mem_map_of_mem later) freshF
          subst heads
          congr 1
          refine ih gs (List.Pairwise.of_cons sortedE) (List.Pairwise.of_cons sortedF) fun x => ?_
          have both := same x
          simp only [List.mem_cons] at both
          constructor
          · intro member
            rcases both.mp (.inr member) with eq | found
            · exact absurd (List.mem_map_of_mem (eq ▸ member)) freshE
            · exact found
          · intro member
            rcases both.mpr (.inr member) with eq | found
            · exact absurd (List.mem_map_of_mem (eq ▸ member)) freshF
            · exact found

theorem ext_get? {m n : SortedMap κ ν} (same : ∀ k, m.get? k = n.get? k) : m = n := by
  obtain ⟨es, sortedE⟩ := m
  obtain ⟨fs, sortedF⟩ := n
  have : es = fs := entries_unique es fs sortedE sortedF fun ⟨k, v⟩ => by
    rw [← find_eq_some_iff es sortedE, ← find_eq_some_iff fs sortedF]
    exact iff_of_eq (congrArg (· = some v) (same k))
  subst this
  rfl

end Lawful

end SortedMap

end ContentPolicy
