import ContentPolicy.Sorted.Map

/-!
More about looking up in a map: what the operations that are made of others do to the look-up view,
and a map made again from its own entries.
-/

namespace ContentPolicy

namespace SortedMap

variable {κ ν : Type} [Ord κ] [Std.TransOrd κ] [Std.LawfulEqOrd κ] [DecidableEq κ]

theorem get?_insertNew (m : SortedMap κ ν) (k l : κ) (v : ν) :
    (m.insertNew k v).get? l = (m.get? l).or (if l = k then some v else none) := by
  rw [insertNew]
  by_cases present : m.contains k = true
  · rw [if_pos present]
    by_cases same : l = k
    · subst same
      obtain ⟨w, found⟩ := (contains_iff m l).mp present
      rw [found]
      rfl
    · rw [if_neg same, Option.or_none]
  · rw [if_neg present, get?_insert]
    by_cases same : l = k
    · subst same
      have absent : m.get? l = none := by
        rw [contains, Bool.not_eq_true, Option.isSome_eq_false_iff,
          Option.isNone_iff_eq_none] at present
        exact present
      rw [if_pos rfl, if_pos rfl, absent]
      rfl
    · rw [if_neg same, if_neg same, Option.or_none]

theorem forall_insert {Holds : κ → ν → Prop} {m : SortedMap κ ν}
    (all : ∀ k v, m.get? k = some v → Holds k v) {key : κ} {value : ν} (holds : Holds key value) :
    ∀ k v, (m.insert key value).get? k = some v → Holds k v := by
  intro k v found
  rw [get?_insert] at found
  split at found
  · rename_i same
    cases found
    exact same ▸ holds
  · exact all k v found

theorem forall_foldl_insert {Holds : κ → ν → Prop} {α : Type} {key : α → κ} {value : α → ν}
    {as : List α} (each : ∀ a ∈ as, Holds (key a) (value a)) {m : SortedMap κ ν}
    (all : ∀ k v, m.get? k = some v → Holds k v) :
    ∀ k v, (as.foldl (fun m a => m.insert (key a) (value a)) m).get? k = some v → Holds k v := by
  induction as generalizing m with
  | nil => exact all
  | cons a rest ih =>
      exact ih (fun b member => each b (List.mem_cons_of_mem a member))
        (forall_insert all (each a List.mem_cons_self))

omit [Std.TransOrd κ] [DecidableEq κ] in
theorem isEmpty_iff (m : SortedMap κ ν) : m.isEmpty = true ↔ ∀ k, m.get? k = none := by
  rw [isEmpty, List.isEmpty_iff]
  constructor
  · intro empty k
    rw [get?, empty]
    rfl
  · intro absent
    cases entries : m.entries with
    | nil => rfl
    | cons e rest =>
        have found : m.get? e.1 = some e.2 := get?_of_mem (entries ▸ List.mem_cons_self)
        rw [absent e.1] at found
        cases found

omit [Std.TransOrd κ] in
theorem get?_singleton (k l : κ) (v : ν) :
    (singleton k v).get? l = if l = k then some v else none := by
  change (if compare l k = .eq then some v else none) = _
  simp only [compare_eq_iff]

omit [Std.TransOrd κ] [DecidableEq κ] in
theorem find_first_eq_none {e : κ × ν} {rest : List (κ × ν)}
    (sorted : Ascending ((e :: rest).map Prod.fst)) : find e.1 rest = none := by
  rw [Option.eq_none_iff_forall_ne_some]
  intro v found
  have member := (find_eq_some_iff rest sorted.of_cons e.1 v).mp found
  exact SortedSet.not_mem_of_ascending_cons sorted
    (List.mem_map.mpr ⟨(e.1, v), member, rfl⟩)

theorem get?_foldl_insert (es : List (κ × ν)) (sorted : Ascending (es.map Prod.fst))
    (m : SortedMap κ ν) (k : κ) :
    (es.foldl (fun m e => m.insert e.1 e.2) m).get? k = (find k es).or (m.get? k) := by
  induction es generalizing m with
  | nil => rfl
  | cons e rest ih =>
      rw [List.foldl_cons, ih (List.Pairwise.of_cons sorted), get?_insert, find]
      by_cases same : k = e.1
      -- Nothing later replaces what the first entry puts there.
      · subst same
        rw [find_first_eq_none sorted, if_pos rfl, if_pos ((compare_eq_iff e.1 e.1).mpr rfl)]
        rfl
      · rw [if_neg same, if_neg (mt (compare_eq_iff k e.1).mp same)]

theorem ofList_entries (m : SortedMap κ ν) : ofList m.entries = m := by
  apply ext_get?
  intro k
  have found := get?_foldl_insert m.entries m.ascending ∅ k
  rw [get?_empty, Option.or_none] at found
  exact found

omit [DecidableEq κ] in
theorem foldlM_of_insert {β : Type} {f : SortedMap κ ν → β} {step : β → κ × ν → Option β}
    {es : List (κ × ν)}
    (adds : ∀ e ∈ es, ∀ m, step (f m) e = some (f (m.insert e.1 e.2)))
    (start : SortedMap κ ν) :
    es.foldlM step (f start) = some (f (es.foldl (fun m e => m.insert e.1 e.2) start)) := by
  induction es generalizing start with
  | nil => rfl
  | cons e rest ih =>
      rw [List.foldlM_cons, adds e List.mem_cons_self start]
      exact ih (fun e member => adds e (List.mem_cons_of_mem _ member)) (start.insert e.1 e.2)

/-- A map comes back from its entries as they were written, where each is read as it was. -/
theorem foldlM_mapValues {β μ : Type} {m : SortedMap κ ν} {write : ν → μ}
    {f : SortedMap κ ν → β} {step : β → κ × μ → Option β}
    (adds : ∀ k v, m.get? k = some v → ∀ n,
      step (f n) (k, write v) = some (f (n.insert k v))) :
    (m.mapValues write).entries.foldlM step (f ∅) = some (f m) := by
  calc
    (m.mapValues write).entries.foldlM step (f ∅) =
        m.entries.foldlM (fun b e => step b (e.1, write e.2)) (f ∅) := List.foldlM_map ..
    _ = some (f (ofList m.entries)) :=
      foldlM_of_insert (fun e entry => adds e.1 e.2 (get?_of_mem entry)) ∅
    _ = some (f m) := by rw [ofList_entries]

end SortedMap

end ContentPolicy
