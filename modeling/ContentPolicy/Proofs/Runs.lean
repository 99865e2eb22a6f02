import Mathlib.Data.List.Basic

/-!
Runs that may fail. A run succeeds where each of its steps does, and keeps what each of them keeps.
-/

namespace ContentPolicy

theorem bind_eq_ok_iff {ε α β : Type} {x : Except ε α} {f : α → Except ε β} {b : β} :
    (x >>= f) = .ok b ↔ ∃ a, x = .ok a ∧ f a = .ok b := by
  cases x with
  | ok a => exact ⟨fun found => ⟨a, rfl, found⟩, fun ⟨_, same, found⟩ => Except.ok.inj same ▸ found⟩
  | error e => exact ⟨nofun, fun ⟨_, absent, _⟩ => nomatch absent⟩

theorem mapError_eq_ok_iff {ε ε' α : Type} {x : Except ε α} {f : ε → ε'} {a : α} :
    x.mapError f = .ok a ↔ x = .ok a := by
  cases x with
  | ok a => exact ⟨fun same => Except.ok.inj same ▸ rfl, fun same => Except.ok.inj same ▸ rfl⟩
  | error e => exact ⟨nofun, nofun⟩

theorem forM_eq_ok_iff {ε α : Type} {check : α → Except ε Unit} {l : List α} :
    l.forM check = .ok () ↔ ∀ a ∈ l, check a = .ok () := by
  induction l with
  | nil => exact iff_of_true rfl nofun
  | cons a rest ih =>
      rw [List.forM, bind_eq_ok_iff, List.forall_mem_cons, ← ih]
      exact ⟨fun ⟨_, first, later⟩ => ⟨first, later⟩, fun ⟨first, later⟩ => ⟨(), first, later⟩⟩

theorem exists_mapM_eq_ok_iff {ε α β : Type} {step : α → Except ε β} {l : List α} :
    (∃ bs, l.mapM step = .ok bs) ↔ ∀ a ∈ l, ∃ b, step a = .ok b := by
  induction l with
  | nil => exact iff_of_true ⟨[], rfl⟩ nofun
  | cons a rest ih =>
      simp only [List.mapM_cons, bind_eq_ok_iff, List.forall_mem_cons, ← ih]
      constructor
      · rintro ⟨_, b, first, later, others, _⟩
        exact ⟨⟨b, first⟩, later, others⟩
      · rintro ⟨⟨b, first⟩, later, others⟩
        exact ⟨b :: later, b, first, later, others, rfl⟩

theorem foldlM_keeps {α β : Type} {step : β → α → Option β} (Holds : β → Prop) {l : List α}
    (keeps : ∀ a ∈ l, ∀ b b', Holds b → step b a = some b' → Holds b') {start final : β}
    (holds : Holds start) (run : l.foldlM step start = some final) : Holds final := by
  induction l generalizing start with
  | nil =>
      cases run
      exact holds
  | cons a rest ih =>
      rw [List.foldlM_cons] at run
      obtain ⟨next, first, later⟩ := Option.bind_eq_some_iff.mp run
      have kept := keeps a List.mem_cons_self start next holds first
      exact ih (fun b member => keeps b (List.mem_cons_of_mem a member)) kept later

/-- A run goes the same way with any steps that go the same way. -/
theorem foldlM_of_step {α β : Type} {step step' : β → α → Option β} {l : List α}
    (same : ∀ b a b', step b a = some b' → step' b a = some b') {start final : β}
    (run : l.foldlM step start = some final) : l.foldlM step' start = some final := by
  induction l generalizing start with
  | nil => exact run
  | cons a rest ih =>
      rw [List.foldlM_cons] at run ⊢
      obtain ⟨next, first, later⟩ := Option.bind_eq_some_iff.mp run
      exact Option.bind_eq_some_iff.mpr ⟨next, same start a next first, ih later⟩

end ContentPolicy
