/-!
Cutting a text at separators and at its ends. Each cut that succeeds loses only the separator: the
pieces and the separator put together again are the text.
-/

namespace ContentPolicy.Text

/-- The parts before and after the first character with the property. -/
def cut? (p : Char → Bool) (cs : List Char) : Option (List Char × List Char) :=
  match cs.dropWhile fun c => !p c with
  | [] => none
  | _ :: rest => some (cs.takeWhile fun c => !p c, rest)

def upTo (p : Char → Bool) (cs : List Char) : List Char := cs.takeWhile fun c => !p c

def fromOn (p : Char → Bool) (cs : List Char) : List Char := cs.dropWhile fun c => !p c

def afterStart? (start cs : List Char) : Option (List Char) :=
  if start.isPrefixOf cs then some (cs.drop start.length) else none

def beforeEnd? (ending cs : List Char) : Option (List Char) :=
  if ending.isSuffixOf cs then some (cs.take (cs.length - ending.length)) else none

theorem upTo_append_fromOn (p : Char → Bool) (cs : List Char) : upTo p cs ++ fromOn p cs = cs :=
  List.takeWhile_append_dropWhile

theorem cut?_cons (p : Char → Bool) (c : Char) (cs : List Char) :
    cut? p (c :: cs) =
      if p c then some ([], cs) else (cut? p cs).map fun parts => (c :: parts.1, parts.2) := by
  cases h : p c
  · simp only [cut?, List.dropWhile_cons, List.takeWhile_cons, h]
    cases cs.dropWhile fun c => !p c <;> simp
  · simp [cut?, h]

theorem cut?_eq_some {p : Char → Bool} {cs before rest : List Char}
    (found : cut? p cs = some (before, rest)) :
    ∃ c, p c = true ∧ cs = before ++ c :: rest ∧ ∀ b ∈ before, p b = false := by
  induction cs generalizing before with
  | nil => simp [cut?] at found
  | cons c cs ih =>
      rw [cut?_cons] at found
      cases h : p c
      · obtain ⟨part, later, rfl⟩ : ∃ part, cut? p cs = some (part, rest) ∧ c :: part = before := by
          simpa [h] using found
        obtain ⟨d, holds, rfl, clear⟩ := ih later
        exact ⟨d, holds, rfl, by simpa [h] using clear⟩
      · obtain ⟨rfl, rfl⟩ : [] = before ∧ cs = rest := by simpa [h] using found
        exact ⟨c, h, rfl, by simp⟩

theorem cut?_eq_none_iff {p : Char → Bool} {cs : List Char} :
    cut? p cs = none ↔ ∀ c ∈ cs, p c = false := by
  induction cs with
  | nil => simp [cut?]
  | cons c cs ih => cases h : p c <;> simp [cut?_cons, h, ih]

theorem cut?_append {p : Char → Bool} {before rest : List Char} {c : Char}
    (clear : ∀ b ∈ before, p b = false) (holds : p c = true) :
    cut? p (before ++ c :: rest) = some (before, rest) := by
  induction before with
  | nil => simp [cut?_cons, holds]
  | cons b before ih =>
      have first : p b = false := clear b List.mem_cons_self
      simp [cut?_cons, first, ih fun x member => clear x (List.mem_cons_of_mem b member)]

end ContentPolicy.Text
