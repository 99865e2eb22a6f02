import Mathlib.Tactic.SplitIfs
import ContentPolicy.Json.Writer
import ContentPolicy.Proofs.Text.Characters

/-!
Compact JSON. Controls of strings are escaped, and what surrounds the strings is visible, so the
text of a value is one line.
-/

namespace ContentPolicy

open Text

namespace Text

/-- A text without the controls of ASCII, of which the line feed is one. -/
def HasNoControl (cs : List Char) : Prop := ∀ c ∈ cs, 0x20 ≤ c.toNat

namespace HasNoControl

variable {c : Char} {cs ds : List Char}

instance : Decidable (HasNoControl cs) :=
  decidable_of_iff ((cs.all fun c => 0x20 ≤ c.toNat) = true) (by simp [HasNoControl])

theorem cons (visible : 0x20 ≤ c.toNat) (rest : HasNoControl cs) : HasNoControl (c :: cs) :=
  List.forall_mem_cons.mpr ⟨visible, rest⟩

theorem append (front : HasNoControl cs) (rest : HasNoControl ds) : HasNoControl (cs ++ ds) :=
  List.forall_mem_append.mpr ⟨front, rest⟩

theorem mono (all : HasNoControl cs) (part : ds ⊆ cs) : HasNoControl ds :=
  fun c inside => all c (part inside)

theorem replicate (n : Nat) (visible : 0x20 ≤ c.toNat) : HasNoControl (List.replicate n c) :=
  fun _ inside => List.eq_of_mem_replicate inside ▸ visible

theorem toDigits (n : Nat) : HasNoControl (Nat.toDigits 10 n) := by
  intro c inside
  have digit := Nat.isDigit_of_mem_toDigits (by decide) (by decide) inside
  have := (isDigit_iff c).mp digit
  omega

theorem lineFeed_not_mem (clear : HasNoControl cs) : '\n' ∉ cs :=
  fun inside => absurd (clear '\n' inside) (by decide)

end HasNoControl

end Text

namespace JsonNumber

theorem renderInt_hasNoControl (n : Int) : HasNoControl (renderInt n) := by
  rw [renderInt]
  split
  · exact .cons (by decide) (.toDigits _)
  · exact .toDigits _

theorem dropZeros_subset (digits : List Char) : dropZeros digits ⊆ digits := by
  intro c inside
  rcases List.mem_append.mp inside with first | later
  · exact List.mem_of_mem_take first
  · have kept := (List.dropWhile_sublist _).subset (List.mem_reverse.mp later)
    exact List.mem_of_mem_drop (List.mem_reverse.mp kept)

theorem renderDecimal_hasNoControl {digits : List Char} (clear : HasNoControl digits)
    (exponent : Int) : HasNoControl (renderDecimal digits exponent) := by
  have zeros (n : Nat) : HasNoControl (List.replicate n '0') := .replicate n (by decide)
  unfold renderDecimal
  split
  · refine .append (.append (clear.mono (List.take_subset _ _)) (zeros _)) (.cons (by decide) ?_)
    split
    · decide
    · exact clear.mono (List.drop_subset _ _)
  · split
    · exact .append (.append (by decide) (zeros _)) clear
    · apply HasNoControl.append
      · split
        · exact clear
        · exact clear
        · have rest := clear.mono (List.subset_cons_self _ _)
          exact .cons (clear _ List.mem_cons_self) (.cons (by decide) rest)
      · refine .cons (by decide) (.cons ?_ (.toDigits _))
        split <;> decide

theorem renderDouble_hasNoControl (d : Double) : HasNoControl (renderDouble d) := by
  have sign : HasNoControl (if d.negative then ['-'] else []) := by
    split <;> decide
  rw [renderDouble]
  split
  · exact sign.append (by decide)
  · apply sign.append
    apply renderDecimal_hasNoControl
    exact (HasNoControl.toDigits _).mono (dropZeros_subset _)

theorem render_hasNoControl (n : JsonNumber) : HasNoControl n.render := by
  cases n with
  | integer n => exact renderInt_hasNoControl n
  | double d => exact renderDouble_hasNoControl d

end JsonNumber

namespace Json

theorem renderChar_hasNoControl (c : Char) : HasNoControl (renderChar c) := by
  have hex : ∀ v : Fin 32, HasNoControl
      ['\\', 'u', '0', '0', Nat.digitChar (v.val / 16), Nat.digitChar (v.val % 16)] := by decide
  unfold renderChar
  split_ifs with _ _ _ _ _ _ _ control
  any_goals decide
  · exact hex ⟨c.toNat, control⟩
  · exact .cons (Nat.not_lt.mp control) nofun

theorem renderString_hasNoControl (s : String) : HasNoControl (renderString s) := by
  have characters : HasNoControl (s.toList.flatMap renderChar) := by
    intro c inside
    obtain ⟨d, _, escaped⟩ := List.mem_flatMap.mp inside
    exact renderChar_hasNoControl d c escaped
  exact .cons (by decide) (characters.append (by decide))

mutual

theorem render_hasNoControl : ∀ j : Json, HasNoControl j.render
  | .null => by
      rw [render]
      decide
  | .bool b => by
      rw [render]
      split <;> decide
  | .number n => by
      rw [render]
      exact n.render_hasNoControl
  | .string s => by
      rw [render]
      exact renderString_hasNoControl s
  | .array items => by
      rw [render]
      exact .cons (by decide) (.append (renderItems_hasNoControl items) (by decide))
  | .object members => by
      rw [render]
      exact .cons (by decide) (.append (renderMembers_hasNoControl members) (by decide))

theorem renderItems_hasNoControl : ∀ items : List Json, HasNoControl (renderItems items)
  | [] => by
      rw [renderItems]
      decide
  | [item] => by
      rw [renderItems]
      exact render_hasNoControl item
  | item :: next :: rest => by
      rw [renderItems]
      · exact .append (render_hasNoControl item)
          (.cons (by decide) (renderItems_hasNoControl (next :: rest)))
      · exact nofun

theorem renderMembers_hasNoControl : ∀ members : List (String × Json),
    HasNoControl (renderMembers members)
  | [] => by
      rw [renderMembers]
      decide
  | [(name, value)] => by
      rw [renderMembers]
      exact .append (renderString_hasNoControl name) (.cons (by decide) (render_hasNoControl value))
  | (name, value) :: next :: rest => by
      rw [renderMembers]
      · exact .append (.append (renderString_hasNoControl name)
          (.cons (by decide) (render_hasNoControl value)))
          (.cons (by decide) (renderMembers_hasNoControl (next :: rest)))
      · exact nofun

end

end Json

end ContentPolicy
