import ContentPolicy.Proofs.Text.Characters
import ContentPolicy.Text.LowerCase

/-!
Lower-casing a text a second time changes nothing. No image of a character has an image itself,
which is checked on the runs of the table: the images of one run lie outside every other, or between
its characters where a run takes every second one.
-/

namespace ContentPolicy.Text

namespace CaseRun

def holds (run : CaseRun) (n : Nat) : Prop :=
  run.first ≤ n ∧ n ≤ run.last ∧ (n - run.first) % run.step = 0

theorem image?_eq_none_iff {run : CaseRun} {c : Char} :
    run.image? c = none ↔ ¬run.holds c.toNat := by
  simp [image?, holds]

theorem image?_eq_some_iff {run : CaseRun} {c d : Char} :
    run.image? c = some d ↔ run.holds c.toNat ∧ Char.ofNat (c.toNat + run.shift).toNat = d := by
  simp [image?, holds, and_assoc]

def low (run : CaseRun) : Nat := (run.first + run.shift).toNat

def high (run : CaseRun) : Nat := (run.last + run.shift).toNat

def alternates (run : CaseRun) : Bool := Nat.beq run.step 2 || Nat.beq run.first run.last

def isChars (run : CaseRun) : Bool :=
  Nat.ble 1 run.low && (Nat.blt run.high 0xD800 || Nat.blt 0xDFFF run.low && Nat.blt run.high 0x110000)

end CaseRun

/-- Whether no number from `low` to `high` is in a run; if they alternate, those between two
characters of a run are none of them. -/
def avoid (low high : Nat) (alternate : Bool) : List CaseRun → Bool
  | [] => true
  | run :: rest =>
      (Nat.blt high run.first || Nat.blt run.last low ||
        (alternate && Nat.beq run.step 2 && Nat.beq ((low + run.first) % 2) 1)) &&
        avoid low high alternate rest

theorem not_holds_of_avoid {low high : Nat} {alternate : Bool} {runs : List CaseRun}
    (avoided : avoid low high alternate runs = true) {n : Nat} (from_low : low ≤ n)
    (to_high : n ≤ high)
    (parity : alternate = true → n % 2 = low % 2) : ∀ run ∈ runs, ¬run.holds n := by
  induction runs with
  | nil => exact fun run absent => nomatch absent
  | cons first rest ih =>
      simp only [avoid, Bool.and_eq_true, Bool.or_eq_true, Nat.blt_eq, Nat.beq_eq] at avoided
      obtain ⟨here, later⟩ := avoided
      intro run member
      rcases List.mem_cons.mp member with rfl | inside
      · rintro ⟨after, before, step⟩
        rcases here with (apart | apart) | ⟨⟨isAlternate, every⟩, between⟩
        · omega
        · omega
        · have := parity isAlternate
          rw [every] at step
          omega
      · exact ih later run inside

/-- All characters with a lower-case form of their own, the capital I with a dot among them. -/
def caseTable : List CaseRun := ⟨0x130, 0x130, 1, 0⟩ :: caseRuns

def IsLowered (c : Char) : Prop := ∀ run ∈ caseTable, ¬run.holds c.toNat

theorem caseRuns_images :
    (caseRuns.all fun run => run.isChars && avoid run.low run.high run.alternates caseTable) =
      true := by decide +kernel

theorem isLowered_of_avoid {c : Char} {low high : Nat}
    (avoided : avoid low high false caseTable = true) (from_low : low ≤ c.toNat)
    (to_high : c.toNat ≤ high) : IsLowered c :=
  not_holds_of_avoid avoided from_low to_high fun absurd => nomatch absurd

/-- The image of a character has no image but itself. -/
theorem isLowered_of_image {run : CaseRun} (listed : run ∈ caseRuns) {c d : Char}
    (image : run.image? c = some d) : IsLowered d := by
  obtain ⟨⟨after, before, step⟩, rfl⟩ := CaseRun.image?_eq_some_iff.mp image
  have checked := List.all_eq_true.mp caseRuns_images run listed
  simp only [CaseRun.isChars, Bool.and_eq_true, Bool.or_eq_true, Nat.blt_eq, Nat.ble_eq] at checked
  obtain ⟨⟨notEmpty, valid⟩, avoided⟩ := checked
  have bounds : run.low ≤ (c.toNat + run.shift).toNat ∧
      (c.toNat + run.shift).toNat ≤ run.high := by
    simp only [CaseRun.low, CaseRun.high]
    omega
  have point : (Char.ofNat (c.toNat + run.shift).toNat).toNat = (c.toNat + run.shift).toNat := by
    have isValid : (c.toNat + run.shift).toNat.isValidChar := by
      rcases valid with below | above
      · exact .inl (by omega)
      · exact .inr (by omega)
    rw [Char.ofNat, dif_pos isValid]
    rfl
  apply not_holds_of_avoid avoided
  · rw [point]
    exact bounds.1
  · rw [point]
    exact bounds.2
  · intro alternate
    rw [point]
    simp only [CaseRun.alternates, Bool.or_eq_true, Nat.beq_eq] at alternate
    simp only [CaseRun.low] at notEmpty ⊢
    rcases alternate with every | single
    · rw [every] at step
      omega
    · omega

theorem isLowered_of_ascii {c : Char} (ascii : c.toNat < 0x80)
    (notUpper : ¬(65 ≤ c.toNat ∧ c.toNat ≤ 90)) : IsLowered c := by
  have before : avoid 0 64 false caseTable = true := by decide
  have after : avoid 91 127 false caseTable = true := by decide
  by_cases small : c.toNat ≤ 64
  · exact isLowered_of_avoid before (Nat.zero_le _) small
  · exact isLowered_of_avoid after (by omega) (by omega)

theorem lowerCaseChar_eq_self {c : Char} (lowered : IsLowered c) : lowerCaseChar c = [c] := by
  have listed : ∀ run ∈ caseRuns, run.image? c = none := fun run member =>
    CaseRun.image?_eq_none_iff.mpr (lowered run (List.mem_cons_of_mem _ member))
  rw [lowerCaseChar]
  split
  -- The table starts with the letters of ASCII.
  · have letter := lowered ⟨0x41, 0x5A, 1, 32⟩ (List.mem_cons_of_mem _ List.mem_cons_self)
    have notUpper : ¬(65 ≤ c.toNat ∧ c.toNat ≤ 90) := fun upper =>
      letter ⟨upper.1, upper.2, Nat.mod_one _⟩
    congr 1
    rw [eq_iff_toNat, toNat_toLower, if_neg notUpper]
  · split
    · rename_i dotted
      subst dotted
      exact absurd ⟨by decide, by decide, by decide⟩ (lowered _ List.mem_cons_self)
    · rw [List.findSome?_eq_none_iff.mpr listed]
      rfl

theorem isLowered_of_mem_lowerCaseChar {c d : Char} (member : d ∈ lowerCaseChar c) :
    IsLowered d := by
  rw [lowerCaseChar] at member
  split at member
  · rename_i ascii
    obtain rfl := List.mem_singleton.mp member
    have image := toNat_toLower c
    apply isLowered_of_ascii
    · split at image <;> omega
    · split at image <;> omega
  · split at member
    -- The capital I with a dot is the one character with two images.
    · have dot : avoid 0x307 0x307 false caseTable = true := by decide
      rcases List.mem_cons.mp member with rfl | second
      · exact isLowered_of_ascii (by decide) (by decide)
      · obtain rfl := List.mem_singleton.mp second
        exact isLowered_of_avoid dot (by decide) (by decide)
    · rename_i notDotted
      obtain rfl := List.mem_singleton.mp member
      cases found : caseRuns.findSome? (fun run => run.image? c) with
      | some image =>
          obtain ⟨run, listed, isImage⟩ := List.exists_of_findSome?_eq_some found
          exact isLowered_of_image listed isImage
      | none =>
          intro run member
          rcases List.mem_cons.mp member with rfl | listed
          · rintro ⟨after, before, _⟩
            apply notDotted
            rw [eq_iff_toNat]
            exact Nat.le_antisymm before after
          · exact CaseRun.image?_eq_none_iff.mp (List.findSome?_eq_none_iff.mp found run listed)

theorem isLowered_of_mem_lowerCaseAfter {before cs : List Char} {d : Char}
    (member : d ∈ lowerCaseAfter before cs) : IsLowered d := by
  have sigmas : avoid 0x3C2 0x3C3 false caseTable = true := by decide
  induction cs generalizing before with
  | nil => cases member
  | cons c rest ih =>
      rw [lowerCaseAfter] at member
      rcases List.mem_append.mp member with image | later
      · split at image
        · split at image
          · obtain rfl := List.mem_singleton.mp image
            exact isLowered_of_avoid sigmas (by decide) (by decide)
          · obtain rfl := List.mem_singleton.mp image
            exact isLowered_of_avoid sigmas (by decide) (by decide)
        · exact isLowered_of_mem_lowerCaseChar image
      · exact ih later

theorem lowerCaseAfter_eq_self {before cs : List Char} (lowered : ∀ c ∈ cs, IsLowered c) :
    lowerCaseAfter before cs = cs := by
  induction cs generalizing before with
  | nil => rfl
  | cons c rest ih =>
      have first := lowered c List.mem_cons_self
      have noSigma : c ≠ '\u03A3' := by
        rintro rfl
        exact absurd (lowerCaseChar_eq_self first) (by decide)
      rw [lowerCaseAfter, if_neg noSigma, lowerCaseChar_eq_self first,
        ih fun d member => lowered d (List.mem_cons_of_mem c member)]
      rfl

theorem lowerCase_lowerCase (s : String) : lowerCase (lowerCase s) = lowerCase s := by
  have lowered : ∀ c ∈ lowerCaseAfter [] s.toList, IsLowered c := fun c member =>
    isLowered_of_mem_lowerCaseAfter member
  rw [lowerCase, lowerCase, String.toList_ofList, lowerCaseAfter_eq_self lowered]

end ContentPolicy.Text
