import ContentPolicy.Text.Characters
import ContentPolicy.Uri.Authority
import ContentPolicy.Uri.Parts
import ContentPolicy.Percent

/-!
Which characters the classes of names, schemes, digits and written paths hold, as bounds on code
points. Nothing in these classes is blank or a delimiter, and lower-casing leads into no class and
out of none.
-/

namespace ContentPolicy.Text

theorem eq_iff_toNat (c d : Char) : c = d ↔ c.toNat = d.toNat := Char.toNat_inj.symm

theorem isUpper_iff (c : Char) : c.isUpper = true ↔ 65 ≤ c.toNat ∧ c.toNat ≤ 90 := by
  change decide (c.val ≥ 'A'.val ∧ c.val ≤ 'Z'.val) = true ↔ _
  simp [UInt32.le_iff_toNat_le]

theorem isLower_iff (c : Char) : c.isLower = true ↔ 97 ≤ c.toNat ∧ c.toNat ≤ 122 := by
  change (decide (c.val ≥ 'a'.val) && decide (c.val ≤ 'z'.val)) = true ↔ _
  simp [UInt32.le_iff_toNat_le]

theorem isDigit_iff (c : Char) : c.isDigit = true ↔ 48 ≤ c.toNat ∧ c.toNat ≤ 57 := by
  change (decide (c.val ≥ '0'.val) && decide (c.val ≤ '9'.val)) = true ↔ _
  simp [UInt32.le_iff_toNat_le]

theorem isAlphanum_iff (c : Char) :
    c.isAlphanum = true ↔
      (65 ≤ c.toNat ∧ c.toNat ≤ 90) ∨ (97 ≤ c.toNat ∧ c.toNat ≤ 122) ∨
        (48 ≤ c.toNat ∧ c.toNat ≤ 57) := by
  change ((c.isUpper || c.isLower) || c.isDigit) = true ↔ _
  rw [Bool.or_eq_true, Bool.or_eq_true, isUpper_iff, isLower_iff, isDigit_iff, or_assoc]

theorem toNat_toLower (c : Char) :
    c.toLower.toNat = if 65 ≤ c.toNat ∧ c.toNat ≤ 90 then c.toNat + 32 else c.toNat := by
  unfold Char.toLower
  by_cases upper : 65 ≤ c.toNat ∧ c.toNat ≤ 90
  · have : c.val ≥ 'A'.val ∧ c.val ≤ 'Z'.val := by
      simpa [UInt32.le_iff_toNat_le] using upper
    rw [dif_pos this, if_pos upper]
    change (c.val + 32).toNat = c.val.toNat + 32
    rw [UInt32.toNat_add]
    have : c.val.toNat ≤ 90 := upper.2
    change (c.val.toNat + 32) % 4294967296 = c.val.toNat + 32
    omega
  · have : ¬(c.val ≥ 'A'.val ∧ c.val ≤ 'Z'.val) := by
      simpa [UInt32.le_iff_toNat_le] using upper
    rw [dif_neg this, if_neg upper]

theorem toNat_toUpper (c : Char) :
    c.toUpper.toNat = if 97 ≤ c.toNat ∧ c.toNat ≤ 122 then c.toNat - 32 else c.toNat := by
  unfold Char.toUpper
  by_cases lower : 97 ≤ c.toNat ∧ c.toNat ≤ 122
  · have : c.val ≥ 'a'.val ∧ c.val ≤ 'z'.val := by
      simpa [UInt32.le_iff_toNat_le] using lower
    rw [dif_pos this, if_pos lower]
    change (c.val + ('A'.val - 'a'.val)).toNat = c.val.toNat - 32
    rw [UInt32.toNat_add]
    have : 97 ≤ c.val.toNat ∧ c.val.toNat ≤ 122 := lower
    change (c.val.toNat + 4294967264) % 4294967296 = c.val.toNat - 32
    omega
  · have : ¬(c.val ≥ 'a'.val ∧ c.val ≤ 'z'.val) := by
      simpa [UInt32.le_iff_toNat_le] using lower
    rw [dif_neg this, if_neg lower]

theorem isBlank_iff (c : Char) :
    isBlank c = true ↔
      (0x09 ≤ c.toNat ∧ c.toNat ≤ 0x0D) ∨ c.toNat = 0x20 ∨ c.toNat = 0x85 ∨ c.toNat = 0xA0 ∨
        c.toNat = 0x1680 ∨ (0x2000 ≤ c.toNat ∧ c.toNat ≤ 0x200A) ∨
        (0x2028 ≤ c.toNat ∧ c.toNat ≤ 0x2029) ∨ c.toNat = 0x202F ∨ c.toNat = 0x205F ∨
        c.toNat = 0x3000 := by
  simp [isBlank, Ranges.holds, blankRanges]
  omega

theorem not_blank_of_printable {c : Char} (low : 0x21 ≤ c.toNat) (high : c.toNat ≤ 0x7E) :
    isBlank c = false := by
  rw [Bool.eq_false_iff, ne_eq, isBlank_iff]
  omega

theorem isNameChar_iff (c : Char) :
    Authority.isNameChar c = true ↔
      c.isAlphanum = true ∨ c.toNat = 0x17F ∨ c.toNat = 0x212A ∨ c.toNat = 46 ∨ c.toNat = 95 ∨
        c.toNat = 45 := by
  simp [Authority.isNameChar, Authority.isCaseVariant, eq_iff_toNat, or_assoc]

theorem isSchemeChar_iff (c : Char) :
    UriParts.isSchemeChar c = true ↔
      c.isAlphanum = true ∨ c.toNat = 43 ∨ c.toNat = 45 ∨ c.toNat = 46 := by
  simp [UriParts.isSchemeChar, eq_iff_toNat, or_assoc]

theorem isSchemeChar_clear {c : Char} (holds : UriParts.isSchemeChar c = true) :
    isBlank c = false ∧ c ≠ ';' ∧ c ≠ '\'' ∧ c ≠ '*' := by
  rw [isSchemeChar_iff, isAlphanum_iff] at holds
  have : ';'.toNat = 59 ∧ '\''.toNat = 39 ∧ '*'.toNat = 42 := by decide
  refine ⟨not_blank_of_printable (by omega) (by omega), ?_⟩
  simp only [ne_eq, eq_iff_toNat]
  omega

theorem isPlain_iff (c : Char) :
    Percent.isPlain c = true ↔
      c.isAlphanum = true ∨ c.toNat = 95 ∨ c.toNat = 46 ∨ c.toNat = 45 ∨ c.toNat = 126 ∨
        c.toNat = 47 := by
  simp [Percent.isPlain, eq_iff_toNat, or_assoc]

@[simp] theorem isNameChar_toLower (c : Char) :
    Authority.isNameChar c.toLower = Authority.isNameChar c := by
  rw [Bool.eq_iff_iff, isNameChar_iff, isNameChar_iff, isAlphanum_iff, isAlphanum_iff,
    toNat_toLower]
  split <;> omega

@[simp] theorem isSchemeChar_toLower (c : Char) :
    UriParts.isSchemeChar c.toLower = UriParts.isSchemeChar c := by
  rw [Bool.eq_iff_iff, isSchemeChar_iff, isSchemeChar_iff, isAlphanum_iff, isAlphanum_iff,
    toNat_toLower]
  split <;> omega

@[simp] theorem isBlank_toLower (c : Char) : isBlank c.toLower = isBlank c := by
  rw [Bool.eq_iff_iff, isBlank_iff, isBlank_iff, toNat_toLower]
  split <;> omega

@[simp] theorem toLower_toLower (c : Char) : c.toLower.toLower = c.toLower := by
  have image := toNat_toLower c
  rw [eq_iff_toNat, toNat_toLower c.toLower, if_neg]
  split at image <;> omega

theorem toLower_eq_toLower_iff (c d : Char) :
    c.toLower = d.toLower ↔ d = c ∨ d = c.toUpper ∨ d = c.toLower := by
  rw [eq_iff_toNat, eq_iff_toNat, eq_iff_toNat, eq_iff_toNat, toNat_toLower, toNat_toLower,
    toNat_toUpper]
  split <;> split <;> split <;> omega

theorem toLower_eq_iff {c d : Char} (caseless : d.isAlphanum = false ∨ d.isDigit = true) :
    c.toLower = d ↔ c = d := by
  rw [Bool.eq_false_iff, ne_eq, isAlphanum_iff, isDigit_iff] at caseless
  rw [eq_iff_toNat, eq_iff_toNat, toNat_toLower]
  split <;> omega

theorem lower_lower (cs : List Char) : lower (lower cs) = lower cs := by
  simp [lower]

@[simp] theorem toLower_idempotent (s : String) : s.toLower.toLower = s.toLower :=
  String.toList_inj.mp (by rw [toList_toLower, toList_toLower, lower_lower])

theorem toLower_eq_empty_iff {s : String} : s.toLower = "" ↔ s = "" := by
  rw [← String.toList_eq_nil_iff, toList_toLower, lower, List.map_eq_nil_iff,
    String.toList_eq_nil_iff]

theorem all_lower {p : Char → Bool} (closed : ∀ c, p c.toLower = p c) (cs : List Char) :
    (lower cs).all p = cs.all p := by
  simp [lower, List.all_map, Function.comp_def, closed]

theorem lower_eq_self_iff (cs : List Char) : lower cs = cs ↔ ∀ c ∈ cs, c.toLower = c := by
  induction cs with
  | nil => simp [lower]
  | cons c cs ih =>
      simp only [lower, List.map_cons, List.cons.injEq, List.forall_mem_cons] at *
      rw [ih]

theorem lower_eq_iff {cs target : List Char} (caseless : ∀ c ∈ target, c.isAlphanum = false) :
    lower cs = target ↔ cs = target := by
  induction target generalizing cs with
  | nil => simp [lower]
  | cons d target ih =>
      cases cs with
      | nil => simp [lower]
      | cons c cs =>
          have first := toLower_eq_iff (c := c) (.inl (caseless d List.mem_cons_self))
          have later : lower cs = target ↔ cs = target :=
            ih fun x member => caseless x (List.mem_cons_of_mem d member)
          simp only [lower, List.map_cons, List.cons.injEq] at *
          rw [first, later]

end ContentPolicy.Text
