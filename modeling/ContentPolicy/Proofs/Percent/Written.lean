import ContentPolicy.Proofs.Percent.RoundTrip

/-!
The language of written paths: unescaped characters, and escapes with their digits in upper case.
Every path is written in it, and the escapes resolve to the path again.
-/

namespace ContentPolicy.Percent

def IsUnescaped (c : Char) : Prop :=
  ('A' ≤ c ∧ c ≤ 'Z') ∨ ('a' ≤ c ∧ c ≤ 'z') ∨ ('0' ≤ c ∧ c ≤ '9') ∨ c ∈ ['_', '.', '-', '~', '/']

def IsUpperHexDigit (c : Char) : Prop := ('0' ≤ c ∧ c ≤ '9') ∨ ('A' ≤ c ∧ c ≤ 'F')

inductive IsWritten : List Char → Prop where
  | nil : IsWritten []
  | unescaped {c : Char} {rest : List Char} :
      IsUnescaped c → IsWritten rest → IsWritten (c :: rest)
  | escape {high low : Char} {rest : List Char} :
      IsUpperHexDigit high → IsUpperHexDigit low → IsWritten rest →
        IsWritten ('%' :: high :: low :: rest)

theorem isUnescaped_of_isPlain {c : Char} (plain : isPlain c = true) : IsUnescaped c := by
  rw [Text.isPlain_iff, Text.isAlphanum_iff] at plain
  simp only [IsUnescaped, Char.le_def, UInt32.le_iff_toNat_le, List.mem_cons, List.not_mem_nil,
    or_false, Text.eq_iff_toNat]
  change (65 ≤ c.toNat ∧ c.toNat ≤ 90) ∨ (97 ≤ c.toNat ∧ c.toNat ≤ 122) ∨
    (48 ≤ c.toNat ∧ c.toNat ≤ 57) ∨ c.toNat = 95 ∨ c.toNat = 46 ∨ c.toNat = 45 ∨ c.toNat = 126 ∨
      c.toNat = 47
  omega

theorem isUpperHexDigit_hexDigit {value : Nat} (small : value < 16) :
    IsUpperHexDigit (hexDigit value) := by
  have all : ∀ v : Fin 16, ('0' ≤ hexDigit v.val ∧ hexDigit v.val ≤ '9') ∨
      ('A' ≤ hexDigit v.val ∧ hexDigit v.val ≤ 'F') := by decide
  exact all ⟨value, small⟩

namespace IsWritten

variable {rest : List Char}

theorem escapeByte_append (byte : UInt8) (later : IsWritten rest) :
    IsWritten (escapeByte byte ++ rest) := by
  have bound : byte.toNat < 256 := byte.toNat_lt
  exact escape (isUpperHexDigit_hexDigit (by omega)) (isUpperHexDigit_hexDigit (by omega)) later

theorem escapeBytes_append (bytes : List UInt8) (later : IsWritten rest) :
    IsWritten (bytes.flatMap escapeByte ++ rest) := by
  induction bytes with
  | nil => exact later
  | cons byte bytes ih =>
      rw [List.flatMap_cons, List.append_assoc]
      exact escapeByte_append byte ih

theorem escapeChar_append (c : Char) (later : IsWritten rest) :
    IsWritten (escapeChar c ++ rest) := by
  by_cases plain : isPlain c = true
  · rw [escapeChar, if_pos plain]
    exact unescaped (isUnescaped_of_isPlain plain) later
  · rw [escapeChar, if_neg plain]
    exact escapeBytes_append _ later

theorem encodePath (path : List Char) : IsWritten (Percent.encodePath path) := by
  induction path with
  | nil => exact nil
  | cons c path ih => exact escapeChar_append c ih

end IsWritten

/-- Every text is written as a path, percent signs and characters beyond ASCII as escapes, and comes
back when the escapes are resolved. -/
theorem isWritten_encode_and_decode_encode (path : String) :
    IsWritten (encode path).toList ∧ decode (encode path) = some path := by
  refine ⟨?_, decode_encodePath path⟩
  rw [encode, String.toList_ofList]
  exact IsWritten.encodePath path.toList

example : encode "/50% ’" = "/50%25%20%E2%80%99" := by decide

end ContentPolicy.Percent
