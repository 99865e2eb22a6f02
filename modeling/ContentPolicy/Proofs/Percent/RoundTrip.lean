import ContentPolicy.Proofs.Text.Characters

/-!
Written paths: which characters they hold, and that resolving their escapes gives the path back.
-/

namespace ContentPolicy.Percent

theorem hexDigit_cases {value : Nat} (small : value < 16) :
    isPlain (hexDigit value) = true ∧ Text.hexValue? (hexDigit value) = some value := by
  have all : ∀ v : Fin 16, isPlain (hexDigit v.val) = true ∧
      Text.hexValue? (hexDigit v.val) = some v.val := by decide
  exact all ⟨value, small⟩

theorem byte?_hexDigits (byte : UInt8) :
    byte? (hexDigit (byte.toNat / 16)) (hexDigit (byte.toNat % 16)) = some byte := by
  have bound : byte.toNat < 256 := byte.toNat_lt
  have high := (hexDigit_cases (show byte.toNat / 16 < 16 by omega)).2
  have low := (hexDigit_cases (show byte.toNat % 16 < 16 by omega)).2
  have whole : 16 * (byte.toNat / 16) + byte.toNat % 16 = byte.toNat := Nat.div_add_mod _ _
  rw [byte?, high, low]
  change some (UInt8.ofNat (16 * (byte.toNat / 16) + byte.toNat % 16)) = some byte
  rw [whole, UInt8.ofNat_toNat]

theorem unescape_escapeByte (byte : UInt8) (rest : List Char) :
    unescape (escapeByte byte ++ rest) = byte :: unescape rest := by
  simp [escapeByte, unescape, byte?_hexDigits]

theorem unescape_escapedBytes (bytes : List UInt8) (rest : List Char) :
    unescape (bytes.flatMap escapeByte ++ rest) = bytes ++ unescape rest := by
  induction bytes with
  | nil => rfl
  | cons byte bytes ih =>
      rw [List.flatMap_cons, List.append_assoc, unescape_escapeByte, ih, List.cons_append]

theorem unescape_cons {c : Char} (unescaped : c ≠ '%') (rest : List Char) :
    unescape (c :: rest) = String.utf8EncodeChar c ++ unescape rest := by
  rw [unescape]
  intro _ _ _ sign
  exact absurd sign unescaped

theorem isPlain_ne_percent {c : Char} (plain : isPlain c = true) : c ≠ '%' := by
  rintro rfl
  exact absurd plain (by decide)

theorem unescape_escapeChar (c : Char) (rest : List Char) :
    unescape (escapeChar c ++ rest) = String.utf8EncodeChar c ++ unescape rest := by
  by_cases plain : isPlain c = true
  · rw [escapeChar, if_pos plain, List.singleton_append, unescape_cons (isPlain_ne_percent plain)]
  · rw [escapeChar, if_neg plain, unescape_escapedBytes]

theorem unescape_encodePath (path : List Char) :
    unescape (encodePath path) = path.flatMap String.utf8EncodeChar := by
  induction path with
  | nil => rfl
  | cons c path ih =>
      rw [encodePath, List.flatMap_cons, unescape_escapeChar, List.flatMap_cons]
      exact congrArg (String.utf8EncodeChar c ++ ·) ih

theorem fromUTF8?_flatMap (cs : List Char) :
    String.fromUTF8? (cs.flatMap String.utf8EncodeChar).toByteArray = some (String.ofList cs) := by
  have valid : (cs.flatMap String.utf8EncodeChar).toByteArray.IsValidUTF8 := ⟨cs, rfl⟩
  rw [String.fromUTF8?, dif_pos valid]
  exact congrArg some (String.toByteArray_inj.mp rfl)

theorem decode_eq_some_iff {text decoded : String} :
    decode text = some decoded ↔
      decoded.toList.flatMap String.utf8EncodeChar = unescape text.toList := by
  constructor
  · intro found
    rw [decode, String.fromUTF8?] at found
    split at found
    · cases found
      exact List.toByteArray_inj.mp String.utf8Encode_toList
    · cases found
  · intro bytes
    rw [decode, ← bytes, fromUTF8?_flatMap, String.ofList_toList]

theorem decode_encodePath (path : String) :
    decode (String.ofList (encodePath path.toList)) = some path := by
  rw [decode_eq_some_iff, String.toList_ofList, unescape_encodePath]

theorem mem_encodePath {path : List Char} {c : Char} (member : c ∈ encodePath path) :
    isPlain c = true ∨ c = '%' := by
  obtain ⟨d, _, inside⟩ := List.mem_flatMap.mp member
  by_cases plain : isPlain d = true
  · rw [escapeChar, if_pos plain, List.mem_singleton] at inside
    exact .inl (inside ▸ plain)
  · rw [escapeChar, if_neg plain] at inside
    obtain ⟨byte, _, digit⟩ := List.mem_flatMap.mp inside
    have bound : byte.toNat < 256 := byte.toNat_lt
    simp only [escapeByte, List.mem_cons, List.not_mem_nil, or_false] at digit
    rcases digit with sign | high | low
    · exact .inr sign
    · exact .inl (high ▸ (hexDigit_cases (by omega)).1)
    · exact .inl (low ▸ (hexDigit_cases (by omega)).1)

theorem encodePath_clear {path : List Char} {c : Char} (member : c ∈ encodePath path) :
    Text.isBlank c = false ∧ c ≠ ';' ∧ c ≠ ':' ∧ c ≠ '?' ∧ c ≠ '#' := by
  have bounds := mem_encodePath member
  simp only [Text.isPlain_iff, Text.isAlphanum_iff, Text.eq_iff_toNat] at bounds
  refine ⟨Text.not_blank_of_printable ?_ ?_, ?_⟩
  · have : '%'.toNat = 37 := rfl
    omega
  · have : '%'.toNat = 37 := rfl
    omega
  · simp only [ne_eq, Text.eq_iff_toNat]
    have : '%'.toNat = 37 := rfl
    have : ';'.toNat = 59 ∧ ':'.toNat = 58 ∧ '?'.toNat = 63 ∧ '#'.toNat = 35 := by decide
    omega

/-- A byte below 0x80 is an ASCII character, since all bytes of a longer form are above. -/
theorem toNat_of_mem_utf8EncodeChar {c : Char} {byte : UInt8}
    (member : byte ∈ String.utf8EncodeChar c) (ascii : byte.toNat < 128) :
    byte.toNat = c.toNat := by
  change byte.toNat = c.val.toNat
  rw [String.utf8EncodeChar] at member
  split at member
  · obtain rfl := List.mem_singleton.mp member
    rw [UInt8.toNat_ofNat']
    omega
  · split at member
    · simp only [List.mem_cons, List.not_mem_nil, or_false] at member
      rcases member with rfl | rfl <;> rw [UInt8.toNat_ofNat'] at ascii <;> omega
    · split at member
      · simp only [List.mem_cons, List.not_mem_nil, or_false] at member
        rcases member with rfl | rfl | rfl <;> rw [UInt8.toNat_ofNat'] at ascii <;> omega
      · simp only [List.mem_cons, List.not_mem_nil, or_false] at member
        rcases member with rfl | rfl | rfl | rfl <;> rw [UInt8.toNat_ofNat'] at ascii <;> omega

theorem encodePath_slash (path : List Char) :
    encodePath ('/' :: path) = '/' :: encodePath path := rfl

theorem encodePath_rooted {path : String} (rooted : ∀ c ∈ path.toList.head?, c = '/') :
    ∀ c ∈ (encodePath path.toList).head?, c = '/' := by
  intro c first
  cases written : path.toList with
  | nil =>
      rw [written] at first
      cases first
  | cons d rest =>
      rw [written] at first rooted
      obtain rfl : d = '/' := rooted d rfl
      rw [encodePath_slash] at first
      cases first
      rfl

end ContentPolicy.Percent
