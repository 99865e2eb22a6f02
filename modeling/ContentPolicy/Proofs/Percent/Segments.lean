import ContentPolicy.Proofs.Percent.RoundTrip

/-!
Resolving the escapes of a path segment by segment. An escape does not reach beyond a slash, which
is no hexadecimal digit, and neither does the UTF-8 form of a character, of which a slash is a byte
only if it is all of it. So what stands before a slash and what stands behind it are resolved each
on its own.
-/

namespace ContentPolicy.Percent

theorem byte?_eq_none {high low : Char}
    (noDigit : Text.hexValue? high = none ∨ Text.hexValue? low = none) : byte? high low = none := by
  rw [byte?]
  rcases noDigit with absent | absent
  · rw [absent]
    rfl
  · rw [absent]
    cases Text.hexValue? high <;> rfl

section Cut

variable {rest : List Char}

theorem unescape_sign (cut : ∀ c ∈ rest.head?, Text.hexValue? c = none) :
    unescape ('%' :: rest) = String.utf8EncodeChar '%' ++ unescape rest := by
  rcases rest with _ | ⟨high, _ | ⟨low, rest⟩⟩
  · rfl
  · rfl
  · rw [unescape, byte?_eq_none (.inl (cut high rfl))]

theorem unescape_sign_digit (cut : ∀ c ∈ rest.head?, Text.hexValue? c = none) (high : Char) :
    unescape ('%' :: high :: rest) = String.utf8EncodeChar '%' ++ unescape (high :: rest) := by
  cases rest with
  | nil => rfl
  | cons low rest => rw [unescape, byte?_eq_none (.inr (cut low rfl))]

/-- No escape reaches into a text that does not start with a hexadecimal digit. -/
theorem unescape_append (cut : ∀ c ∈ rest.head?, Text.hexValue? c = none) (before : List Char) :
    unescape (before ++ rest) = unescape before ++ unescape rest := by
  fun_induction unescape before with
  | case1 => rfl
  | case2 high low more byte escaped ih =>
      simp only [List.cons_append, unescape, escaped, ih]
  | case3 high low more broken ih =>
      simp only [List.cons_append, unescape, broken] at ih ⊢
      rw [ih, List.append_assoc]
  | case4 c more unescaped ih =>
      rw [List.cons_append, List.append_assoc, ← ih]
      by_cases sign : c = '%'
      -- The cut comes before the escape is complete.
      · subst sign
        rcases more with _ | ⟨high, _ | ⟨low, more⟩⟩
        · exact unescape_sign cut
        · exact unescape_sign_digit cut high
        · exact (unescaped high low more rfl rfl).elim
      · exact unescape_cons sign _

end Cut

theorem unescape_slash (before after : List Char) :
    unescape (before ++ '/' :: after) = unescape before ++ 0x2F :: unescape after := by
  have cut : ∀ c ∈ ('/' :: after).head?, Text.hexValue? c = none := by
    rintro _ ⟨⟩
    decide
  rw [unescape_append cut, unescape_cons (by decide)]
  rfl

theorem eq_slash_of_mem {c : Char} (member : 0x2F ∈ String.utf8EncodeChar c) : c = '/' :=
  (Text.eq_iff_toNat c '/').mpr (toNat_of_mem_utf8EncodeChar member (by decide)).symm

theorem flatMap_utf8_eq_nil {cs : List Char} (nothing : cs.flatMap String.utf8EncodeChar = []) :
    cs = [] := by
  cases cs with
  | nil => rfl
  | cons c cs =>
      rw [List.flatMap_cons, List.append_eq_nil_iff] at nothing
      exact absurd nothing.1 String.utf8EncodeChar_ne_nil

theorem append_of_not_mem {mark : UInt8} {first rest front back : List UInt8}
    (absent : mark ∉ first) (whole : first ++ rest = front ++ mark :: back) :
    ∃ later, front = first ++ later ∧ rest = later ++ mark :: back := by
  rcases List.append_eq_append_iff.mp whole with found | ⟨bytes, same, ends⟩
  · exact found
  · cases bytes with
    | nil => exact ⟨[], by simpa using same.symm, ends.symm⟩
    | cons byte bytes =>
        obtain ⟨rfl, _⟩ := List.cons.inj ends
        rw [same] at absent
        exact absurd (List.mem_append_right front List.mem_cons_self) absent

/-- Where the UTF-8 form of a text holds a slash, the text does. -/
theorem flatMap_utf8_slash {cs : List Char} {front back : List UInt8}
    (whole : cs.flatMap String.utf8EncodeChar = front ++ 0x2F :: back) :
    ∃ before after, cs = before ++ '/' :: after ∧
      before.flatMap String.utf8EncodeChar = front ∧
      after.flatMap String.utf8EncodeChar = back := by
  induction cs generalizing front with
  | nil => exact absurd whole (by simp)
  | cons c cs ih =>
      by_cases slash : c = '/'
      · subst slash
        change 0x2F :: cs.flatMap String.utf8EncodeChar = front ++ 0x2F :: back at whole
        cases front with
        | nil => exact ⟨[], cs, rfl, rfl, (List.cons.inj whole).2⟩
        | cons byte front =>
            obtain ⟨rfl, later⟩ := List.cons.inj whole
            obtain ⟨before, after, rfl, rfl, rfl⟩ := ih later
            exact ⟨'/' :: before, after, rfl, rfl, rfl⟩
      -- The bytes of any other character stand before the slash.
      · obtain ⟨front, rfl, later⟩ := append_of_not_mem (mt eq_slash_of_mem slash) whole
        obtain ⟨before, after, rfl, rfl, rfl⟩ := ih later
        exact ⟨c :: before, after, rfl, rfl, rfl⟩

theorem decode_rooted {path : List Char} {text : String}
    (decoded : decode (String.ofList path) = some text) (rooted : ∀ c ∈ path.head?, c = '/') :
    ∀ c ∈ text.toList.head?, c = '/' := by
  rw [decode_eq_some_iff, String.toList_ofList] at decoded
  intro c first
  cases path with
  | nil =>
      rw [flatMap_utf8_eq_nil decoded] at first
      cases first
  | cons d path =>
      obtain rfl : d = '/' := rooted d rfl
      obtain ⟨before, after, whole, nothing, _⟩ :=
        flatMap_utf8_slash (decoded.trans (unescape_slash [] path))
      rw [whole, flatMap_utf8_eq_nil nothing] at first
      exact (Option.some.inj first).symm

/-- The segments on the two sides of a slash are resolved each on its own, and the path is one if
both are. -/
theorem decode_slash (before after : String) :
    decode (before ++ "/" ++ after) = do
      let front ← decode before
      let back ← decode after
      return front ++ "/" ++ back := by
  have bytes : unescape (before ++ "/" ++ after).toList =
      unescape before.toList ++ 0x2F :: unescape after.toList := by
    rw [String.toList_append, String.toList_append, List.append_assoc]
    exact unescape_slash before.toList after.toList
  ext text
  rw [decode_eq_some_iff, bytes]
  simp only [bind, pure, Option.bind_eq_some_iff, decode_eq_some_iff, Option.some.injEq]
  constructor
  · intro whole
    obtain ⟨front, back, written, isFront, isBack⟩ := flatMap_utf8_slash whole
    refine ⟨String.ofList front, ?_, String.ofList back, ?_, ?_⟩
    · rw [String.toList_ofList, isFront]
    · rw [String.toList_ofList, isBack]
    · simp [← String.toList_inj, written]
  · rintro ⟨front, isFront, back, isBack, rfl⟩
    rw [String.toList_append, String.toList_append, List.append_assoc, List.flatMap_append, isFront]
    exact congrArg (fun bytes => unescape before.toList ++ 0x2F :: bytes) isBack

example : decode "%C3%A9" = some "é" ∧ decode "%C3/%A9" = none := by decide

end ContentPolicy.Percent
