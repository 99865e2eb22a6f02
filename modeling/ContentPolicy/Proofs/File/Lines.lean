import ContentPolicy.Lines
import ContentPolicy.Proofs.Percent.RoundTrip
import ContentPolicy.Proofs.Text.Pieces

/-!
Reading files that hold text. No byte of another character is a line feed, so cutting the bytes into
lines is cutting the text; what is read are the lines of the text that are not blank, trimmed. So
values come back from a file exactly when each of them is a line.
-/

namespace ContentPolicy

open Text

namespace Text

/-- A text that is one line and that trimming leaves as it is. -/
structure IsLine (cs : List Char) : Prop where
  notEmpty : cs ≠ []
  first : ∀ c ∈ cs.head?, isBlank c = false
  last : ∀ c ∈ cs.getLast?, isBlank c = false
  unbroken : '\n' ∉ cs

namespace IsLine

variable {cs : List Char}

theorem trim_eq (line : IsLine cs) : trim cs = cs := trim_eq_self line.first line.last

theorem not_blank (line : IsLine cs) : isBlankText cs = false := by
  rw [← isEmpty_trim, line.trim_eq]
  exact List.isEmpty_eq_false_iff.mpr line.notEmpty

theorem of_trim (visible : isBlankText cs = false) (unbroken : '\n' ∉ cs) : IsLine (trim cs) where
  notEmpty := by
    rw [← isEmpty_trim] at visible
    exact List.isEmpty_eq_false_iff.mp visible
  first := by
    intro c first
    have start := List.head?_dropWhile_not isBlank cs
    rw [head?_rdropWhile first] at start
    exact start
  last := by
    intro c last
    obtain ⟨notEmpty, rfl⟩ := List.mem_getLast?_eq_getLast last
    exact Bool.eq_false_iff.mpr (List.rdropWhile_last_not isBlank _ notEmpty)
  unbroken inside := unbroken (mem_of_mem_trim inside)

end IsLine

end Text

namespace Lines

def encode (text : List Char) : List UInt8 := text.flatMap String.utf8EncodeChar

def nonBlank (text : List Char) : List (List Char) :=
  (text.splitOn '\n').filter fun line => !isBlankText line

def trimmed (line : List Char) : String := String.ofList (trim line)

def entries (text : List Char) : List String := (nonBlank text).map trimmed

theorem lineFeed_not_mem {c : Char} (other : c ≠ '\n') : lineFeed ∉ String.utf8EncodeChar c := by
  intro inside
  have same := Percent.toNat_of_mem_utf8EncodeChar inside (by decide)
  exact other ((Text.eq_iff_toNat c '\n').mpr same.symm)

theorem splitOn_append {bytes : List UInt8} (clear : lineFeed ∉ bytes) (rest : List UInt8) :
    (bytes ++ rest).splitOn lineFeed = (rest.splitOn lineFeed).modifyHead (bytes ++ ·) := by
  induction bytes with
  | nil =>
      rw [List.nil_append]
      cases rest.splitOn lineFeed with
      | nil => rfl
      | cons first later => rfl
  | cons byte bytes ih =>
      simp only [List.mem_cons, not_or] at clear
      have other : (byte == lineFeed) = false := beq_eq_false_iff_ne.mpr (Ne.symm clear.1)
      rw [List.cons_append, List.splitOn_cons_eq_if_modifyHead, other, ih clear.2,
        List.modifyHead_modifyHead]
      rfl

theorem encode_cons (c : Char) (text : List Char) :
    encode (c :: text) = String.utf8EncodeChar c ++ encode text := rfl

theorem encode_eq_nil {text : List Char} (empty : encode text = []) : text = [] := by
  cases text with
  | nil => rfl
  | cons c text => exact absurd (List.append_eq_nil_iff.mp empty).1 String.utf8EncodeChar_ne_nil

theorem splitOn_encode (text : List Char) :
    (encode text).splitOn lineFeed = (text.splitOn '\n').map encode := by
  induction text with
  | nil => rfl
  | cons c text ih =>
      rw [encode_cons, List.splitOn_cons_eq_if_modifyHead]
      by_cases feed : c = '\n'
      · subst feed
        have bytes : String.utf8EncodeChar '\n' = [lineFeed] := by decide
        rw [bytes, List.singleton_append, List.splitOn_cons_eq_if_modifyHead, ih]
        rfl
      · rw [splitOn_append (lineFeed_not_mem feed), ih, if_neg (by simpa using feed)]
        cases text.splitOn '\n' with
        | nil => rfl
        | cons first later => rfl

theorem readPieces_encode (number : Nat) (pieces : List (List Char)) :
    readPieces number (pieces.map encode) =
      ⟨(pieces.filter fun line => !isBlankText line).map trimmed, none⟩ := by
  induction pieces generalizing number with
  | nil => rfl
  | cons piece pieces ih =>
      rw [List.map_cons, readPieces, encode, Percent.fromUTF8?_flatMap]
      simp only [String.toList_ofList, isEmpty_trim, ih]
      cases blank : isBlankText piece with
      | true => simp [blank]
      | false => simp [blank, trimmed]

/-- Reading the bytes of a text gives its lines that are not blank, and stops nowhere. -/
theorem read_encode (text : List Char) : read (encode text) = ⟨entries text, none⟩ := by
  rw [read, split, splitOn_encode]
  split
  -- The last piece is dropped when it is empty, and an empty piece is no line.
  · rename_i closed
    rw [List.getLast?_map] at closed
    obtain ⟨last, ending, empty⟩ := Option.map_eq_some_iff.mp closed
    obtain rfl := encode_eq_nil empty
    obtain ⟨lines, whole⟩ := List.getLast?_eq_some_iff.mp ending
    rw [← List.map_dropLast, readPieces_encode, entries, nonBlank, whole, List.dropLast_concat,
      List.filter_append]
    simp [isBlankText]
  · exact readPieces_encode 1 _

theorem entries_append (front rest : List Char) :
    entries (front ++ '\n' :: rest) = entries front ++ entries rest := by
  rw [entries, nonBlank, List.splitOn_append_cons_self, List.filter_append, List.map_append]
  rfl

theorem entries_of_isLine {line : List Char} (isLine : IsLine line) :
    entries line = [String.ofList line] := by
  rw [entries, nonBlank, List.splitOn_eq_singleton isLine.unbroken]
  simp [isLine.not_blank, trimmed, isLine.trim_eq]

theorem isLine_of_mem_entries {text : List Char} {entry : String} (member : entry ∈ entries text) :
    IsLine entry.toList := by
  obtain ⟨line, inside, rfl⟩ := List.mem_map.mp member
  obtain ⟨piece, visible⟩ := List.mem_filter.mp inside
  rw [trimmed, String.toList_ofList]
  exact .of_trim (by simpa using visible) fun feed => Text.ne_of_mem_splitOn piece _ feed rfl

theorem write_eq_encode (values : List String) :
    write values = encode (values.flatMap fun v => v.toList ++ ['\n']) := by
  rw [write, encode, List.flatMap_assoc]
  simp only [List.flatMap_append]
  rfl

theorem entries_written (values : List String) :
    entries (values.flatMap fun v => v.toList ++ ['\n']) =
      values.flatMap fun v => entries v.toList := by
  induction values with
  | nil => rfl
  | cons v values ih =>
      rw [List.flatMap_cons, List.append_assoc, List.singleton_append, entries_append, ih]
      rfl

/-- Values that are written come back, none of them split, trimmed or skipped, exactly when each is
a line. -/
theorem read_write_iff (values : List String) :
    read (write values) = ⟨values, none⟩ ↔ ∀ v ∈ values, IsLine v.toList := by
  rw [write_eq_encode, read_encode, entries_written, Reading.mk.injEq, and_iff_left rfl]
  constructor
  · intro same v member
    rw [← same] at member
    obtain ⟨_, _, entry⟩ := List.mem_flatMap.mp member
    exact isLine_of_mem_entries entry
  · intro lines
    have single : ∀ v ∈ values, entries v.toList = [v] := by
      intro v member
      rw [entries_of_isLine (lines v member), String.ofList_toList]
    rw [List.flatMap_congr single, List.flatMap_singleton']

end Lines

namespace Loading

variable {α : Type} {parse? : String → Option α}

/-- What has been loaded once some lines are read: each of them is a value or was skipped. -/
structure Covers (parse? : String → Option α) (l : Loading α) (lines : List String) : Prop where
  values : l.values = lines.filterMap parse?
  unparsable : l.unparsable = lines.filter fun line => (parse? line).isNone
  skipped : l.skipped = l.unparsable.length
  total : l.values.length + l.skipped = lines.length

theorem Covers.addLine {l : Loading α} {lines : List String} (covers : l.Covers parse? lines)
    (line : String) : (l.addLine parse? line).Covers parse? (lines ++ [line]) := by
  have total := covers.total
  rw [Loading.addLine]
  cases read : parse? line with
  | some value =>
      constructor
      · simp [covers.values, read]
      · simp [covers.unparsable, read]
      · exact covers.skipped
      · simp only [List.length_append, List.length_singleton]
        omega
  | none =>
      constructor
      · simp [covers.values, read]
      · simp [covers.unparsable, read]
      · simp [covers.skipped]
      · simp only [List.length_append, List.length_singleton]
        omega

theorem covers_ofLines (parse? : String → Option α) (lines : List String) :
    (ofLines parse? lines).Covers parse? lines := by
  induction lines using List.reverseRecOn with
  | nil => exact ⟨rfl, rfl, rfl, rfl⟩
  | append_singleton lines line ih =>
      rw [ofLines, List.foldl_append]
      exact ih.addLine line

end Loading

theorem FileLines.ofContent_encode (path : String) (text : List Char) :
    ofContent path (.ok (Lines.encode text)) = ⟨path, Lines.entries text, none⟩ := by
  rw [ofContent, Lines.read_encode]
  rfl

end ContentPolicy
