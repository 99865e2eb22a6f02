/-!
Characters and the texts made of them: sets of code points, letter case, digits, and blanks.
-/

namespace ContentPolicy.Text

/-- Ranges of code points with both ends included, the form in which the properties of characters
are tabulated. -/
abbrev Ranges := List (Nat × Nat)

def Ranges.holds (ranges : Ranges) (c : Char) : Bool :=
  ranges.any fun r => r.1 ≤ c.toNat && c.toNat ≤ r.2

/-! ### Letter case

Only the ASCII letters have a case here, so lower-casing keeps the length of a text, and applying it
twice changes nothing more. -/

def lower (cs : List Char) : List Char := cs.map Char.toLower

def sameIgnoringCase (a b : List Char) : Bool := lower a == lower b

def spells (word : List Char) (name : String) : Bool := sameIgnoringCase word name.toList

@[simp] theorem lower_append (a b : List Char) : lower (a ++ b) = lower a ++ lower b :=
  List.map_append

@[simp] theorem length_lower (cs : List Char) : (lower cs).length = cs.length := List.length_map _

theorem toList_toLower (s : String) : s.toLower.toList = lower s.toList := String.toList_map

/-! ### Digits and the numbers that they write -/

def decimalValue (digits : List Char) : Nat :=
  digits.foldl (fun n c => 10 * n + (c.toNat - 48)) 0

def isDigits (cs : List Char) : Bool := !cs.isEmpty && cs.all Char.isDigit

/-- The decimal digits of a number, with zeros in front of them up to a width. -/
def padded (width n : Nat) : List Char :=
  let digits := Nat.toDigits 10 n
  List.replicate (width - digits.length) '0' ++ digits

def hexValue? (c : Char) : Option Nat :=
  if '0' ≤ c ∧ c ≤ '9' then some (c.toNat - 48)
  else if 'a' ≤ c ∧ c ≤ 'f' then some (c.toNat - 87)
  else if 'A' ≤ c ∧ c ≤ 'F' then some (c.toNat - 55)
  else none

/-! ### Blanks, trimming, and the words between blanks -/

/-- The Unicode property White_Space. -/
def blankRanges : Ranges :=
  [ (0x09, 0x0D), (0x20, 0x20), (0x85, 0x85), (0xA0, 0xA0), (0x1680, 0x1680), (0x2000, 0x200A),
    (0x2028, 0x2029), (0x202F, 0x202F), (0x205F, 0x205F), (0x3000, 0x3000) ]

def isBlank (c : Char) : Bool := blankRanges.holds c

def trim (cs : List Char) : List Char :=
  ((cs.dropWhile isBlank).reverse.dropWhile isBlank).reverse

def words (cs : List Char) : List (List Char) :=
  (cs.splitOnP isBlank).filter fun w => !w.isEmpty

def isBlankText (cs : List Char) : Bool := cs.all isBlank

end ContentPolicy.Text
