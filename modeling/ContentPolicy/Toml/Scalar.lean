import ContentPolicy.Json.Double
import ContentPolicy.Text.Cut
import ContentPolicy.Text.Characters
import ContentPolicy.Toml

/-!
TOML values without structure, strings apart: booleans, integers in four bases, numbers with a point
or an exponent, dates and times. Of numbers with a point only the form is checked. A number of the
right form that has no value is no fault here: it is one for who asks for its value.
-/

namespace ContentPolicy.Toml

def digitGroups? (isDigit : Char → Bool) (cs : List Char) : Option (List Char) :=
  let groups := cs.splitOn '_'
  if groups.all fun g => !g.isEmpty && g.all isDigit then some groups.flatten else none

def integerRange : Int × Int := (-Nat.pow 2 127, Nat.pow 2 128 - 1)

def ofInt (n : Int) : Toml :=
  if integerRange.1 ≤ n ∧ n ≤ integerRange.2 then .integer n else .valueless

inductive Sign where
  | plus
  | minus
  deriving DecidableEq

def cutSign : List Char → Option Sign × List Char
  | '-' :: rest => (some .minus, rest)
  | '+' :: rest => (some .plus, rest)
  | cs => (none, cs)

def signed (sign : Option Sign) (n : Nat) : Int := if sign = some .minus then -n else n

/-- The digits of a whole number. They start with a zero only when they are one; but an underscore
may stand between a sign and the digits, and behind it they may start with any number of zeros. -/
def wholeDigits? (sign : Option Sign) (cs : List Char) : Option (List Char) :=
  match sign, cs with
  | some _, '_' :: rest => digitGroups? Char.isDigit rest
  | _, _ =>
      match digitGroups? Char.isDigit cs with
      | some ('0' :: _ :: _) => none
      | digits => digits

def isHexDigit (c : Char) : Bool := (Text.hexValue? c).isSome

/-- Whether underscores stand between pieces that have digits of any base next to them. A piece of
one character may be anything before its underscore, but not behind one. -/
def areWellCut : List (List Char) → Bool
  | first :: second :: rest =>
      (first.length = 1 || first.getLast?.any isHexDigit) && second.head?.any isHexDigit &&
        areWellCut (second :: rest)
  | _ => true

/-- Whether a text begins like a decimal integer with underscores, and has digits of any base next
to each of them. Such a text is allowed as a number whatever else is in it, but without a value. -/
def isBrokenDecimal (cs : List Char) : Bool :=
  let (_, unsigned) := cutSign cs
  let leading := unsigned.takeWhile Char.isDigit
  let pieces := cs.splitOn '_'
  (unsigned.drop leading.length).head? = some '_' && leading.head? ≠ some '0' &&
    !(unsigned.any fun c => c = '.' || c = 'e' || c = 'E') &&
    pieces.head? ≠ some [] && areWellCut pieces

def decimal? (cs : List Char) : Option Toml :=
  let (sign, unsigned) := cutSign cs
  match wholeDigits? sign unsigned with
  | some digits => some (ofInt (signed sign (Text.decimalValue digits)))
  | none => if isBrokenDecimal cs then some .valueless else none

def isDigitOfBase (base : Nat) (c : Char) : Bool :=
  match Text.hexValue? c with
  | some value => value < base
  | none => false

def inBase? (base : Nat) (cs : List Char) : Option Toml :=
  if cs.isEmpty then some .valueless
  else
    (digitGroups? (isDigitOfBase base) cs).map fun digits =>
      ofInt (digits.foldl (fun n c => base * n + (Text.hexValue? c).getD 0) 0 : Nat)

/-- Whether the number is less than the greatest floating-point number and half a place. -/
def isInRange (digits : List Char) (exponent : Int) : Bool :=
  let n := Text.decimalValue digits
  let bound : Int := 400
  if n = 0 || exponent + digits.length < -bound then true
  else if bound < exponent + digits.length - (digits.takeWhile (· = '0')).length then false
  else if 0 ≤ exponent then (Double.ofRatio? (n * Nat.pow 10 exponent.toNat) 1).isSome
  else (Double.ofRatio? n (Nat.pow 10 (-exponent).toNat)).isSome

def exponent? (cs : List Char) : Option Int :=
  let (sign, rest) := cutSign cs
  (digitGroups? Char.isDigit rest).map fun digits => signed sign (Text.decimalValue digits)

def float? (cs : List Char) : Option Toml := do
  let (sign, unsigned) := cutSign cs
  let isE (c : Char) : Bool := c = 'e' || c = 'E'
  let (mantissa, exponent) ←
    match Text.cut? isE unsigned with
    | some (mantissa, after) => (exponent? after).map fun x => (mantissa, x)
    | none => if unsigned.contains '.' then some (unsigned, 0) else none
  let (whole, fraction) ←
    match Text.cut? (· = '.') mantissa with
    | some (whole, after) => (digitGroups? Char.isDigit after).map fun f => (whole, f)
    | none => some (mantissa, [])
  let digits ← wholeDigits? sign whole
  let value := isInRange (digits ++ fraction) (exponent - fraction.length)
  return if value then .float else .valueless

def specialFloat? (cs : List Char) : Option Toml :=
  let (_, rest) := cutSign cs
  if rest = "inf".toList || rest = "nan".toList then some .float else none

def scalar? (cs : List Char) : Option Toml :=
  match cs with
  | ['t', 'r', 'u', 'e'] => some (.boolean true)
  | ['f', 'a', 'l', 's', 'e'] => some (.boolean false)
  | '0' :: 'x' :: rest => inBase? 16 rest
  | '0' :: 'o' :: rest => inBase? 8 rest
  | '0' :: 'b' :: rest => inBase? 2 rest
  | _ => (((decimal? cs).or (float? cs)).or (specialFloat? cs)).or
      ((DateTime.ofChars? cs).map .date)

end ContentPolicy.Toml
