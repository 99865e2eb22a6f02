import ContentPolicy.Json.Double
import ContentPolicy.Text.Characters

/-!
JSON numbers: how a literal is read and how a number is written. Integers that fit 64 bits stay
integers; all other literals are binary floating-point numbers.
-/

namespace ContentPolicy

inductive JsonNumber where
  | integer (n : Int)
  | double (d : Double)
  deriving DecidableEq

namespace JsonNumber

structure Literal where
  negative : Bool
  whole : List Char
  fraction : Option (List Char)
  exponent : Option Int

def exponent? (cs : List Char) : Option Int :=
  let (negative, digits) :=
    match cs with
    | '-' :: rest => (true, rest)
    | '+' :: rest => (false, rest)
    | _ => (false, cs)
  if !Text.isDigits digits then none
  else some (if negative then -(Text.decimalValue digits : Int) else Text.decimalValue digits)

def tail? (cs : List Char) : Option (Option (List Char) × Option Int) :=
  match cs with
  | [] => some (none, none)
  | '.' :: rest =>
      let fraction := rest.takeWhile Char.isDigit
      if fraction.isEmpty then none
      else
        match rest.dropWhile Char.isDigit with
        | [] => some (some fraction, none)
        | e :: after =>
            if e = 'e' ∨ e = 'E' then (exponent? after).map fun x => (some fraction, some x)
            else none
  | e :: after => if e = 'e' ∨ e = 'E' then (exponent? after).map fun x => (none, some x) else none

/-- The parts of a text that is a number literal as a whole. A whole part of several digits does
not start with a zero. -/
def Literal.ofText? (cs : List Char) : Option Literal := do
  let (negative, rest) :=
    match cs with
    | '-' :: rest => (true, rest)
    | _ => (false, cs)
  let whole := rest.takeWhile Char.isDigit
  if whole.isEmpty || (whole.head? = some '0' && 1 < whole.length) then none
  else
    let (fraction, exponent) ← tail? (rest.dropWhile Char.isDigit)
    return ⟨negative, whole, fraction, exponent⟩

def greatestWord : Nat := 18446744073709551615

def appendDigits (n : Nat) : List Char → Nat × List Char
  | [] => (n, [])
  | c :: rest =>
      let next := 10 * n + (c.toNat - 48)
      if next ≤ greatestWord then appendDigits next rest else (n, c :: rest)

/-- The leading digits of a literal that fit 64 bits, and the power of ten that they count. -/
def significand (l : Literal) : Nat × Int :=
  let (whole, dropped) := appendDigits 0 l.whole
  let fraction := l.fraction.getD []
  let (digits, rest) := appendDigits whole fraction
  (digits, (dropped.length : Int) - (fraction.length - rest.length : Nat) + l.exponent.getD 0)

def powerOfTen? (n : Nat) : Option Double := Double.ofRatio? (Nat.pow 10 n) 1

def greatestPower : Nat := 308

/-- Divides by `10 ^ n`, first by `largest`, the greatest power of ten, as often as it goes in. -/
def divideByPower (largest d : Double) (n : Nat) : Option Double :=
  if d.isZero then some d
  else if n ≤ greatestPower then (powerOfTen? n).bind d.over?
  else
    match d.over? largest with
    -- Each step rounds, so the steps are part of what the literal means.
    | some smaller => divideByPower largest smaller (n - greatestPower)
    | none => none
termination_by n
decreasing_by
  simp only [greatestPower] at *
  omega

/-- The number of a significand and a power of ten: the nearest floating-point number to the
significand, multiplied or divided by the nearest one to the power. -/
def scale? (digits : Nat) (exponent : Int) : Option Double := do
  let d ← Double.ofRatio? digits 1
  if exponent < 0 then
    let largest ← powerOfTen? greatestPower
    divideByPower largest d (-exponent).toNat
  else if exponent ≤ greatestPower then (powerOfTen? exponent.toNat).bind d.times?
  else if d.isZero then some d
  else none

def ofLiteral? (l : Literal) : Option JsonNumber :=
  let n := Text.decimalValue l.whole
  let fits := if l.negative then 0 < n ∧ n ≤ greatestWord / 2 + 1 else n ≤ greatestWord
  if l.fraction.isNone ∧ l.exponent.isNone ∧ fits then
    some (.integer (if l.negative then -(n : Int) else n))
  else
    let (digits, exponent) := significand l
    (scale? digits exponent).map fun d => .double { d with negative := l.negative }

def ofText? (cs : List Char) : Option JsonNumber := (Literal.ofText? cs).bind ofLiteral?

def renderInt (n : Int) : List Char :=
  if n < 0 then '-' :: Nat.toDigits 10 n.natAbs else Nat.toDigits 10 n.natAbs

def dropZeros (digits : List Char) : List Char :=
  digits.take 1 ++ ((digits.drop 1).reverse.dropWhile (· = '0')).reverse

def renderExponent (n : Int) : List Char :=
  (if n < 0 then '-' else '+') :: Nat.toDigits 10 n.natAbs

/-- The digits of a decimal with its point: positional from `1e-5` to below `1e16`, and beyond that
with an exponent. A number that is integral still shows one place. -/
def renderDecimal (digits : List Char) (exponent : Int) : List Char :=
  if 0 ≤ exponent ∧ exponent < 16 then
    let places := exponent.toNat + 1
    let whole := digits.take places
    let fraction := digits.drop places
    whole ++ List.replicate (places - whole.length) '0' ++
      '.' :: (if fraction.isEmpty then ['0'] else fraction)
  else if -5 ≤ exponent ∧ exponent < 0 then
    ['0', '.'] ++ List.replicate (-exponent - 1).toNat '0' ++ digits
  else
    let mantissa :=
      match digits with
      | [] => []
      | [digit] => [digit]
      | digit :: rest => digit :: '.' :: rest
    mantissa ++ 'e' :: renderExponent exponent

def renderDouble (d : Double) : List Char :=
  let sign := if d.negative then ['-'] else []
  if d.isZero then sign ++ ['0', '.', '0']
  else
    let decimal := d.shortest
    sign ++ renderDecimal (dropZeros (Nat.toDigits 10 decimal.digits)) decimal.exponent

def render : JsonNumber → List Char
  | .integer n => renderInt n
  | .double d => renderDouble d

end JsonNumber

end ContentPolicy
