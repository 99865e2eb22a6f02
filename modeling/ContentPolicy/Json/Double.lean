/-!
Binary floating-point numbers of 64 bits: rounding a quotient to the nearest one, and the shortest
decimal that reads back as a given one. All arithmetic is on natural numbers and exact.
-/

namespace ContentPolicy

/-- The finite number `mantissa * 2 ^ exponent` with a sign. A number that is not zero has a
mantissa of 53 bits, or a shorter one at the least exponent. -/
structure Double where
  negative : Bool
  mantissa : Nat
  exponent : Int
  deriving DecidableEq

namespace Double

def leastExponent : Int := -1074

def greatestExponent : Int := 971

def zero : Double := ⟨false, 0, leastExponent⟩

def isZero (d : Double) : Bool := d.mantissa = 0

def roundQuotient (num den : Nat) : Nat :=
  let quotient := num / den
  let rest := num % den
  if den < 2 * rest || (2 * rest = den && quotient % 2 = 1) then quotient + 1 else quotient

def scaled (n : Nat) (exponent : Int) : Nat × Nat :=
  if 0 ≤ exponent then (n * Nat.pow 2 exponent.toNat, 1) else (n, Nat.pow 2 (-exponent).toNat)

/-- The exponent at which the quotient has an integer part of 53 bits, or the least exponent. -/
def exponentOf (num den : Nat) : Int :=
  let guess : Int := (Nat.log2 num : Int) - Nat.log2 den - 52
  let (up, down) := scaled num (-guess)
  let exponent := if up / (den * down) < Nat.pow 2 52 then guess - 1 else guess
  max exponent leastExponent

def ofRatio? (num den : Nat) : Option Double :=
  if num = 0 then some zero
  else
    let exponent := exponentOf num den
    let (up, down) := scaled num (-exponent)
    let mantissa := roundQuotient up (den * down)
    let (mantissa, exponent) :=
      if mantissa = Nat.pow 2 53 then (Nat.pow 2 52, exponent + 1) else (mantissa, exponent)
    if greatestExponent < exponent then none else some ⟨false, mantissa, exponent⟩

def times? (a b : Double) : Option Double :=
  let (up, down) := scaled (a.mantissa * b.mantissa) (a.exponent + b.exponent)
  ofRatio? up down

def over? (a b : Double) : Option Double :=
  let (up, down) := scaled a.mantissa (a.exponent - b.exponent)
  ofRatio? up (b.mantissa * down)

/-- A decimal: the digits `digits` with the point after the first, times `10 ^ exponent`. -/
structure Decimal where
  digits : Nat
  exponent : Int

/-- The exponent of ten of a positive quotient: it lies from this power of ten to the next. -/
def decimalExponent (num den : Nat) : Int :=
  if den ≤ num then (Nat.toDigits 10 (num / den)).length - 1
  else
    let steps := (Nat.toDigits 10 (den / num)).length - 1
    if den ≤ num * Nat.pow 10 steps then -(steps : Int) else -(steps : Int) - 1

/-- The decimals of `count` digits that read back as the number: of the two around the number the
nearer one, and of two equally near the even one. -/
def decimalOf? (d : Double) (exponent : Int) (count : Nat) : Option Decimal :=
  -- The number and the ends of the interval that rounds to it, in quarters of a last place.
  let below := if d.mantissa = Nat.pow 2 52 ∧ leastExponent < d.exponent then 1 else 2
  let (value, unit) := scaled (4 * d.mantissa) (d.exponent - 2)
  let (quarter, _) := scaled 1 (d.exponent - 2)
  let low := value - below * quarter
  let high := value + 2 * quarter
  let place := exponent - (count - 1 : Nat)
  let (step, split) :=
    if 0 ≤ place then (Nat.pow 10 place.toNat, 1) else (1, Nat.pow 10 (-place).toNat)
  -- In units of `1 / (unit * split)`, `step * unit` is one place of the decimal grid.
  let grid := step * unit
  let under := value * split / grid
  let inside (digits : Nat) : Bool :=
    let point := digits * grid
    if d.mantissa % 2 = 0 then low * split ≤ point && point ≤ high * split
    else low * split < point && point < high * split
  let distance (digits : Nat) : Nat :=
    (digits * grid - value * split) + (value * split - digits * grid)
  let nearer :=
    if distance under < distance (under + 1) then under
    else if distance (under + 1) < distance under then under + 1
    else if under % 2 = 0 then under else under + 1
  let chosen? :=
    if inside under && inside (under + 1) then some nearer
    else if inside under then some under
    else if inside (under + 1) then some (under + 1)
    else none
  chosen?.map fun digits =>
    if digits = Nat.pow 10 count then ⟨Nat.pow 10 (count - 1), exponent + 1⟩ else ⟨digits, exponent⟩

/-- The decimal with the fewest digits that reads back as a number that is not zero. -/
def shortest (d : Double) : Decimal :=
  let (num, den) := scaled d.mantissa d.exponent
  let exponent := decimalExponent num den
  ((List.range 17).findSome? fun n => d.decimalOf? exponent (n + 1)).getD ⟨0, exponent⟩

end Double

end ContentPolicy
