import ContentPolicy.Text.Characters

/-!
Port numbers and their decimal form.
-/

namespace ContentPolicy

abbrev Port := UInt16

inductive PortFault where
  | empty
  | invalidDigit
  | tooLarge
  deriving DecidableEq

def PortFault.message : PortFault → String
  | .empty => "cannot parse integer from empty string"
  | .invalidDigit => "invalid digit found in string"
  | .tooLarge => "number too large to fit in target type"

namespace Port

def ofDigits? (digits : List Char) : Option Port :=
  let n := Text.decimalValue digits
  if n < UInt16.size then some (UInt16.ofNat n) else none

/-- Appends digits to a number, up to the first one that is no digit or leads beyond all ports. -/
def appendDigits (n : Nat) : List Char → Except PortFault Port
  | [] => .ok (UInt16.ofNat n)
  | c :: rest =>
      if !c.isDigit then .error .invalidDigit
      else
        let next := 10 * n + (c.toNat - 48)
        if next < UInt16.size then appendDigits next rest else .error .tooLarge

def parse (text : String) : Except PortFault Port :=
  match text.toList with
  | [] => .error .empty
  | ['+'] => .error .invalidDigit
  | '+' :: digits => appendDigits 0 digits
  | digits => appendDigits 0 digits

def toDigits (p : Port) : List Char := Nat.toDigits 10 p.toNat

end Port

end ContentPolicy
