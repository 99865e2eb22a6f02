import ContentPolicy.Text.Cut
import ContentPolicy.Text.Characters

/-!
Dates and times of the day, and their text: a date as year, month and day with hyphens between
them, a time with colons, and a `T` between the two. Seconds may be left out; a fraction of a second
counts to the billionth.
-/

namespace ContentPolicy

structure Day where
  year : Nat
  month : Nat
  day : Nat
  deriving DecidableEq

structure TimeOfDay where
  hour : Nat
  minute : Nat
  second : Option Nat := none
  /-- The fraction of the second in billionths. -/
  billionths : Option Nat := none
  deriving DecidableEq

inductive Offset where
  /-- Universal time itself, written as a letter. -/
  | universal
  | minutes (n : Int)
  deriving DecidableEq

inductive DateTime where
  | day (d : Day)
  | time (t : TimeOfDay)
  | both (d : Day) (t : TimeOfDay) (offset : Option Offset)
  deriving DecidableEq

def Day.render (d : Day) : List Char :=
  Text.padded 4 d.year ++ '-' :: Text.padded 2 d.month ++ '-' :: Text.padded 2 d.day

def renderBillionths (n : Nat) : List Char :=
  match ((Text.padded 9 n).reverse.dropWhile (· = '0')).reverse with
  | [] => ['0']
  | digits => digits

def TimeOfDay.render (t : TimeOfDay) : List Char :=
  Text.padded 2 t.hour ++ ':' :: Text.padded 2 t.minute ++
    (match t.second with
      | some second => ':' :: Text.padded 2 second
      | none => []) ++
    (match t.billionths with
      | some n => '.' :: renderBillionths n
      | none => [])

def Offset.render : Offset → List Char
  | .universal => ['Z']
  | .minutes n =>
      (if n < 0 then '-' else '+') :: Text.padded 2 (n.natAbs / 60) ++
        ':' :: Text.padded 2 (n.natAbs % 60)

namespace DateTime

def render : DateTime → List Char
  | .day d => d.render
  | .time t => t.render
  | .both d t offset => d.render ++ 'T' :: t.render ++ (offset.map Offset.render).getD []

def text (d : DateTime) : String := String.ofList d.render

end DateTime

/-! ### Reading -/

def readField? (count low high : Nat) (cs : List Char) : Option Nat :=
  let n := Text.decimalValue cs
  if cs.length = count ∧ cs.all Char.isDigit ∧ low ≤ n ∧ n ≤ high then some n else none

def daysInMonth (year month : Nat) : Nat :=
  if month = 2 then
    if (year % 4 = 0 ∧ year % 100 ≠ 0) ∨ year % 400 = 0 then 29 else 28
  else if month = 4 ∨ month = 6 ∨ month = 9 ∨ month = 11 then 30
  else 31

def Day.ofChars? (cs : List Char) : Option Day :=
  match cs.splitOn '-' with
  | [year, month, day] => do
      let year ← readField? 4 0 9999 year
      let month ← readField? 2 1 12 month
      return ⟨year, month, ← readField? 2 1 (daysInMonth year month) day⟩
  | _ => none

/-- The fraction that digits write; digits after the ninth do not count. -/
def readBillionths? (digits : List Char) : Option Nat :=
  if Text.isDigits digits then
    let counted := digits.take 9
    some (Text.decimalValue counted * Nat.pow 10 (9 - counted.length))
  else none

namespace TimeOfDay

def ofHourMinute? (hour minute : List Char) : Option TimeOfDay := do
  return { hour := ← readField? 2 0 23 hour, minute := ← readField? 2 0 59 minute }

/-- Reads a time of the day. A minute may have a sixty-first second. -/
def ofChars? (cs : List Char) : Option TimeOfDay :=
  match cs.splitOn ':' with
  | [hour, minute] => ofHourMinute? hour minute
  | [hour, minute, second] => do
      let t ← ofHourMinute? hour minute
      match Text.cut? (· = '.') second with
      | none => return { t with second := some (← readField? 2 0 60 second) }
      | some (whole, fraction) =>
          return { t with
            second := some (← readField? 2 0 60 whole)
            billionths := some (← readBillionths? fraction) }
  | _ => none

end TimeOfDay

def Offset.ofChars? (negative : Bool) (cs : List Char) : Option Offset :=
  match cs.splitOn ':' with
  | [hour, minute] =>
      (TimeOfDay.ofHourMinute? hour minute).map fun t =>
        let n : Int := 60 * t.hour + t.minute
        .minutes (if negative then -n else n)
  | _ => none

namespace DateTime

def timeAndOffset? (cs : List Char) : Option (TimeOfDay × Option Offset) :=
  let time := Text.upTo (fun c => "Zz+-".toList.contains c) cs
  (TimeOfDay.ofChars? time).bind fun t =>
    match cs.drop time.length with
    | [] => some (t, none)
    | ['Z'] | ['z'] => some (t, some .universal)
    | '+' :: offset => (Offset.ofChars? false offset).map fun o => (t, some o)
    | '-' :: offset => (Offset.ofChars? true offset).map fun o => (t, some o)
    | _ => none

def ofChars? (cs : List Char) : Option DateTime :=
  match Text.cut? (fun c => c = 'T' || c = 't' || c = ' ') cs with
  | none => ((Day.ofChars? cs).map .day).or ((TimeOfDay.ofChars? cs).map .time)
  | some (front, back) => do
      let d ← Day.ofChars? front
      let (t, offset) ← timeAndOffset? back
      return .both d t offset

end DateTime

end ContentPolicy
