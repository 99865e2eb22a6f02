import ContentPolicy.Log
import ContentPolicy.Text.AlphanumericTable
import ContentPolicy.Text.Characters
import ContentPolicy.Text.Cut

/-!
Log filters: rules between commas. A rule is a level, an origin of messages, or an origin with
conditions in brackets and a level behind an equals sign. Of the rules that fit a message the one
with the longest origin decides, then one that asks for a field; among equals the last one.
-/

namespace ContentPolicy

inductive LogCondition where
  | always
  | field (name : List Char)
  /-- Messages in a span of work that has a name or fields with values. No message is in one. -/
  | span
  deriving DecidableEq

structure LogRule where
  /-- How the names of the origins start that the rule is about. -/
  origin : List Char
  condition : LogCondition := .always
  level : Option LogLevel
  deriving DecidableEq

abbrev LogFilter := List LogRule

namespace LogLevel

def ofNumber? (n : Nat) : Option (Option LogLevel) :=
  if n = 0 then some none else (all.find? fun l => l.rank = n).map some

def ofText? (word : List Char) : Option (Option LogLevel) :=
  let digits := match word with
    | '+' :: rest => rest
    | _ => word
  if Text.spells word "off" then some none
  else if Text.isDigits digits then ofNumber? (Text.decimalValue digits)
  else (all.find? fun l => Text.spells word l.name).map some

end LogLevel

namespace LogCondition

def fits (event : LogEvent) : LogCondition → Bool
  | .always => true
  | .field name => event.fieldNames.contains (String.ofList name)
  | .span => false

def fieldName : LogCondition → List Char
  | .field name => name
  | _ => []

end LogCondition

namespace LogRule

def fits (event : LogEvent) (r : LogRule) : Bool :=
  r.origin.isPrefixOf event.origin.toList && r.condition.fits event

/-- Whether the first of two rules that fit a message decides, given that the second one stands
before it. -/
def decidesOver (r earlier : LogRule) : Bool :=
  if r.origin.length = earlier.origin.length then
    String.ofList earlier.condition.fieldName ≤ String.ofList r.condition.fieldName
  else earlier.origin.length < r.origin.length

def canStart (c : Char) : Bool := "[-:_".toList.contains c || Text.alphanumericRanges.holds c

def levelOf? (text : List Char) : Option (Option LogLevel) :=
  if text.isEmpty then some (some .trace) else LogLevel.ofText? text

/-- A condition up to its closing bracket: how long its span and its field are, if there is a field,
and what follows. -/
def readCondition? (text : List Char) : Option (Nat × Option Nat × List Char) :=
  let span := Text.upTo (fun c => c = ']' || c = '\x7b') text
  match text.drop span.length with
  | ']' :: rest => some (span.length, none, rest)
  | '\x7b' :: inside =>
      let field := Text.upTo (· = '\x7d') inside
      match field, inside.drop field.length with
      | _ :: _, '\x7d' :: ']' :: rest => some (span.length, some field.length, rest)
      | _, _ => none
  | _ => none

/-- What some text in brackets asks for, cut out by the lengths of its span and its field. -/
def conditionOf (span : Nat) (field : Option Nat) (text : List Char) : LogCondition :=
  match span, field with
  | 0, some field =>
      let name := (text.drop 1).take field
      if name.contains '=' then .span else .field name
  | _, _ => .span

/-- Reads a rule. Where its parts begin and end is found without the blanks around it, and counted
from the start of the text with them, so that blanks in front shift every part. -/
def ofChars? (text : List Char) : Option LogRule := do
  let shown := Text.trim text
  if !(shown.head?.any canStart) then none
  else
    let length := (Text.upTo (fun c => c = '=' || c = '[') shown).length
    let origin := text.take length
    match shown.drop length with
    | [] =>
        match LogLevel.ofText? text with
        | some level => return { origin := [], level }
        | none => return { origin := text, level := some .trace }
    | '=' :: _ => return { origin, level := ← levelOf? (text.drop (length + 1)) }
    | _ :: bracket =>
        let (span, field, rest) ← readCondition? bracket
        let condition := conditionOf span field (text.drop (length + 1))
        match rest with
        | [] => return { origin, condition, level := some .trace }
        | '=' :: level =>
            let start := shown.length - level.length
            return { origin, condition, level := ← levelOf? (text.drop start) }
        | _ => none

end LogRule

namespace LogFilter

def standard : LogFilter := [{ origin := [], level := some .warning }]

def errors : LogFilter := [{ origin := [], level := some .error }]

/-- Reads a filter. Without any rule, only errors pass. -/
def ofText? (text : String) : Option LogFilter := do
  let rules ← ((text.toList.splitOn ',').filter fun r => !r.isEmpty).mapM LogRule.ofChars?
  return if rules.isEmpty then errors else rules

def ofText (text : String) : LogFilter := (ofText? text).getD standard

def ruleFor (filter : LogFilter) (event : LogEvent) : Option LogRule :=
  (filter.filter (LogRule.fits event)).foldl
    (fun best r => if best.all r.decidesOver then some r else best) none

def passes (filter : LogFilter) (event : LogEvent) : Bool :=
  match (filter.ruleFor event).bind LogRule.level with
  | some level => event.level.rank ≤ level.rank
  | none => false

end LogFilter

end ContentPolicy
