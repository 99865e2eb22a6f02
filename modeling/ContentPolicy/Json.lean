import ContentPolicy.Json.Number
import ContentPolicy.Sorted.Map

/-!
JSON values. The members of an object that was read are in ascending order of their names, each
name once.
-/

namespace ContentPolicy

inductive Json where
  | null
  | bool (b : Bool)
  | number (n : JsonNumber)
  | string (s : String)
  | array (items : List Json)
  | object (members : List (String × Json))

namespace Json

def member? (name : String) : Json → Option Json
  | .object members => SortedMap.find name members
  | _ => none

def string? : Json → Option String
  | .string s => some s
  | _ => none

def ofNat (n : Nat) : Json := .number (.integer n)

def strings (texts : List String) : Json := .array (texts.map .string)

end Json

end ContentPolicy
