import ContentPolicy.DateTime
import ContentPolicy.Sorted.Map

/-!
TOML values, and how a document grows by its headers and its keys. Where a table came from decides
what may still be added to it, so a table remembers its origin.
-/

namespace ContentPolicy

inductive TableOrigin where
  /-- Named by a header as a part of a longer path. -/
  | passed
  /-- Made by a key with dots, or passed by a header and added to by such a key. -/
  | dotted
  /-- Named by a header of its own. -/
  | named
  | braces
  deriving DecidableEq

inductive Toml where
  | string (s : String)
  | integer (n : Int)
  | boolean (b : Bool)
  | float
  /-- A number in a form that is allowed but has no value: too large, or with digits missing. -/
  | valueless
  | date (d : DateTime)
  | array (items : List Toml)
  /-- Tables under headers of one name: the earlier ones, and the one that is still growing. -/
  | tables (earlier : List Toml) (last : List (String × Toml))
  | table (origin : TableOrigin) (entries : List (String × Toml))

namespace Toml

abbrev Entries := List (String × Toml)

/-- Puts a value at the end of a path of keys with dots. Tables on the way that are not there are
made; one that is there must have no header of its own and no braces, and from now on counts as made
by such keys. Among tables of one name the path goes through the last, but does not end there. -/
def addDotted (path : List String) (key : String) (v : Toml) (entries : Entries) :
    Option Entries :=
  match path with
  | [] =>
      if (SortedMap.find key entries).isSome then none else some (SortedMap.place key v entries)
  | first :: rest =>
      match SortedMap.find first entries with
      | none =>
          (addDotted rest key v []).map fun inner =>
            SortedMap.place first (.table .dotted inner) entries
      | some (.table origin inner) =>
          if origin = .named ∨ origin = .braces then none
          else
            (addDotted rest key v inner).map fun inner =>
              SortedMap.place first (.table .dotted inner) entries
      | some (.tables earlier last) =>
          if rest.isEmpty then none
          else
            (addDotted rest key v last).map fun last =>
              SortedMap.place first (.tables earlier last) entries
      | some _ => none

/-- Changes the table that a path of headers leads to. Tables on the way that are not there are
made; among tables of one name the path leads into the last. -/
def underHeader (change : Entries → Option Entries) (path : List String) (entries : Entries) :
    Option Entries :=
  match path with
  | [] => change entries
  | first :: rest =>
      match SortedMap.find first entries with
      | none =>
          (underHeader change rest []).map fun inner =>
            SortedMap.place first (.table .passed inner) entries
      | some (.table origin inner) =>
          if origin = .braces then none
          else
            (underHeader change rest inner).map fun inner =>
              SortedMap.place first (.table origin inner) entries
      | some (.tables earlier last) =>
          (underHeader change rest last).map fun last =>
            SortedMap.place first (.tables earlier last) entries
      | some _ => none

/-- Names a table: a new one, or one that was only passed on the way to another. -/
def openTable (key : String) (entries : Entries) : Option Entries :=
  match SortedMap.find key entries with
  | none => some (SortedMap.place key (.table .named []) entries)
  | some (.table .passed inner) => some (SortedMap.place key (.table .named inner) entries)
  | some _ => none

def openTables (key : String) (entries : Entries) : Option Entries :=
  match SortedMap.find key entries with
  | none => some (SortedMap.place key (.tables [] []) entries)
  | some (.tables earlier last) =>
      some (SortedMap.place key (.tables (earlier ++ [.table .named last]) []) entries)
  | some _ => none

mutual

def isReadable : Toml → Bool
  | .valueless => false
  | .array items => areReadable items
  | .tables earlier last => areReadable earlier && areReadableEntries last
  | .table _ entries => areReadableEntries entries
  | _ => true

def areReadable : List Toml → Bool
  | [] => true
  | item :: rest => isReadable item && areReadable rest

def areReadableEntries : List (String × Toml) → Bool
  | [] => true
  | (_, v) :: rest => isReadable v && areReadableEntries rest

end

def entries? : Toml → Option Entries
  | .table _ entries => some entries
  | _ => none

/-- The items of an array, which tables of one name are as well. -/
def items? : Toml → Option (List Toml)
  | .array items => some items
  | .tables earlier last => some (earlier ++ [.table .named last])
  | _ => none

end Toml

end ContentPolicy
