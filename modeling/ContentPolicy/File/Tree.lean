import ContentPolicy.File
import ContentPolicy.Sorted.Map

/-!
Trees of files and directories held in memory. Paths lead through them from a start directory, or
with a slash in front from the root.
-/

namespace ContentPolicy

inductive FileTree where
  | file (bytes : List UInt8)
  | directory (entries : List (String × FileTree))

namespace FileTree

/-- The names that lead to the directory where paths start. No path can spell its name. -/
def start : List String := [""]

def empty : FileTree := .directory [("", .directory [])]

def isDirectory : FileTree → Bool
  | .directory _ => true
  | .file _ => false

def at? (names : List String) (tree : FileTree) : Option FileTree :=
  match names, tree with
  | [], tree => some tree
  | name :: rest, .directory entries => (SortedMap.find name entries).bind (at? rest)
  | _ :: _, .file _ => none

def put (tree : FileTree) (names : List String) (new : FileTree) : FileTree :=
  match names, tree with
  | [], _ => new
  | name :: rest, .directory entries =>
      let inner := (SortedMap.find name entries).getD (.directory [])
      .directory (SortedMap.place name (put inner rest new) entries)
  | _ :: _, .file bytes => .file bytes

/-! ### Paths -/

def pathParts (path : String) : List String := (path.toList.splitOn '/').map String.ofList

def beginning (path : String) : List String := if path.startsWith "/" then [] else start

def isNameless (part : String) : Bool := part = "" || part = "." || part = ".."

def nameLimit : Nat := 255

def pathLimit : Nat := 4095

def checkPath (path : String) : Except FileError Unit :=
  if path.toList.contains '\x00' then .error .nul
  else if path.isEmpty then .error .missing
  else if pathLimit < path.utf8ByteSize then .error .nameTooLong
  else .ok ()

/-- The names that the parts of a path lead to. Every part needs a directory to start from. -/
def locate (tree : FileTree) (here : List String) :
    List String → Except FileError (List String)
  | [] => .ok here
  | part :: rest =>
      match tree.at? here with
      | none => .error .missing
      | some (.file _) => .error .notDirectory
      | some (.directory _) =>
          if part = ".." then locate tree here.dropLast rest
          else if isNameless part then locate tree here rest
          else if nameLimit < part.utf8ByteSize then .error .nameTooLong
          else locate tree (here ++ [part]) rest

/-- The names of the directory that the parts of a path lead to. A dot at the end asks for one. -/
def locateDirectory (tree : FileTree) (here parts : List String) :
    Except FileError (List String) :=
  tree.locate here (parts ++ ["."])

def find (tree : FileTree) (path : String) : Except FileError FileTree := do
  checkPath path
  match tree.at? (← tree.locate (beginning path) (pathParts path)) with
  | some found => return found
  | none => .error .missing

def read (tree : FileTree) (path : String) : Except FileError (List UInt8) := do
  match ← tree.find path with
  | .file bytes => return bytes
  | .directory _ => .error .isDirectory

/-! ### Changes -/

/-- The directory that an entry is to be put into, which must be there, and the name of the entry,
unless the last part of the path names none. -/
def place? (tree : FileTree) (path : String) :
    Except FileError (Option (List String × String)) := do
  checkPath path
  match (pathParts path).reverse.dropWhile (· = "") with
  | [] => return none
  | name :: above =>
      let above ← tree.locateDirectory (beginning path) above.reverse
      return if isNameless name then none else some (above, name)

/-- Writes a file into a directory that is there. A path that ends in a slash names no file. -/
def write (tree : FileTree) (path : String) (bytes : List UInt8) : Except FileError FileTree := do
  match ← tree.place? path with
  | none => .error .isDirectory
  | some (above, name) =>
      if path.endsWith "/" then .error .isDirectory
      else
        let names ← tree.locate above [name]
        if (tree.at? names).any isDirectory then .error .isDirectory
        else return tree.put names (.file bytes)

def makeDirectory (tree : FileTree) (path : String) : Except FileError FileTree := do
  match ← tree.place? path with
  | none => .error .present
  | some (above, name) =>
      let names ← tree.locate above [name]
      if (tree.at? names).isSome then .error .present else return tree.put names (.directory [])

def modifyTree (change : FileTree → Except FileError FileTree) :
    StateM FileTree (Except FileError Unit) := fun tree =>
  match change tree with
  | .ok next => (.ok (), next)
  | .error e => (.error e, tree)

def access : FileAccess (StateM FileTree) where
  isThere path := do return (← get).find path |>.toBool
  read path := do return (← get).read path
  makeDirectory path := modifyTree (·.makeDirectory path)
  write path bytes := modifyTree (·.write path bytes)

end FileTree

end ContentPolicy
