import ContentPolicy.Text.Cut

/-!
Files, as far as this library needs them: what can go wrong with one, which directory it lies in,
and how a file is written into directories that are not there yet. Where the files are is left
open.
-/

namespace ContentPolicy

inductive FileError where
  | missing
  | present
  | notDirectory
  | isDirectory
  /-- A path or one of its parts is longer than names may be. -/
  | nameTooLong
  | nul
  /-- The bytes are not the UTF-8 form of a text. -/
  | notText
  | other (reason : String)
  deriving DecidableEq

def FileError.message : FileError → String
  | .missing => "No such file or directory (os error 2)"
  | .present => "File exists (os error 17)"
  | .notDirectory => "Not a directory (os error 20)"
  | .isDirectory => "Is a directory (os error 21)"
  | .nameTooLong => "File name too long (os error 36)"
  | .nul => "file name contained an unexpected NUL byte"
  | .notText => "stream did not contain valid UTF-8"
  | .other reason => reason

/-- The step at which writing a file failed, and the path that it was about. -/
inductive WriteError where
  | directory (path : String) (e : FileError)
  | file (path : String) (e : FileError)
  deriving DecidableEq

structure FileAccess (m : Type → Type) where
  isThere : String → m Bool
  read : String → m (Except FileError (List UInt8))
  /-- Makes a directory in one that is there. -/
  makeDirectory : String → m (Except FileError Unit)
  write : String → List UInt8 → m (Except FileError Unit)

namespace Path

/-- Drops slashes at the end of a path, and the dots between them; the path is given backwards. -/
def dropSlashes : List Char → List Char
  | '/' :: rest => dropSlashes rest
  | '.' :: '/' :: rest => dropSlashes rest
  | path => path

def parent? (path : String) : Option String :=
  match Text.cut? (· = '/') (dropSlashes path.toList.reverse) with
  | none => none
  | some (_, above) =>
      let above := dropSlashes above
      if above.isEmpty then none else some (String.ofList above.reverse)

def parents (limit : Nat) (path : String) : List String :=
  match limit, parent? path with
  | limit + 1, some parent => parent :: parents limit parent
  | _, _ => []

end Path

namespace FileAccess

variable {m : Type → Type} [Monad m] (files : FileAccess m)

/-- Makes a directory unless it is there: a path with a dot behind it leads to directories only. -/
def ensureDirectory (path : String) : m (Except FileError Unit) := do
  match ← files.makeDirectory path with
  | .ok () => return .ok ()
  | .error e => if ← files.isThere (path ++ "/.") then return .ok () else return .error e

/-- Makes the first of some directories, each of which lies in the next one. Where one is missing
on the way to it, the others are made before it. -/
def ensureDirectories : List String → m (Except FileError Unit)
  | [] => return .ok ()
  | path :: above => do
      match ← files.ensureDirectory path with
      | .error .missing =>
          match ← ensureDirectories above with
          | .error e => return .error e
          | .ok () => files.ensureDirectory path
      | result => return result

def create (path : String) (bytes : List UInt8) : m (Except WriteError Unit) := do
  let above := Path.parents path.length path
  match ← files.ensureDirectories above with
  | .error e => return .error (.directory (above.headD "") e)
  | .ok () => return (← files.write path bytes).mapError (.file path)

end FileAccess

end ContentPolicy
