import ContentPolicy.File
import ContentPolicy.Text.Characters

/-!
Files of lines: one value a line. Reading trims the lines and skips blank ones, and stops at the
first line that is no text.
-/

namespace ContentPolicy

inductive ReadError where
  | file (path : String) (e : FileError)
  | line (path : String) (number : Nat) (e : FileError)
  deriving DecidableEq

def ReadError.message : ReadError → String
  | .file path e => s!"open {path}: {e.message}"
  | .line path number e => s!"read {path}:{number}: {e.message}"

namespace Lines

def lineFeed : UInt8 := 10

/-- The pieces that line feeds close; at the end of the bytes, the line feed may be missing. -/
def split (bytes : List UInt8) : List (List UInt8) :=
  let pieces := bytes.splitOn lineFeed
  if pieces.getLast? = some [] then pieces.dropLast else pieces

/-- The lines of a file: those before the first one that is no text, and the number of that one. -/
structure Reading where
  lines : List String
  badLine : Option Nat
  deriving DecidableEq

def readPieces (number : Nat) : List (List UInt8) → Reading
  | [] => ⟨[], none⟩
  | piece :: rest =>
      match String.fromUTF8? piece.toByteArray with
      | none => ⟨[], some number⟩
      | some text =>
          let line := Text.trim text.toList
          let after := readPieces (number + 1) rest
          if line.isEmpty then after
          else { after with lines := String.ofList line :: after.lines }

def read (bytes : List UInt8) : Reading := readPieces 1 (split bytes)

/-- The bytes of a file with the values as its lines. The values must not hold line feeds. -/
def write (values : List String) : List UInt8 :=
  values.flatMap fun v => v.toList.flatMap String.utf8EncodeChar ++ [lineFeed]

end Lines

structure Loading (α : Type) where
  values : List α
  skipped : Nat
  unparsable : List String

namespace Loading

variable {α : Type} (parse? : String → Option α)

def addLine (l : Loading α) (line : String) : Loading α :=
  match parse? line with
  | some value => { l with values := l.values ++ [value] }
  | none => { l with skipped := l.skipped + 1, unparsable := l.unparsable ++ [line] }

def ofLines (lines : List String) : Loading α := lines.foldl (addLine parse?) ⟨[], 0, []⟩

end Loading

structure FileLines where
  path : String
  lines : List String
  error : Option ReadError
  deriving DecidableEq

namespace FileLines

/-- The lines of a file with the given content. A directory fails at its first line. -/
def ofContent (path : String) : Except FileError (List UInt8) → FileLines
  | .ok bytes =>
      let reading := Lines.read bytes
      ⟨path, reading.lines, reading.badLine.map fun n => .line path n .notText⟩
  | .error .isDirectory => ⟨path, [], some (.line path 1 .isDirectory)⟩
  | .error e => ⟨path, [], some (.file path e)⟩

def values {α : Type} (file : FileLines) (parse? : String → Option α) : List α :=
  (Loading.ofLines parse? file.lines).values

def unparsable {α : Type} (file : FileLines) (parse? : String → Option α) : List String :=
  (Loading.ofLines parse? file.lines).unparsable

end FileLines

end ContentPolicy
