import ContentPolicy.CommandLine

/-!
The program `cspkit` on the files of the machine.
-/

namespace ContentPolicy.CommandLine

/-- The number that the system gives a cause; some calls give it with a minus sign. -/
def causeNumber (n : UInt32) : Nat := (if n.toInt32 < 0 then -n else n).toNat

def fileError : IO.Error → FileError
  | .noFileOrDirectory .. => .missing
  | .alreadyExists .. => .present
  | .inappropriateType _ n _ => if causeNumber n = 20 then .notDirectory else .isDirectory
  | .invalidArgument _ n _ => if causeNumber n = 36 then .nameTooLong else .nul
  | e => .other (toString e)

def attempt {α : Type} (action : IO α) : IO (Except FileError α) := do
  return (← action.toBaseIO).mapError fileError

def machineFiles : FileAccess IO where
  isThere path := do return (← attempt (IO.FS.realPath path)).toBool
  read path := do return (← attempt (IO.FS.readBinFile path)).map ByteArray.toList
  makeDirectory path := attempt (IO.FS.createDir path)
  write path bytes := attempt (IO.FS.writeBinFile path bytes.toByteArray)

def start (args : List String) : IO UInt32 := do
  let outcome ← run machineFiles args
  for event in outcome.log do
    IO.eprintln s!"{event.level.name}: {event.message}"
  IO.print outcome.output
  match outcome.ending, outcome.complaint? with
  | .misused, _ => for line in help do IO.eprintln line
  | _, some complaint => IO.eprintln complaint
  | _, none => pure ()
  return UInt32.ofNat outcome.exitCode

end ContentPolicy.CommandLine

def main (args : List String) : IO UInt32 := ContentPolicy.CommandLine.start args
