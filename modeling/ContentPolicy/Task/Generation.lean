import ContentPolicy.Lines
import ContentPolicy.Log
import ContentPolicy.Receipt
import ContentPolicy.Settings

/-!
Generating a policy from stored events: each report or log entry yields a policy that would have
allowed the event, and all of them are combined. Lines that cannot be read and events that no
policy allows are counted and skipped.
-/

namespace ContentPolicy

inductive EventSource where
  /-- Reports, all of one type. -/
  | reports (type : ReportType)
  /-- Log entries, each with the type of its report. -/
  | logEntries
  deriving DecidableEq

inductive GenerationError where
  | read (e : ReadError)
  | cannotCombine
  deriving DecidableEq

def GenerationError.message : GenerationError → String
  | .read e => s!"load entries: {e.message}"
  | .cannotCombine => "generated policies cannot be combined"

structure Generation where
  policy : Policy
  entriesRead : Nat
  policiesGenerated : Nat
  deriving DecidableEq

namespace Generation

/-- The entries that yielded no policy. -/
def entriesSkipped (g : Generation) : Nat := g.entriesRead - g.policiesGenerated

def receipt (g : Generation) : GenerationReceipt where
  policy := g.policy.text
  entriesRead := g.entriesRead
  policiesGenerated := g.policiesGenerated
  entriesSkipped := g.entriesSkipped

end Generation

structure GenerationRun where
  log : List LogEvent
  result : Except GenerationError Generation

def EventSource.entryName : EventSource → String
  | .reports _ => "report"
  | .logEntries => "log entry"

/-- Counts from reading entries and generating their policies. -/
structure Tally where
  parsed : Nat
  unparsable : Nat
  generated : Nat
  deriving DecidableEq

structure Gathered where
  policies : List Policy
  tally : Tally
  unparsable : List String

def Gathered.ofLines {α : Type} (parse? : String → Option α) (generate : α → Policy)
    (lines : List String) : Gathered :=
  let loaded := Loading.ofLines parse? lines
  let policies := (loaded.values.map generate).filter fun p => !p.isInvalid
  { policies
    tally := {
      parsed := loaded.values.length
      unparsable := loaded.skipped
      generated := policies.length }
    unparsable := loaded.unparsable }

namespace Settings

def readReport? (s : Settings) (line : String) : Option Report :=
  Option.guard (fun r => !r.isInvalid) (s.report.parse line)

def readLogEntry? (s : Settings) (line : String) : Option LogEntry :=
  Option.guard (fun e => !e.isInvalid) (s.logEntry.parse line)

def gather (s : Settings) : EventSource → List String → Gathered
  | .reports type => .ofLines s.readReport? fun r => r.generatePolicy type
  | .logEntries => .ofLines s.readLogEntry? LogEntry.generatePolicy

def addGenerated (combined p : Policy) : Option Policy :=
  Option.guard (fun q => !q.isInvalid) (combined.combine p)

def combineGathered (s : Settings) (stripPaths : Bool) (gathered : Gathered) :
    Option Generation := do
  let p ← gathered.policies.foldlM addGenerated .empty
  return {
    policy := if stripPaths then p.stripPaths s.schemeOnly else p
    entriesRead := gathered.tally.parsed + gathered.tally.unparsable
    policiesGenerated := gathered.tally.generated }

def generate (s : Settings) (source : EventSource) (stripPaths : Bool) (file : FileLines) :
    GenerationRun :=
  let gathered := s.gather source file.lines
  let messages := gathered.unparsable.map fun line =>
    LogEvent.unparsableLine source.entryName file.path line
  match file.error with
  | some e => ⟨messages, .error (.read e)⟩
  | none =>
      match s.combineGathered stripPaths gathered with
      | none => ⟨messages, .error .cannotCombine⟩
      | some g =>
          ⟨messages ++ [.generated g.entriesRead g.policiesGenerated g.entriesSkipped], .ok g⟩

end Settings

end ContentPolicy
