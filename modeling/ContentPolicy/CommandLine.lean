import ContentPolicy.CommandLine.Invocation
import ContentPolicy.Config.Schema
import ContentPolicy.Log.Filter
import ContentPolicy.Settings.Resolution
import ContentPolicy.Task

/-!
The program on its command line: what it prints, which messages it logs, and how it ends. Files are
reached through whatever access to them is given.
-/

namespace ContentPolicy

inductive CommandError where
  | readConfig (path : String) (e : FileError)
  | settings (path : String) (e : SettingsError)
  | task (e : TaskError)
  | generation (e : GenerationError)
  | writeReceipt (name : String) (e : WriteError)
  deriving DecidableEq

def CommandError.message : CommandError → String
  | .readConfig path e => s!"read config: {path}: {e.message}"
  | .settings path e => s!"config: {path}: {e.message}"
  | .task e => e.message
  | .generation e => e.message
  | .writeReceipt name (.directory path e) =>
      s!"write {name} receipt: create directory: {path}: {e.message}"
  | .writeReceipt name (.file path e) => s!"write {name} receipt: write: {path}: {e.message}"

inductive Ending where
  | done
  | blocked
  | failed (e : CommandError)
  | misused
  deriving DecidableEq

structure Outcome where
  output : String := ""
  log : List LogEvent := []
  ending : Ending := .done

namespace Outcome

def exitCode (o : Outcome) : Nat :=
  match o.ending with
  | .done => 0
  | .blocked | .misused => 2
  | .failed _ => 1

def failed (e : CommandError) : Outcome := { ending := .failed e }

def lines (texts : List String) : Outcome := { output := String.join (texts.map (· ++ "\n")) }

def complaint? (o : Outcome) : Option String :=
  match o.ending with
  | .failed e => some s!"cspkit error: {e.message}"
  | _ => none

end Outcome

namespace CommandLine

def version : String := "cspkit 0.1.0"

def help : List String :=
  [ "Content Security Policy parsing, matching, and policy generation",
    "",
    "cspkit normalize POLICY [--strip-paths] [--basic]",
    "cspkit match POLICY --resource URI --type TYPE --document URI [--json]",
    "cspkit combine POLICY...",
    "cspkit compare POLICY POLICY [--out FILE]",
    "cspkit generate --reports FILE [--report-type TYPE] [--strip-paths] [--out FILE]",
    "cspkit generate --log-entries FILE [--strip-paths] [--out FILE]",
    "cspkit schema",
    "",
    "all commands: [--config FILE] [--profile strict|lenient] [--lenient] [--log-level FILTER]" ]

section
variable {m : Type → Type} [Monad m] (files : FileAccess m)

def configText (path : String) : m (Except CommandError String) := do
  if ← files.isThere path then
    match ← files.read path with
    | .error e => return .error (.readConfig path e)
    | .ok bytes =>
        match String.fromUTF8? bytes.toByteArray with
        | none => return .error (.readConfig path .notText)
        | some text => return .ok text
  else return .ok ""

def loadSettings (i : Invocation) : m (Except CommandError Settings) := do
  match ← configText files i.config with
  | .error e => return .error e
  | .ok text =>
      let overrides := { profile := i.profile, strict := if i.lenient then some false else none }
      return (Settings.load text overrides).mapError (.settings i.config)

def writeReceipt (name : String) (receipt : Json) (path : Option String) (o : Outcome) :
    m Outcome := do
  match path with
  | none => return o
  | some path =>
      match ← files.create path (Lines.write [receipt.prettyText]) with
      | .error e => return { o with ending := .failed (.writeReceipt name e) }
      | .ok () => return o

def perform (s : Settings) (filter : LogFilter) : Job → m Outcome
  | .normalize policy stripPaths basic =>
      match s.normalize policy stripPaths with
      | .error e => return .failed (.task e)
      | .ok normal =>
          return .lines (if basic then normal.basics.map Policy.text else [normal.policy.text])
  | .check policy resource type document json =>
      match s.check policy resource type document with
      | .error e => return .failed (.task e)
      | .ok receipt =>
          let answer := if receipt.allowed then "allowed" else "blocked"
          let shown := if json then receipt.toJson.prettyText else answer
          let ending := if receipt.allowed then Ending.done else .blocked
          return { Outcome.lines [shown] with ending }
  | .combine policies =>
      match s.combine policies with
      | .error e => return .failed (.task e)
      | .ok combined => return .lines [combined.text]
  | .compare left right out =>
      match s.compare left right with
      | .error e => return .failed (.task e)
      | .ok receipt =>
          if out.isSome then writeReceipt files "comparison" receipt.toJson out {}
          else return .lines [receipt.toJson.prettyText]
  | .generate source path stripPaths out => do
      let file := FileLines.ofContent path (← files.read path)
      let run := s.generate source stripPaths file
      let log := run.log.filter filter.passes
      match run.result with
      | .error e => return { Outcome.failed (.generation e) with log }
      | .ok g =>
          writeReceipt files "generate" g.receipt.toJson out
            { Outcome.lines [g.policy.text] with log }

def run (args : List String) : m Outcome := do
  match Invocation.ofArguments args with
  | .error .misused => return { ending := .misused }
  | .error .help => return .lines help
  | .error .version => return .lines [version]
  | .ok i =>
      match i.command with
      | .schema => return .lines [Config.jsonSchema.prettyText]
      | .job j =>
          match ← loadSettings files i with
          | .error e => return .failed e
          | .ok s => perform files s (.ofText i.logLevel) j

end

end CommandLine

end ContentPolicy
