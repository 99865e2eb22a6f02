import ContentPolicy.CommandLine.Arguments
import ContentPolicy.ReportType
import ContentPolicy.Task.Generation

/-!
Invocations: what the arguments of the program ask for. The options that concern all commands may
stand before the name of the command or behind it; behind it they count more.
-/

namespace ContentPolicy

inductive Job where
  | normalize (policy : String) (stripPaths basic : Bool)
  | check (policy resource type document : String) (json : Bool)
  | combine (policies : List String)
  | compare (left right : String) (out : Option String)
  | generate (source : EventSource) (path : String) (stripPaths : Bool) (out : Option String)
  deriving DecidableEq

inductive Command where
  | job (j : Job)
  | schema
  deriving DecidableEq

structure Invocation where
  /-- The path of the configuration; a file that is not there stands for an empty one. -/
  config : String
  profile : Option String
  lenient : Bool
  logLevel : String
  command : Command
  deriving DecidableEq

namespace Invocation

def valued (name : String) : OptionForm := { name }

def switch (name : String) : OptionForm := { name, takesValue := false }

def helpSwitch : OptionForm := { switch "help" with letter := some 'h' }

def versionSwitch : OptionForm := { switch "version" with letter := some 'V' }

def outOption : OptionForm := { valued "out" with letter := some 'o' }

def reportTypeOption : OptionForm :=
  { valued "report-type" with choices := some (ReportType.all.map ReportType.name) }

def commonForms : List OptionForm :=
  [valued "config", valued "profile", switch "lenient", valued "log-level", helpSwitch]

def outerForm : ArgumentForm := ⟨versionSwitch :: commonForms, .command⟩

def formOf (command : String) : Option ArgumentForm :=
  match command with
  | "normalize" => some ⟨[switch "strip-paths", switch "basic"], .atMost 1⟩
  | "match" =>
      some ⟨[valued "resource", valued "type", valued "document", switch "json"], .atMost 1⟩
  | "combine" => some ⟨[], .any⟩
  | "compare" => some ⟨[outOption], .atMost 2⟩
  | "generate" =>
      let options :=
        [ valued "reports", reportTypeOption, valued "log-entries", switch "strip-paths",
          outOption ]
      some ⟨options, .atMost 0⟩
  | "schema" => some ⟨[], .atMost 0⟩
  | _ => none

def required (a : Arguments) (name : String) : Except Refusal String :=
  match a.value? name with
  | some value => .ok value
  | none => .error .misused

/-- The file of events and what it holds: exactly one of two options says so. -/
def eventSource (a : Arguments) : Except Refusal (EventSource × String) :=
  match ReportType.ofName? ((a.value? "report-type").getD ReportType.regular.name),
    a.value? "reports", a.value? "log-entries" with
  | some type, some path, none => .ok (.reports type, path)
  | some _, none, some path => .ok (.logEntries, path)
  | _, _, _ => .error .misused

def commandOf (name : String) (a : Arguments) : Except Refusal Command :=
  match name, a.operands with
  | "normalize", [policy] =>
      .ok (.job (.normalize policy (a.has "strip-paths") (a.has "basic")))
  | "match", [policy] => do
      return .job (.check policy (← required a "resource") (← required a "type")
        (← required a "document") (a.has "json"))
  | "combine", policy :: others => .ok (.job (.combine (policy :: others)))
  | "compare", [left, right] => .ok (.job (.compare left right (a.value? "out")))
  | "generate", [] => do
      let (source, path) ← eventSource a
      return .job (.generate source path (a.has "strip-paths") (a.value? "out"))
  | "schema", [] => .ok .schema
  | _, _ => .error .misused

/-- What asking for help with a command comes to: each word must name a command. -/
def helpFor (words : List String) : Refusal :=
  match words with
  | [] | ["help"] => .help
  | [command] => if (formOf command).isSome then .help else .misused
  | _ => .misused

def ofArguments (args : List String) : Except Refusal Invocation := do
  match ← Arguments.read outerForm {} args with
  | (_, []) => .error .misused
  | (_, "help" :: words) => .error (helpFor words)
  | (before, name :: rest) =>
      match formOf name with
      | none => .error .misused
      | some form =>
          let (a, _) ← Arguments.read { form with options := form.options ++ commonForms } {} rest
          let command ← commandOf name a
          let value? (option : String) := (a.value? option).or (before.value? option)
          return {
            config := (value? "config").getD "cspkit.toml"
            profile := value? "profile"
            lenient := (value? "lenient").isSome
            logLevel := (value? "log-level").getD "warn"
            command }

end Invocation

end ContentPolicy
