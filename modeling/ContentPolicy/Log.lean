/-!
Messages about the progress of a task: how urgent each is, where it comes from, and what it says.
-/

namespace ContentPolicy

inductive LogLevel where
  | error
  | warning
  | info
  | debug
  | trace
  deriving DecidableEq

inductive LogEvent where
  | unparsableLine (kind path line : String)
  | generated (entries policies skipped : Nat)
  deriving DecidableEq

namespace LogLevel

def rank : LogLevel → Nat
  | .error => 1
  | .warning => 2
  | .info => 3
  | .debug => 4
  | .trace => 5

def name : LogLevel → String
  | .error => "error"
  | .warning => "warn"
  | .info => "info"
  | .debug => "debug"
  | .trace => "trace"

def all : List LogLevel := [.error, .warning, .info, .debug, .trace]

end LogLevel

namespace LogEvent

def level : LogEvent → LogLevel
  | .unparsableLine .. => .warning
  | .generated .. => .info

def origin : LogEvent → String
  | .unparsableLine .. => "cspkit_store::reader"
  | .generated .. => "cspkit_app::generate"

def text : LogEvent → String
  | .unparsableLine .. => "could not parse line"
  | .generated .. => "generated policy"

def details : LogEvent → List (String × String)
  | .unparsableLine kind path line => [("kind", kind), ("path", path), ("line", line)]
  | .generated entries policies skipped =>
      [ ("entries_read", toString entries), ("policies_generated", toString policies),
        ("entries_skipped", toString skipped) ]

def fieldNames (e : LogEvent) : List String := "message" :: e.details.map Prod.fst

def message (e : LogEvent) : String :=
  String.join (e.text :: e.details.map fun d => s!" {d.1}={d.2}")

end LogEvent

end ContentPolicy
