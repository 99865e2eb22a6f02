import ContentPolicy.LogEntry.Parser

/-!
Settings: all that a task needs to know, complete and checked.
-/

namespace ContentPolicy

/-- Named settings to start from; they differ in strictness alone. -/
inductive Profile where
  | strict
  | lenient
  deriving DecidableEq

namespace Profile

def name : Profile → String
  | .strict => "strict"
  | .lenient => "lenient"

/-- The profile with the name; an unknown name stands for the strict one. -/
def ofName (name : String) : Profile := if name = Profile.lenient.name then .lenient else .strict

def isStrict (p : Profile) : Bool := p = .strict

end Profile

structure Settings where
  profile : Profile
  strict : Bool
  /-- For URIs that stand alone, such as resources and documents. -/
  uri : UriParser
  policy : PolicyParser
  report : ReportParser
  /-- The schemes whose sources keep nothing but the scheme when paths are stripped. -/
  schemeOnly : List String
  deriving DecidableEq

namespace Settings

/-- The settings that a profile stands for. Policies in reports are read by the standard tables
whatever the profile says. -/
def ofProfile (p : Profile) : Settings where
  profile := p
  strict := p.isStrict
  uri := .standard
  policy := PolicyParser.standard.withStrict p.isStrict
  report := { ReportParser.standard with strict := p.isStrict }
  schemeOnly := Scheme.reducedToScheme

def schemePorts (s : Settings) : SchemePorts := s.uri.schemePorts

/-- Reads the reports in log entries; policies in them keep their directive for all types. -/
def logEntry (s : Settings) : LogEntryParser :=
  { LogEntryParser.standard with
    report := { s.report with policy := { s.report.policy with expandDefaultSrc := false } } }

end Settings

end ContentPolicy
