import ContentPolicy.Config.Reader
import ContentPolicy.Settings
import ContentPolicy.Text.Quoted

/-!
Settings from a configuration: those of the profile, changed entry by entry. First come the tables
and the switches outside reports, then reports take over the tables for policies as they are by then
and are changed in what is their own, and strictness comes last. The first fault of the
configuration is the answer, in the order in which its entries are taken up.
-/

namespace ContentPolicy

/-- What the caller asks for, whatever the configuration says. -/
structure Overrides where
  profile : Option String := none
  strict : Option Bool := none
  deriving DecidableEq

inductive SchemePlace where
  | schemes
  | port (p : Port)
  | defaultScheme
  deriving DecidableEq

inductive ConfigError where
  | schemeName (place : SchemePlace) (name : String)
  | port (text : String) (fault : PortFault)
  /-- A type that falls back to the directive for all types, but is not allowed itself. -/
  | typeNotAllowed (type : String)
  | repeatedKey (key : String)
  deriving DecidableEq

inductive SettingsError where
  | text (e : ConfigTextError)
  | config (e : ConfigError)
  deriving DecidableEq

def SchemePlace.text : SchemePlace → String
  | .schemes => "invalid [schemes] entry"
  | .port p => s!"invalid scheme for port {p.toNat}"
  | .defaultScheme => "invalid uri.default_scheme"

def ConfigError.message : ConfigError → String
  | .schemeName place name =>
      s!"{place.text}: invalid scheme name: {Text.quoted name} " ++
        "(expected lowercase letters, digits, '+', '-' or '.')"
  | .port text fault => s!"invalid port in [port_schemes]: {text}: {fault.message}"
  | .typeNotAllowed type => s!"default-src type {type} is not an allowed directive type"
  | .repeatedKey key =>
      s!"report key {key} is listed more than once across uri_keys, directive_keys and policy_keys"

def ConfigTextError.message : ConfigTextError → String
  | .malformed => "TOML parse error"
  | .schema name => s!"unsupported config schema: {name} (expected {Config.schemaName})"

def SettingsError.message : SettingsError → String
  | .text e => s!"parse config: {e.message}"
  | .config e => s!"resolve config: {e.message}"

def firstRepeated? (seen : List String) : List String → Option String
  | [] => none
  | a :: rest => if a ∈ seen then some a else firstRepeated? (a :: seen) rest

/-- What a configuration says about tables and about what stands alone, one entry each. An entry
that is not given changes nothing. -/
inductive TableChange where
  | scheme (name : String) (port : Option Port)
  | portScheme (port scheme : String)
  | addScheme (given : Option Bool)
  | defaultScheme (given : Option String)
  | addPort (given : Option Bool)
  | defaultPort (given : Option Port)
  | decode (given : Option Bool)
  | renamedType (name current : String)
  | allowedTypes (given : Option (List String))
  | ignoredTypes (given : Option (List String))
  | defaultSrcTypes (given : Option (List String))
  | schemeOnly (given : Option (List String))

inductive ReportChange where
  | uriKeys (given : Option (List String))
  | directiveKeys (given : Option (List String))
  | policyKeys (given : Option (List String))
  | requiredKeys (given : Option (List String))
  | keyRename (name current : String)
  | addScheme (given : Option Bool)
  | addPort (given : Option Bool)
  | expandDefaultSrc (given : Option Bool)

namespace Config

def checkScheme (place : SchemePlace) (name : String) : Except ConfigError Unit :=
  if Scheme.isName name then .ok () else .error (.schemeName place name)

def checkTypes (p : PolicyParser) : Except ConfigError Unit :=
  match p.defaultSrcTypes.find? fun t => !p.directive.allowedTypes.contains t with
  | some type => .error (.typeNotAllowed type)
  | none => .ok ()

def checkKeys (p : ReportParser) : Except ConfigError Unit :=
  match firstRepeated? [] (p.uriKeys ++ p.directiveKeys ++ p.policyKeys) with
  | some key => .error (.repeatedKey key)
  | none => .ok ()

def typeNames (names : List String) : List String :=
  names.map fun n => String.ofList (Text.lower (Text.trim n.toList))

end Config

namespace Settings

open Config

def changeTables (s : Settings) : TableChange → Except ConfigError Settings
  | .scheme name port => do
      checkScheme .schemes name
      return { s with
        uri.schemePorts := s.uri.schemePorts.add name port
        report.uri.schemePorts := s.report.uri.schemePorts.add name port
        policy.directive.knownSchemes := s.policy.directive.knownSchemes.add name port }
  | .portScheme text scheme => do
      let port ← (Port.parse text).mapError (ConfigError.port text)
      checkScheme (.port port) scheme
      return { s with
        uri.portSchemes := s.uri.portSchemes.add port scheme
        report.uri.portSchemes := s.report.uri.portSchemes.add port scheme }
  | .addScheme given => return { s with uri.addScheme := given.getD s.uri.addScheme }
  | .defaultScheme given => do
      given.toList.forM (checkScheme .defaultScheme)
      return { s with
        uri.defaultScheme := given.getD s.uri.defaultScheme
        report.uri.defaultScheme := given.getD s.report.uri.defaultScheme }
  | .addPort given => return { s with uri.addPort := given.getD s.uri.addPort }
  | .defaultPort given =>
      return { s with
        uri.defaultPort := given.getD s.uri.defaultPort
        report.uri.defaultPort := given.getD s.report.uri.defaultPort }
  | .decode given =>
      return { s with
        uri.decode := given.getD s.uri.decode
        report.uri.decode := given.getD s.report.uri.decode }
  | .renamedType name current =>
      return { s with
        policy.directive.renamedTypes :=
          s.policy.directive.renamedTypes.insert name.toLower current.toLower }
  | .allowedTypes given =>
      return { s with
        policy.directive.allowedTypes :=
          (given.map typeNames).getD s.policy.directive.allowedTypes }
  | .ignoredTypes given =>
      return { s with policy.ignoredTypes := (given.map typeNames).getD s.policy.ignoredTypes }
  | .defaultSrcTypes given =>
      return { s with
        policy.defaultSrcTypes := (given.map typeNames).getD s.policy.defaultSrcTypes }
  | .schemeOnly given => return { s with schemeOnly := (given.map typeNames).getD s.schemeOnly }

def changeReport (s : Settings) : ReportChange → Settings
  | .uriKeys given => { s with report.uriKeys := given.getD s.report.uriKeys }
  | .directiveKeys given => { s with report.directiveKeys := given.getD s.report.directiveKeys }
  | .policyKeys given => { s with report.policyKeys := given.getD s.report.policyKeys }
  | .requiredKeys given => { s with report.requiredKeys := given.getD s.report.requiredKeys }
  | .keyRename name current =>
      { s with report.keyRenames := s.report.keyRenames.insert (Text.lowerCase name) current }
  | .addScheme given => { s with report.uri.addScheme := given.getD s.report.uri.addScheme }
  | .addPort given => { s with report.uri.addPort := given.getD s.report.uri.addPort }
  | .expandDefaultSrc given =>
      { s with report.policy.expandDefaultSrc := given.getD s.report.policy.expandDefaultSrc }

def changeExpansion (s : Settings) (given : Option Bool) : Settings :=
  { s with policy.expandDefaultSrc := given.getD s.policy.expandDefaultSrc }

/-- Gives reports the tables for policies, but not the switch for the directive for all types. -/
def shareTables (s : Settings) : Settings :=
  { s with
    report.policy.directive := s.policy.directive
    report.policy.ignoredTypes := s.policy.ignoredTypes
    report.policy.defaultSrcTypes := s.policy.defaultSrcTypes }

def settleStrictness (s : Settings) (given : Option Bool) : Settings :=
  let strict := given.getD s.strict
  { s with
    strict
    policy.directive.strict := strict
    report.strict := strict
    report.policy.directive.strict := strict }

end Settings

def UriConfig.changes (u : UriConfig) : List TableChange :=
  [ .addScheme u.addScheme, .defaultScheme u.defaultScheme, .addPort u.addPort,
    .defaultPort u.defaultPort, .decode u.decode ]

def DirectivesConfig.changes (d : DirectivesConfig) : List TableChange :=
  d.renamedTypes.entries.map (fun e => .renamedType e.1 e.2) ++
  [ .allowedTypes d.allowed, .ignoredTypes d.ignored, .defaultSrcTypes d.defaultSrcTypes,
    .schemeOnly d.schemeOnly ]

def ReportConfig.changes (r : ReportConfig) : List ReportChange :=
  [ .uriKeys r.uriKeys, .directiveKeys r.directiveKeys, .policyKeys r.policyKeys,
    .requiredKeys r.requiredKeys ] ++
  (r.keyRenames.entries.map (fun e => .keyRename e.1 e.2) ++
  [.addScheme r.addScheme, .addPort r.addPort, .expandDefaultSrc r.expandDefaultSrc])

namespace Config

def selectedProfile (c : Config) (o : Overrides) : Profile :=
  ((o.profile.or c.profile).map Profile.ofName).getD .strict

def tableChanges (c : Config) : List TableChange :=
  c.schemes.entries.map (fun e => .scheme e.1 e.2) ++
  (c.portSchemes.entries.map (fun e => .portScheme e.1 e.2) ++
  (c.uri.changes ++ c.directives.changes))

def resolve (c : Config) (o : Overrides) : Except ConfigError Settings := do
  let s ← c.tableChanges.foldlM Settings.changeTables (.ofProfile (c.selectedProfile o))
  checkTypes s.policy
  -- Reports share the tables as they are now, and keep switches of their own.
  let shared := (s.changeExpansion c.expandDefaultSrc).shareTables
  let changed := c.report.changes.foldl Settings.changeReport shared
  checkKeys changed.report
  return changed.settleStrictness (o.strict.or c.strict)

end Config

namespace Settings

def load (text : String) (o : Overrides) : Except SettingsError Settings := do
  let config ← (Config.ofText text).mapError .text
  (config.resolve o).mapError .config

end Settings

end ContentPolicy
