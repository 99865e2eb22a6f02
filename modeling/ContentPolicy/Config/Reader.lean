import ContentPolicy.Config
import ContentPolicy.Config.Schema
import ContentPolicy.Text.Characters
import ContentPolicy.Toml.Reader

/-!
Reading configurations from TOML. Entries with unknown names are skipped; a known entry with a value
of another kind spoils the text. A section may also be written as an array of its values in the
order of their names.
-/

namespace ContentPolicy

inductive ConfigTextError where
  /-- The text is no TOML, or an entry has a value of another kind. -/
  | malformed
  | schema (name : String)
  deriving DecidableEq

namespace Config

def schemaName : String := "cspkit.config.v1"

def readText? : Toml → Option String
  | .string s => some s
  | _ => none

def readBool? : Toml → Option Bool
  | .boolean b => some b
  | _ => none

def readPort? : Toml → Option Port
  | .integer n => if 0 ≤ n ∧ n < UInt16.size then some (UInt16.ofNat n.toNat) else none
  | _ => none

def readTexts? (v : Toml) : Option (List String) := v.items?.bind fun items => items.mapM readText?

/-- The entries of a table. A date counts as a table of one entry, its text under a name of its
own. -/
def tableEntries? : Toml → Option Toml.Entries
  | .date d => some [("$__toml_private_datetime", .string d.text)]
  | v => v.entries?

def readMap? {α : Type} (read? : Toml → Option α) (v : Toml) : Option (SortedMap String α) := do
  let pairs ← (← tableEntries? v).mapM fun e => (read? e.2).map fun a => (e.1, a)
  return .ofList pairs

/-- The entries of a table that gives a section. Those with unknown names must be readable too. -/
def knownEntries? (s : Section) (entries : Toml.Entries) : Option Toml.Entries :=
  let (known, unknown) := entries.partition fun e => s.names.contains e.1
  if Toml.areReadableEntries unknown then some known else none

/-- The entries that a value gives to a section. Items of an array beyond the entries of the section
are not looked at. -/
def sectionEntries? (s : Section) (v : Toml) : Option Toml.Entries :=
  match v.items? with
  | some items => some (s.names.zip items)
  | none => (tableEntries? v).bind (knownEntries? s)

def value? {α : Type} (entries : Toml.Entries) (name : String) (read? : Toml → Option α) :
    Option (Option α) :=
  match entries.lookup name with
  | none => some none
  | some v => (read? v).map some

/-- An entry that has a value also when it is missing. -/
def valueOr? {α : Type} (entries : Toml.Entries) (name : String) (read? : Toml → Option α)
    (missing : α) : Option α :=
  (value? entries name read?).map fun a? => a?.getD missing

def readUri? (v : Toml) : Option UriConfig := do
  let entries ← sectionEntries? .uri v
  return {
    addScheme := ← value? entries "add_scheme" readBool?
    defaultScheme := ← value? entries "default_scheme" readText?
    addPort := ← value? entries "add_port" readBool?
    defaultPort := ← value? entries "default_port" readPort?
    decode := ← value? entries "decode" readBool? }

def readScheme? (v : Toml) : Option (Option Port) := do
  let entries ← sectionEntries? .scheme v
  value? entries "port" readPort?

def readDirectives? (v : Toml) : Option DirectivesConfig := do
  let entries ← sectionEntries? .directives v
  return {
    allowed := ← value? entries "allowed" readTexts?
    ignored := ← value? entries "ignored" readTexts?
    defaultSrcTypes := ← value? entries "default_src_types" readTexts?
    schemeOnly := ← value? entries "scheme_only" readTexts?
    renamedTypes := ← valueOr? entries "translations" (readMap? readText?) ∅ }

def readReport? (v : Toml) : Option ReportConfig := do
  let entries ← sectionEntries? .report v
  return {
    uriKeys := ← value? entries "uri_keys" readTexts?
    directiveKeys := ← value? entries "directive_keys" readTexts?
    policyKeys := ← value? entries "policy_keys" readTexts?
    requiredKeys := ← value? entries "required_keys" readTexts?
    addScheme := ← value? entries "add_scheme" readBool?
    addPort := ← value? entries "add_port" readBool?
    expandDefaultSrc := ← value? entries "expand_default_src" readBool?
    keyRenames := ← valueOr? entries "key_renames" (readMap? readText?) ∅ }

def ofEntries? (entries : Toml.Entries) : Option Config := do
  let entries ← knownEntries? .whole entries
  return {
    schema := ← value? entries "schema" readText?
    profile := ← value? entries "profile" readText?
    strict := ← value? entries "strict" readBool?
    expandDefaultSrc := ← value? entries "expand_default_src" readBool?
    uri := ← valueOr? entries "uri" readUri? {}
    schemes := ← valueOr? entries "schemes" (readMap? readScheme?) ∅
    portSchemes := ← valueOr? entries "port_schemes" (readMap? readText?) ∅
    directives := ← valueOr? entries "directives" readDirectives? {}
    report := ← valueOr? entries "report" readReport? {} }

def ofText (text : String) : Except ConfigTextError Config :=
  if Text.isBlankText text.toList then .ok {}
  else
    match (Toml.parse? text).bind ofEntries? with
    | none => .error .malformed
    | some config =>
        match config.schema with
        | none => .ok config
        | some name => if name = schemaName then .ok config else .error (.schema name)

end Config

end ContentPolicy
