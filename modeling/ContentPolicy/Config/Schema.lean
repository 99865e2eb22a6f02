import ContentPolicy.Json

/-!
The format of configurations: the entries of each section with the kinds of their values, and a JSON
schema made from them.
-/

namespace ContentPolicy.Config

inductive EntryKind where
  | text
  | switch
  | port
  | texts
  | textTable
  | part (name : String)
  | parts (name : String)
  deriving DecidableEq

structure Section where
  name : String
  entries : List (String × EntryKind)
  deriving DecidableEq

namespace Section

/-- The names of the entries, in the order in which an array would hold their values. -/
def names (s : Section) : List String := s.entries.map Prod.fst

def uri : Section where
  name := "UriConfig"
  entries :=
    [ ("add_scheme", .switch), ("default_scheme", .text), ("add_port", .switch),
      ("default_port", .port), ("decode", .switch) ]

def scheme : Section where
  name := "SchemeConfig"
  entries := [("port", .port)]

def directives : Section where
  name := "DirectivesConfig"
  entries :=
    [ ("allowed", .texts), ("ignored", .texts), ("default_src_types", .texts),
      ("scheme_only", .texts), ("translations", .textTable) ]

def report : Section where
  name := "ReportConfig"
  entries :=
    [ ("uri_keys", .texts), ("directive_keys", .texts), ("policy_keys", .texts),
      ("required_keys", .texts), ("add_scheme", .switch), ("add_port", .switch),
      ("expand_default_src", .switch), ("key_renames", .textTable) ]

def whole : Section where
  name := "CspkitConfigV1"
  entries :=
    [ ("schema", .text), ("profile", .text), ("strict", .switch), ("expand_default_src", .switch),
      ("uri", .part uri.name), ("schemes", .parts scheme.name), ("port_schemes", .textTable),
      ("directives", .part directives.name), ("report", .part report.name) ]

end Section

def typed (type : String) (members : List (String × Json)) : Json :=
  .object (("type", .string type) :: members)

def reference (name : String) : Json := .object [("$ref", .string ("#/definitions/" ++ name))]

def EntryKind.schema : EntryKind → Json
  | .text => typed "string" []
  | .switch => typed "boolean" []
  | .port => typed "integer" [("minimum", .ofNat 0), ("maximum", .ofNat 65535)]
  | .texts => typed "array" [("items", typed "string" [])]
  | .textTable => typed "object" [("additionalProperties", typed "string" [])]
  | .part name => reference name
  | .parts name => typed "object" [("additionalProperties", reference name)]

def Section.properties (s : Section) : Json :=
  .object (s.entries.map fun e => (e.1, e.2.schema))

def Section.schema (s : Section) : Json := typed "object" [("properties", s.properties)]

def jsonSchema : Json :=
  typed "object"
    [ ("title", .string Section.whole.name), ("properties", Section.whole.properties),
      ( "definitions",
        .object ([Section.directives, .report, .scheme, .uri].map fun s => (s.name, s.schema)) ) ]

end ContentPolicy.Config
