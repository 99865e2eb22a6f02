import ContentPolicy.Uri
import ContentPolicy.Uri.Reference

/-!
Reading URIs. The name of a user and the fragment are always dropped; scheme and host come out in
lower case, except for the data of a scheme without slashes. A text that is no URI gives
`Uri.invalid`, a blank one `Uri.empty`.
-/

namespace ContentPolicy

/-- How URIs are read: what is filled in where a component is missing, and whether escapes in the
path are resolved. -/
structure UriParser where
  /-- Fill in a missing scheme: the one that the port suggests, or else `defaultScheme`. -/
  addScheme : Bool
  defaultScheme : String
  /-- Fill in a missing port: the one that the scheme has, or for an unknown scheme
  `defaultPort`. -/
  addPort : Bool
  defaultPort : Port
  schemePorts : SchemePorts
  portSchemes : PortSchemes
  decode : Bool
  deriving DecidableEq

namespace UriParser

def standard : UriParser where
  addScheme := true
  defaultScheme := "http"
  addPort := false
  defaultPort := 80
  schemePorts := .standard
  portSchemes := .standard
  decode := true

def inferredScheme (p : UriParser) (port : Option Port) : String :=
  (port.bind p.portSchemes.get?).getD p.defaultScheme

/-- The port of a URI in which it is missing. A known scheme without a port adds none. -/
def inferredPort (p : UriParser) (scheme : Option String) : Option Port :=
  match scheme.bind p.schemePorts.get? with
  | some known => known
  | none => some p.defaultPort

def fillScheme (p : UriParser) (scheme : Option String) (port : Option Port) : Option String :=
  match scheme with
  | some given => some given
  | none => if p.addScheme then some (p.inferredScheme port) else none

def fillPort (p : UriParser) (scheme : Option String) (port : Option Port) : Option Port :=
  match port with
  | some given => some given
  | none => if p.addPort then p.inferredPort scheme else none

def decodePath? (p : UriParser) (path : List Char) : Option String :=
  if p.decode then Percent.decode (String.ofList path) else some (String.ofList path)

/-- The port that was written, if any: `none` when it is out of range. -/
def readPort? : Option (List Char) → Option (Option Port)
  | none => some none
  | some digits => (Port.ofDigits? digits).map some

def readLocated? (p : UriParser) (scheme : Option String) (authority : Authority)
    (path query : List Char) : Option Location := do
  let port ← readPort? authority.port
  let path ← p.decodePath? path
  let scheme := p.fillScheme scheme port
  return {
    scheme := scheme.getD "", host := String.ofList authority.host,
    port := p.fillPort scheme port, path, query := String.ofList query }

def read (p : UriParser) (text : List Char) : Uri :=
  match Reference.ofText p.schemePorts Authority.ofUri? text with
  | .empty => .empty
  | .invalid => .invalid
  | .schemeOnly scheme => .ofScheme scheme
  | .withData scheme data => .regular { Location.ofScheme scheme with host := String.ofList data }
  | .located scheme authority path query =>
      match p.readLocated? scheme authority path query with
      | some location => .regular location
      | none => .invalid

def parse (p : UriParser) (text : String) : Uri := p.read text.toList

end UriParser

end ContentPolicy
