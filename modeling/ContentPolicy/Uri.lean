import ContentPolicy.Percent
import ContentPolicy.Scheme

/-!
URIs of resources and documents, and their written form. Beside located URIs there are two markers
for events that have no URI (inline code and dynamic evaluation) and two outcomes of reading a text
that names none.
-/

namespace ContentPolicy

/-- The components of a URI. A text component that is absent is the empty text; the path holds no
escapes. -/
structure Location where
  scheme : String
  host : String
  port : Option Port
  path : String
  query : String
  deriving DecidableEq

inductive Uri where
  | regular (location : Location)
  | empty
  | invalid
  /-- The event of running code that stands in the document. -/
  | inline
  /-- The event of running code made at run time. -/
  | eval
  deriving DecidableEq

namespace Location

def blank : Location := ⟨"", "", none, "", ""⟩

def ofScheme (scheme : String) : Location := { blank with scheme }

def isSchemeOnly (l : Location) : Bool :=
  l.scheme ≠ "" && l.host = "" && l.port = none && l.path = "" && l.query = ""

def withoutPath (l : Location) : Location := { l with path := "", query := "" }

def renderPort : Option Port → List Char
  | none => []
  | some port => ':' :: port.toDigits

def renderQuery (query : String) : List Char :=
  if query = "" then [] else '?' :: query.toList

def renderScheme (scheme : String) : List Char :=
  if scheme = "" then []
  else if Scheme.hasNoSlashes scheme then scheme.toList ++ [':']
  else scheme.toList ++ [':', '/', '/']

def render (l : Location) : List Char :=
  if l.isSchemeOnly then l.scheme.toList ++ [':']
  else
    renderScheme l.scheme ++ l.host.toList ++ renderPort l.port ++
      Percent.encodePath l.path.toList ++ renderQuery l.query

end Location

namespace Uri

def ofScheme (scheme : String) : Uri := .regular (.ofScheme scheme)

/-- The location of a URI; what is no located URI has no component. -/
def location : Uri → Location
  | .regular l => l
  | _ => .blank

def isRegular : Uri → Bool
  | .regular _ => true
  | _ => false

def withoutPath : Uri → Uri
  | .regular l => .regular l.withoutPath
  | other => other

def render : Uri → List Char
  | .regular l => l.render
  | .empty => []
  | .invalid => "[invalid]".toList
  | .inline => "[inline]".toList
  | .eval => "[eval]".toList

def text (u : Uri) : String := String.ofList u.render

end Uri

end ContentPolicy
