import ContentPolicy.Port
import ContentPolicy.Sorted.Map
import ContentPolicy.Text.Characters

/-!
Tables of URI schemes: the port that a scheme has by default, and the scheme that a port suggests.
A scheme may be known and still have no port, so looking a scheme up has three outcomes.
-/

namespace ContentPolicy

/-- The known schemes, each with its default port if it has one. -/
abbrev SchemePorts := SortedMap String (Option Port)

/-- The scheme that is taken for a port when a URI names none. -/
abbrev PortSchemes := SortedMap Port String

namespace Scheme

/-- The schemes that are followed by their data and not by a host: `scheme:data`. -/
def withoutSlashes : List String := ["data", "about", "view-source"]

def isName (name : String) : Bool :=
  name ≠ "" && name.toList.all fun c =>
    c.isLower || c.isDigit || c = '+' || c = '-' || c = '.'

def hasNoSlashes (scheme : String) : Bool := withoutSlashes.contains scheme

theorem hasNoSlashes_iff {scheme : String} :
    hasNoSlashes scheme = true ↔ scheme ∈ withoutSlashes := List.contains_iff_mem

/-- The schemes whose sources keep nothing but the scheme when paths are stripped. -/
def reducedToScheme : List String :=
  [ "data", "chrome-extension", "safari-extension", "chromenull", "chromeinvoke",
    "chromeinvokeimmediate", "mx", "moz-icon", "about", "view-source" ]

end Scheme

namespace SchemePorts

def add (table : SchemePorts) (scheme : String) (port : Option Port) : SchemePorts :=
  table.insert scheme.toLower port

def ofPairs (pairs : List (String × Option Port)) : SchemePorts :=
  pairs.foldl (fun table pair => table.add pair.1 pair.2) ∅

def defaultPort? (table : SchemePorts) (scheme : String) : Option Port := (table.get? scheme).join

def standard : SchemePorts :=
  ofPairs
    [ ("http", some 80), ("https", some 443), ("data", none), ("chrome-extension", none),
      ("safari-extension", none), ("chromenull", none), ("chromeinvoke", none),
      ("chromeinvokeimmediate", none), ("mx", none), ("moz-icon", none), ("about", none),
      ("view-source", none), ("se-extension", none), ("ws", none) ]

end SchemePorts

namespace PortSchemes

def add (table : PortSchemes) (port : Port) (scheme : String) : PortSchemes :=
  table.insert port scheme.toLower

def ofPairs (pairs : List (Port × String)) : PortSchemes :=
  pairs.foldl (fun table pair => table.add pair.1 pair.2) ∅

def standard : PortSchemes := ofPairs [(80, "http"), (443, "https"), (8080, "http")]

end PortSchemes

end ContentPolicy
