import ContentPolicy.Source
import ContentPolicy.Uri.Reference

/-!
Reading sources. A scheme that is written must be known; a query is ignored, and escapes in the path
are resolved. A text that is no source gives `Source.invalid`.
-/

namespace ContentPolicy

structure SourceParser where
  knownSchemes : SchemePorts
  deriving DecidableEq

namespace SourceParser

def standard : SourceParser := ⟨.standard⟩

def keyword? (word : List Char) : Option Source :=
  if Text.spells word "'unsafe-eval'" then some .unsafeEval
  else if Text.spells word "'unsafe-inline'" then some .unsafeInline
  else if Text.spells word "'self'" then some .self
  else if word = ['*'] then some .any
  else none

/-- The pattern for a written port, if any: `none` when it is out of range. -/
def readPort? : Option (List Char) → Option (Option PortPattern)
  | none => some none
  | some ['*'] => some (some .any)
  | some digits => (Port.ofDigits? digits).map fun port => some (.number port)

def readLocated? (p : SourceParser) (scheme : Option String) (authority : Authority)
    (path : List Char) : Option UriPattern := do
  let scheme ← match scheme with
    | none => some ""
    | some scheme => if p.knownSchemes.contains scheme then some scheme else none
  let port ← readPort? authority.port
  let path ← Percent.decode (String.ofList path)
  return .make scheme (String.ofList authority.host) port path

def read (p : SourceParser) (text : List Char) : Source :=
  match keyword? (Text.trim text) with
  | some source => source
  | none =>
      match Reference.ofText p.knownSchemes Authority.ofSource? text with
      | .empty | .invalid => .invalid
      | .schemeOnly scheme => .uri (.ofScheme scheme)
      | .withData scheme data =>
          if p.knownSchemes.contains scheme then .uri (.make scheme (String.ofList data) none "")
          else .invalid
      | .located scheme authority path _ =>
          match p.readLocated? scheme authority path with
          | some pattern => .uri pattern
          | none => .invalid

def parse (p : SourceParser) (text : String) : Source := p.read text.toList

end SourceParser

end ContentPolicy
