import ContentPolicy.Directive.Parser
import ContentPolicy.Policy

/-!
Reading policies: directives between semicolons, of which the first of each type counts. A strict
reader rejects the whole policy for one segment that is no directive, blank segments included; a
text without a directive is no policy for any reader.
-/

namespace ContentPolicy

structure PolicyParser where
  directive : DirectiveParser
  /-- Segments that start with one of these types are skipped. -/
  ignoredTypes : List String
  /-- Replace the directive for all types by copies for the types that have none of their own. -/
  expandDefaultSrc : Bool
  defaultSrcTypes : List String
  deriving DecidableEq

namespace PolicyParser

def standardIgnoredTypes : List String :=
  ["plugin-types", "referrer", "reflected-xss", "report-uri", "sandbox"]

def standardDefaultSrcTypes : List String :=
  [ "child-src", "connect-src", "font-src", "img-src", "media-src", "object-src", "script-src",
    "style-src" ]

def standard : PolicyParser where
  directive := .standard
  ignoredTypes := standardIgnoredTypes
  expandDefaultSrc := true
  defaultSrcTypes := standardDefaultSrcTypes

def strict (p : PolicyParser) : Bool := p.directive.strict

def withStrict (p : PolicyParser) (strict : Bool) : PolicyParser :=
  { p with directive := { p.directive with strict } }

def isIgnored (p : PolicyParser) (segment : List Char) : Bool :=
  match Text.words segment with
  | [] => false
  | word :: _ => p.ignoredTypes.any (Text.spells word)

def readSegments (p : PolicyParser) (text : List Char) : List Directive :=
  ((text.splitOn ';').filter fun s => !p.isIgnored s).map p.directive.read

/-- The first valid directive of each type. A browser's phrase takes the place of its type. -/
def firstOfEachType (directives : List Directive) : SortedMap String Directive :=
  (directives.filter (· ≠ .invalid)).foldl (fun m d => m.insertNew d.type d) ∅

/-- Gives each type that has no directive a copy of the one for all types, which is dropped. -/
def expand (types : List String) (m : SortedMap String Directive) : SortedMap String Directive :=
  match m.get? Policy.defaultType with
  | none => m
  | some default =>
      types.foldl (fun m type => m.insertNew type (.make type default.sources.toList))
        (m.erase Policy.defaultType)

def read (p : PolicyParser) (text : List Char) : Policy :=
  let segments := p.readSegments text
  if p.strict && segments.contains .invalid then .invalid
  else
    let first := firstOfEachType segments
    let byType := if p.expandDefaultSrc then expand p.defaultSrcTypes first else first
    -- Phrases alone make a policy, although one without directives.
    if byType.isEmpty then .invalid else .ofDirectives byType.values

def parse (p : PolicyParser) (text : String) : Policy := p.read text.toList

end PolicyParser

end ContentPolicy
