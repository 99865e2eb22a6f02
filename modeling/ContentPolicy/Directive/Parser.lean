import ContentPolicy.Directive
import ContentPolicy.Source.Parser

/-!
Reading directives: a type, a space, and the words for its sources. A strict reader rejects the
whole directive for one bad word, a lenient one drops the word.
-/

namespace ContentPolicy

structure DirectiveParser where
  renamedTypes : SortedMap String String
  allowedTypes : List String
  knownSchemes : SchemePorts
  strict : Bool
  deriving DecidableEq

namespace DirectiveParser

def standardTypes : List String :=
  [ "base-uri", "child-src", "connect-src", "default-src", "font-src", "form-action",
    "frame-ancestors", "frame-src", "img-src", "media-src", "object-src", "script-src",
    "style-src" ]

def standard : DirectiveParser where
  renamedTypes := .singleton "xhr-src" "connect-src"
  allowedTypes := standardTypes
  knownSchemes := .standard
  strict := true

def sourceParser (p : DirectiveParser) : SourceParser := ⟨p.knownSchemes⟩

/-- Whether a source may stand in a directive of the type: the keywords for code only where there
is code to allow. -/
def admits (type : String) : Source → Bool
  | .unsafeEval => type = "script-src" || type = "default-src"
  | .unsafeInline => type = "script-src" || type = "style-src" || type = "default-src"
  | .invalid => false
  | _ => true

def isNone (word : List Char) : Bool := Text.spells word "'none'"

def currentType (p : DirectiveParser) (written : List Char) : String :=
  let type := String.ofList (Text.lower (Text.trim written))
  (p.renamedTypes.get? type).getD type

/-- The sources that the words name: a strict reader finds none at all when one word is bad. -/
def readSources? (p : DirectiveParser) (type : String) (words : List (List Char)) :
    Option (List Source) :=
  let sources := (words.filter fun w => !isNone w).map p.sourceParser.read
  if p.strict then
    if (1 < words.length && words.any isNone) || !sources.all (admits type) then none
    else some sources
  else some (sources.filter (admits type))

def phrase? (cs : List Char) : Option Restriction :=
  Restriction.all.find? fun r => r.phrase.toList = cs

def read (p : DirectiveParser) (text : List Char) : Directive :=
  let cs := Text.trim text
  match phrase? cs with
  | some phrase => .restriction phrase
  | none =>
      match Text.cut? (· = ' ') cs with
      | none => .invalid
      | some (written, rest) =>
          let type := p.currentType written
          if type = "" || !p.allowedTypes.contains type then .invalid
          else
            match p.readSources? type (Text.words rest) with
            | some sources => .make type sources
            | none => .invalid

def parse (p : DirectiveParser) (text : String) : Directive := p.read text.toList

end DirectiveParser

end ContentPolicy
