import ContentPolicy.Source.Matching

/-!
Directives: a directive type with the whitelist of sources that it allows, and the operations that
combine directives, take them apart and strip their paths. An empty whitelist allows nothing.
-/

namespace ContentPolicy

/-- Phrases that some browsers report in place of a violated directive. -/
inductive Restriction where
  | inlineStyle
  | inlineScript
  | evalScript
  deriving DecidableEq

inductive Directive where
  | regular (type : String) (sources : Whitelist)
  | restriction (phrase : Restriction)
  | invalid
  deriving DecidableEq

namespace Restriction

def type : Restriction → String
  | .inlineStyle => "style-src"
  | .inlineScript | .evalScript => "script-src"

def phrase : Restriction → String
  | .inlineStyle => "inline style base restriction"
  | .inlineScript => "inline script base restriction"
  | .evalScript => "eval script base restriction"

def all : List Restriction := [.inlineStyle, .inlineScript, .evalScript]

end Restriction

namespace Whitelist

def ofSources (sources : List Source) : Whitelist :=
  .ofList (sources.filter fun s => !s.isInvalid)

/-- Strips paths from all sources; sources that come out the same are one, and what is left of a
source may be nothing. -/
def strip (schemes : List String) (w : Whitelist) : Whitelist :=
  ofSources (w.toList.map (Source.strip schemes))

def allows (w : Whitelist) (resource document : Uri) (ports : SchemePorts) : Bool :=
  w.any fun s => s.allows resource document ports

/-- The whitelists with one source each that together make up a whitelist; one with at most one
source is its own only part. -/
def parts (w : Whitelist) : List Whitelist :=
  if w.size ≤ 1 then [w] else w.toList.map .singleton

def renderSources (w : Whitelist) : List Char :=
  if w.isEmpty then "'none'".toList
  else
    [' '].intercalate (((w.toList.map Source.text).mergeSort).map String.toList)

end Whitelist

namespace Directive

def make (type : String) (sources : List Source) : Directive := .regular type (.ofSources sources)

def type : Directive → String
  | .regular type _ => type
  | .restriction phrase => phrase.type
  | .invalid => "[invalid]"

def sources : Directive → Whitelist
  | .regular _ sources => sources
  | _ => ∅

def isRegular : Directive → Bool
  | .regular .. => true
  | _ => false

def isBasic (d : Directive) : Bool := d.isRegular && d.sources.size ≤ 1

def combine : Directive → Directive → Directive
  | .regular type sources, .regular type' sources' =>
      if type = type' then .regular type (sources.union sources') else .invalid
  | _, _ => .invalid

def allows (d : Directive) (resource document : Uri) (ports : SchemePorts) : Bool :=
  match d with
  | .regular _ sources => sources.allows resource document ports
  | _ => false

/-- Drops the paths of the sources; sources with a listed scheme keep nothing but the scheme. -/
def stripPaths (schemes : List String) : Directive → Directive
  | .regular type sources => .regular type (sources.strip schemes)
  | other => other

def basics : Directive → List Directive
  | .regular type sources => sources.parts.map (.regular type)
  | _ => []

def render : Directive → List Char
  | .regular type sources => type.toList ++ ' ' :: sources.renderSources
  | .restriction phrase => phrase.phrase.toList
  | .invalid => "[invalid]".toList

def text (d : Directive) : String := String.ofList d.render

end Directive

end ContentPolicy
