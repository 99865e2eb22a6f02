import ContentPolicy.Directive

/-!
Policies: at most one directive for each type, and the operations on policies as a whole. A policy
without directives is valid and differs from the invalid policy.
-/

namespace ContentPolicy

inductive Policy where
  | valid (whitelists : SortedMap String Whitelist)
  /-- A text that is no policy, or policies that cannot be combined. -/
  | invalid
  deriving DecidableEq

structure PolicyComparison where
  common : List Policy
  onlyLeft : List Policy
  onlyRight : List Policy
  deriving DecidableEq

namespace Policy

def defaultType : String := "default-src"

def empty : Policy := .valid ∅

def whitelists : Policy → SortedMap String Whitelist
  | .valid whitelists => whitelists
  | .invalid => ∅

def isInvalid : Policy → Bool
  | .valid _ => false
  | .invalid => true

/-- The policy with the regular ones among the directives; of several with one type, the last
stays. -/
def ofDirectives (directives : List Directive) : Policy :=
  .valid <| directives.foldl
    (fun m d =>
      match d with
      | .regular type sources => m.insert type sources
      | _ => m) ∅

def directives (p : Policy) : List Directive :=
  p.whitelists.entries.map fun e => .regular e.1 e.2

def directive? (p : Policy) (type : String) : Option Directive :=
  (p.whitelists.get? type).map (.regular type)

def size (p : Policy) : Nat := p.whitelists.size

def hasNoDirective (p : Policy) : Bool := p.whitelists.isEmpty

def hasDefault (p : Policy) : Bool := p.whitelists.contains defaultType

def isBasic (p : Policy) : Bool :=
  match p.directives with
  | [d] => d.isBasic
  | _ => false

def isBasicNone (p : Policy) : Bool :=
  match p.directives with
  | [d] => d.sources.isEmpty
  | _ => false

def isDefaultOnlyOrEmpty (p : Policy) : Bool :=
  p.hasNoDirective || (p.hasDefault && p.size = 1)

/-- Whether combining two policies would change what the directive for all types stands for. -/
def conflict (p q : Policy) : Bool :=
  (p.hasDefault || q.hasDefault) && !(p.isDefaultOnlyOrEmpty && q.isDefaultOnlyOrEmpty)

def combine (p q : Policy) : Policy :=
  match p, q with
  | .valid m, .valid n =>
      if conflict p q then .invalid else .valid (m.mergeWith SortedSet.union n)
  | _, _ => .invalid

def combineAll (policies : List Policy) : Policy := policies.foldl combine empty

def stripPaths (schemes : List String) : Policy → Policy
  | .valid m => .valid (m.mapValues (Whitelist.strip schemes))
  | .invalid => .invalid

/-- The policies of one basic directive each that together make up a policy. A policy without
directives is its own only part. -/
def basics : Policy → List Policy
  | .invalid => []
  | .valid m =>
      if m.isEmpty then [.valid m]
      else m.entries.flatMap fun e => e.2.parts.map fun part => .valid (.singleton e.1 part)

def compareWith (p q : Policy) : PolicyComparison :=
  if p.isInvalid || q.isInvalid then ⟨[], [], []⟩
  else {
    common := p.basics.filter (· ∈ q.basics)
    onlyLeft := p.basics.filter (· ∉ q.basics)
    onlyRight := q.basics.filter (· ∉ p.basics) }

/-- The directive that decides about resources of a type, given in lower case. Types among
`defaultSrcTypes` fall back to the directive for all types, and without one to the bare star. -/
def governing (p : Policy) (type : String) (defaultSrcTypes : List String) : Option Whitelist :=
  match p.whitelists.get? type with
  | some sources => some sources
  | none =>
      if defaultSrcTypes.contains type then
        some ((p.whitelists.get? defaultType).getD (.singleton .any))
      else none

def allows (p : Policy) (resource : Uri) (type : String) (document : Uri) (ports : SchemePorts)
    (defaultSrcTypes : List String) : Bool :=
  match p with
  | .invalid => false
  | .valid _ =>
      match p.governing type.toLower defaultSrcTypes with
      | some sources => sources.allows resource document ports
      | none => false

def render (p : Policy) : List Char :=
  match p with
  | .invalid => "[invalid]".toList
  | .valid _ =>
      [';', ' '].intercalate (((p.directives.map Directive.text).mergeSort).map String.toList)

def text (p : Policy) : String := String.ofList p.render

end Policy

end ContentPolicy
