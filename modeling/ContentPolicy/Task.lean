import ContentPolicy.Receipt
import ContentPolicy.Settings
import ContentPolicy.Source.Matching
import ContentPolicy.Text.Quoted

/-!
Tasks on the texts of policies: normalizing one, matching one with a resource, combining some, and
comparing two. The first text that cannot be used is the answer.
-/

namespace ContentPolicy

inductive UriRole where
  | resource
  | document
  deriving DecidableEq

inductive TaskError where
  | invalidPolicy (text : String)
  | invalidUri (role : UriRole) (text : String)
  /-- A policy whose combination with those before it would change what it stands for. -/
  | cannotCombine (text : String)
  deriving DecidableEq

def UriRole.name : UriRole → String
  | .resource => "resource"
  | .document => "document"

def TaskError.message : TaskError → String
  | .invalidPolicy text => s!"invalid policy: {Text.quoted text}"
  | .invalidUri role text => s!"parse {role.name}: invalid URI: {Text.quoted text}"
  | .cannotCombine text =>
      s!"policy cannot be combined with the ones before it: {Text.quoted text}"

structure NormalPolicy where
  policy : Policy
  basics : List Policy
  deriving DecidableEq

namespace Settings

def readPolicy (s : Settings) (text : String) : Except TaskError Policy :=
  let p := s.policy.parse text
  if p.isInvalid then .error (.invalidPolicy text) else .ok p

def readUri (s : Settings) (role : UriRole) (text : String) : Except TaskError Uri :=
  let u := s.uri.parse text
  if u = .invalid then .error (.invalidUri role text) else .ok u

def readResource (s : Settings) (text : String) : Except TaskError Uri :=
  let word := Text.trim text.toList
  if Text.spells word "inline" then .ok .inline
  else if Text.spells word "eval" then .ok .eval
  else s.readUri .resource text

def normalize (s : Settings) (text : String) (stripPaths : Bool) :
    Except TaskError NormalPolicy := do
  let p ← s.readPolicy text
  let p := if stripPaths then p.stripPaths s.schemeOnly else p
  return ⟨p, p.basics.mergeSort fun a b => a.text ≤ b.text⟩

def check (s : Settings) (policy resource type document : String) :
    Except TaskError MatchReceipt := do
  let p ← s.readPolicy policy
  let r ← s.readResource resource
  let d ← s.readUri .document document
  return {
    policy := p.text
    resource := r.text
    resourceType := type.toLower
    document := d.text
    allowed := p.allows r type d s.schemePorts s.policy.defaultSrcTypes }

def addPolicy (s : Settings) (combined : Policy) (text : String) : Except TaskError Policy := do
  let combined := combined.combine (← s.readPolicy text)
  if combined.isInvalid then .error (.cannotCombine text) else .ok combined

def combine (s : Settings) (texts : List String) : Except TaskError Policy :=
  texts.foldlM s.addPolicy .empty

def sortedTexts (policies : List Policy) : List String := (policies.map Policy.text).mergeSort

def compare (s : Settings) (left right : String) : Except TaskError ComparisonReceipt := do
  let p ← s.readPolicy left
  let q ← s.readPolicy right
  let c := p.compareWith q
  return {
    left := p.text
    right := q.text
    common := sortedTexts c.common
    onlyLeft := sortedTexts c.onlyLeft
    onlyRight := sortedTexts c.onlyRight }

end Settings

end ContentPolicy
