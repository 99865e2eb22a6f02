import ContentPolicy.Json.Reader
import ContentPolicy.Policy.Parser
import ContentPolicy.Report
import ContentPolicy.Text.LowerCase
import ContentPolicy.Uri.Parser

/-!
Reading violation reports. Names of fields are brought to their current form; the fields that are
configured are read as URIs, directives or policies, all others are kept. A strict reader rejects
the whole report for one bad field, a lenient one drops the field; the required fields must be there
for any reader.
-/

namespace ContentPolicy

inductive FieldKind where
  | uri
  | directive
  | policy
  deriving DecidableEq

structure ReportParser where
  uriKeys : List String
  directiveKeys : List String
  policyKeys : List String
  keyRenames : SortedMap String String
  requiredKeys : List String
  /-- Holds for the directives and policies in the report as well. -/
  strict : Bool
  uri : UriParser
  policy : PolicyParser
  deriving DecidableEq

namespace ReportParser

def standard : ReportParser where
  uriKeys := ["blocked-uri", "document-uri", "referrer"]
  directiveKeys := ["violated-directive"]
  policyKeys := ["original-policy"]
  keyRenames := .singleton "document-url" "document-uri"
  requiredKeys := ["blocked-uri", "violated-directive", "document-uri"]
  strict := true
  uri := { UriParser.standard with addScheme := false, addPort := false, decode := true }
  policy := { PolicyParser.standard with expandDefaultSrc := false }

/-- The kind of a field; the first list that holds its name counts. -/
def kind? (p : ReportParser) (key : String) : Option FieldKind :=
  if key ∈ p.uriKeys then some .uri
  else if key ∈ p.directiveKeys then some .directive
  else if key ∈ p.policyKeys then some .policy
  else none

def currentKey (p : ReportParser) (raw : String) : String :=
  let key := Text.lowerCase raw
  (p.keyRenames.get? key).getD key

def policyParser (p : ReportParser) : PolicyParser := p.policy.withStrict p.strict

def readText? (p : ReportParser) (kind : FieldKind) (text : String) : Option ReportField :=
  match kind with
  | .uri =>
      let u := p.uri.parse text
      if u = .invalid then none else some (.uri u)
  | .directive =>
      let d := p.policyParser.directive.parse text
      if d = .invalid then none else some (.directive d)
  | .policy =>
      let q := p.policyParser.parse text
      if q.isInvalid then none else some (.policy q)

def isSelf (text : String) : Bool := Text.spells (Text.trim text.toList) "self"

inductive Reading where
  | field (value : ReportField)
  /-- The value is that of the document's URI, which may come later. -/
  | document
  | bad

def readMember (p : ReportParser) (key : String) (value : Json) : Reading :=
  match p.kind? key with
  | none => .field (.raw value)
  | some kind =>
      match value with
      | .string text =>
          if kind = .uri && isSelf text then .document
          else
            match p.readText? kind text with
            | some field => .field field
            | none => .bad
      | _ => .bad

/-- The fields read so far, and the names that wait for the document's URI. -/
abbrev Draft := SortedMap String ReportField × List String

def addMember (p : ReportParser) (draft : Draft) (member : String × Json) : Option Draft :=
  let key := p.currentKey member.1
  match p.readMember key member.2 with
  | .field value => some (draft.1.insert key value, draft.2)
  | .document => some (draft.1, draft.2 ++ [key])
  | .bad => if p.strict then none else some draft

/-- Gives a field the document's URI, which must be there for a strict reader. -/
def resolveDocument (p : ReportParser) (fields : SortedMap String ReportField) (key : String) :
    Option (SortedMap String ReportField) :=
  match fields.get? Report.documentKey with
  | some (.uri u) =>
      if p.kind? Report.documentKey = some .uri then some (fields.insert key (.uri u))
      else if p.strict then none else some fields
  | _ => if p.strict then none else some fields

def readMembers (p : ReportParser) (members : List (String × Json)) : Report :=
  let fields? := do
    let (fields, waiting) ← members.foldlM p.addMember (∅, [])
    -- All members are known by now, so it does not matter where the document's URI stands.
    waiting.foldlM p.resolveDocument fields
  match fields? with
  | some fields => if p.requiredKeys.all fields.contains then .valid fields else .invalid
  | none => .invalid

def parseJson (p : ReportParser) : Json → Report
  | .object members => p.readMembers members
  | _ => .invalid

def parse (p : ReportParser) (text : String) : Report :=
  match Json.parse? text with
  | some json => p.parseJson json
  | none => .invalid

end ReportParser

end ContentPolicy
