import ContentPolicy.Directive.Violation
import ContentPolicy.Json.Writer
import ContentPolicy.Policy

/-!
Violation reports: fields by name, some of them read as URIs, directives or policies, and the policy
that would have allowed the reported event.
-/

namespace ContentPolicy

inductive ReportField where
  | uri (u : Uri)
  | directive (d : Directive)
  | policy (p : Policy)
  | raw (json : Json)

inductive Report where
  | valid (fields : SortedMap String ReportField)
  | invalid

def ReportField.toJson : ReportField → Json
  | .uri u => .string u.text
  | .directive d => .string d.text
  | .policy p => .string p.text
  | .raw json => json

namespace Report

def violatedKey : String := "violated-directive"

def blockedKey : String := "blocked-uri"

def documentKey : String := "document-uri"

def fields : Report → SortedMap String ReportField
  | .valid fields => fields
  | .invalid => ∅

def isInvalid : Report → Bool
  | .valid _ => false
  | .invalid => true

def get? (r : Report) (key : String) : Option ReportField := r.fields.get? key

def uri? (r : Report) (key : String) : Option Uri :=
  match r.get? key with
  | some (.uri u) => some u
  | _ => none

def directive? (r : Report) (key : String) : Option Directive :=
  match r.get? key with
  | some (.directive d) => some d
  | _ => none

def policy? (r : Report) (key : String) : Option Policy :=
  match r.get? key with
  | some (.policy p) => some p
  | _ => none

/-- The policy that allows exactly the reported event. There is none when the report does not say
which directive was violated and what was blocked, or when the two do not fit the report type. -/
def generatePolicy (r : Report) (type : ReportType) : Policy :=
  match r.directive? violatedKey, r.uri? blockedKey with
  | some violated, some blocked =>
      let generated := violated.admitting type blocked
      if generated = .invalid then .invalid else .ofDirectives [generated]
  | _, _ => .invalid

def generatePolicyFor (r : Report) (typeName : String) : Policy :=
  match ReportType.ofName? typeName with
  | some type => r.generatePolicy type
  | none => .invalid

def toJson : Report → Json
  | .valid fields => .object (fields.mapValues ReportField.toJson).entries
  | .invalid => .string "[invalid]"

def text (r : Report) : String :=
  match r with
  | .valid _ => r.toJson.text
  | .invalid => "[invalid]"

end Report

end ContentPolicy
