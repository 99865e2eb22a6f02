import ContentPolicy.Report

/-!
Log entries: a violation report with what the collector noted about the request, among it the type
of the report.
-/

namespace ContentPolicy

inductive LogField where
  | report (r : Report)
  | raw (json : Json)

inductive LogEntry where
  | valid (fields : SortedMap String LogField)
  | invalid

def LogField.toJson : LogField → Json
  | .report r => r.toJson
  | .raw json => json

namespace LogEntry

def reportKey : String := "csp-report"

def typeKey : String := "policy-type"

def fields : LogEntry → SortedMap String LogField
  | .valid fields => fields
  | .invalid => ∅

def isInvalid : LogEntry → Bool
  | .valid _ => false
  | .invalid => true

def get? (e : LogEntry) (key : String) : Option LogField := e.fields.get? key

def report? (e : LogEntry) : Option Report :=
  match e.get? reportKey with
  | some (.report r) => some r
  | _ => none

def typeName? (e : LogEntry) : Option String :=
  match e.get? typeKey with
  | some (.raw (.string name)) => some name
  | _ => none

def generatePolicy (e : LogEntry) : Policy :=
  match e.report?, e.typeName? with
  | some r, some name => r.generatePolicyFor name
  | _, _ => .invalid

def toJson : LogEntry → Json
  | .valid fields => .object (fields.mapValues LogField.toJson).entries
  | .invalid => .string "[invalid]"

def text (e : LogEntry) : String :=
  match e with
  | .valid _ => e.toJson.text
  | .invalid => "[invalid]"

end LogEntry

end ContentPolicy
