import ContentPolicy.LogEntry
import ContentPolicy.Report.Parser

/-!
Reading log entries. The report in an entry is read by the rules for reports; all else is kept. A
strict reader rejects the entry with its report, a lenient one drops the report.
-/

namespace ContentPolicy

structure LogEntryParser where
  report : ReportParser
  requiredKeys : List String
  deriving DecidableEq

namespace LogEntryParser

def standard : LogEntryParser := ⟨.standard, [LogEntry.reportKey]⟩

/-- Adds one member; no fields when a strict reader meets an invalid report. -/
def addMember (p : LogEntryParser) (fields : SortedMap String LogField)
    (member : String × Json) : Option (SortedMap String LogField) :=
  let (key, value) := member
  if key = LogEntry.reportKey then
    let report := p.report.parseJson value
    if !report.isInvalid then some (fields.insert key (.report report))
    else if p.report.strict then none
    else some fields
  else some (fields.insert key (.raw value))

def parseJson (p : LogEntryParser) : Json → LogEntry
  | .object members =>
      match members.foldlM p.addMember ∅ with
      | some fields => if p.requiredKeys.all fields.contains then .valid fields else .invalid
      | none => .invalid
  | _ => .invalid

def parse (p : LogEntryParser) (text : String) : LogEntry :=
  match Json.parse? text with
  | some json => p.parseJson json
  | none => .invalid

end LogEntryParser

end ContentPolicy
