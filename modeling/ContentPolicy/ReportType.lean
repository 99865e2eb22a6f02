/-!
The kinds of events that violation reports describe.
-/

namespace ContentPolicy

inductive ReportType where
  /-- Loading a resource. -/
  | regular
  /-- Running code made at run time. -/
  | eval
  /-- Running code that stands in the document. -/
  | inline
  deriving DecidableEq

namespace ReportType

def name : ReportType → String
  | .regular => "regular"
  | .eval => "eval"
  | .inline => "inline"

def all : List ReportType := [.regular, .eval, .inline]

def ofName? (name : String) : Option ReportType := all.find? fun t => t.name = name

def unknownName (name : String) : String :=
  s!"unknown report type: {name} (expected regular, eval, or inline)"

theorem ofName?_name (t : ReportType) : ofName? t.name = some t := by
  cases t <;> decide

end ReportType

end ContentPolicy
