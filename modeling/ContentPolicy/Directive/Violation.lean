import ContentPolicy.Directive
import ContentPolicy.ReportType

/-!
From violations to directives: the directive that would have allowed exactly the event of a
violation report. A report that contradicts itself, or whose type says nothing about the event,
gives no directive.
-/

namespace ContentPolicy

def Restriction.reportType : Restriction → ReportType
  | .inlineStyle | .inlineScript => .inline
  | .evalScript => .eval

namespace Directive

def canReport (d : Directive) (type : ReportType) : Bool :=
  match d with
  | .regular .. => true
  | .restriction phrase => phrase.reportType = type
  | .invalid => false

def concerns (reportType : ReportType) (type : String) (blocked : Uri) : Bool :=
  match reportType with
  | .regular => blocked.isRegular
  | .eval => type = "script-src"
  | .inline => type = "script-src" || type = "style-src"

/-- The source that allows exactly the event. Ports are taken as they are written. -/
def eventSource (type : ReportType) (blocked : Uri) : Source :=
  match type with
  | .regular =>
      let l := blocked.location
      .uri (.make l.scheme l.host (l.port.map .number) l.path)
  | .eval => .unsafeEval
  | .inline => .unsafeInline

/-- The directive that allows exactly the event of a violation report in which `violated` was the
violated directive and `blocked` the blocked URI. -/
def admitting (violated : Directive) (type : ReportType) (blocked : Uri) : Directive :=
  if violated.canReport type && violated.type ≠ "default-src" && blocked ≠ .invalid &&
      concerns type violated.type blocked then
    .make violated.type [eventSource type blocked]
  else .invalid

end Directive

end ContentPolicy
