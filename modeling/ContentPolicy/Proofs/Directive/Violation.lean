import Mathlib.Logic.Basic
import ContentPolicy.Directive.Violation
import ContentPolicy.Proofs.Source.Matching

/-!
The directive that a violation gives. Unless the report contradicts itself, in one of the ways that
`Directive.Inadmissible` lists, it is a directive of the violated type with one source, and this
source allows the event for every document; what has no scheme cannot be allowed so.
-/

namespace ContentPolicy

namespace Directive

variable {violated : Directive} {type : ReportType} {blocked : Uri}

/-- What was not allowed when a report of the type was made. -/
def event (type : ReportType) (blocked : Uri) : Uri :=
  match type with
  | .regular => blocked
  | .inline => .inline
  | .eval => .eval

structure Admissible (violated : Directive) (type : ReportType) (blocked : Uri) : Prop where
  canReport : violated.canReport type = true
  notDefault : violated.type ≠ "default-src"
  wasRead : blocked ≠ .invalid
  concerns : concerns type violated.type blocked = true

/-- What keeps a report from giving a directive: the violated directive is none, or a phrase from
another type of report, or the one for all types; what was blocked could not be read; or what was
blocked, or the violated type, is not what reports of the type are about. -/
inductive Inadmissible : Directive → ReportType → Uri → Prop
  | invalid (type : ReportType) (blocked : Uri) : Inadmissible .invalid type blocked
  | evalPhrase {type : ReportType} (other : type ≠ .eval) (blocked : Uri) :
      Inadmissible (.restriction .evalScript) type blocked
  | inlinePhrase {phrase : Restriction} (inline : phrase = .inlineStyle ∨ phrase = .inlineScript)
      {type : ReportType} (other : type ≠ .inline) (blocked : Uri) :
      Inadmissible (.restriction phrase) type blocked
  | allTypes {violated : Directive} (all : violated.type = "default-src") (type : ReportType)
      (blocked : Uri) : Inadmissible violated type blocked
  | unread (violated : Directive) (type : ReportType) : Inadmissible violated type .invalid
  | noResource (violated : Directive) {blocked : Uri} (unlocated : blocked.isRegular = false) :
      Inadmissible violated .regular blocked
  | noScript {violated : Directive} (other : violated.type ≠ "script-src") (blocked : Uri) :
      Inadmissible violated .eval blocked
  | noCode {violated : Directive} (noScript : violated.type ≠ "script-src")
      (noStyle : violated.type ≠ "style-src") (blocked : Uri) :
      Inadmissible violated .inline blocked

theorem canReport_of_not_inadmissible (sound : ¬Inadmissible violated type blocked) :
    violated.canReport type = true := by
  cases violated with
  | regular name w => rfl
  | invalid => exact absurd (.invalid type blocked) sound
  | restriction phrase =>
      refine decide_eq_true (not_not.mp fun other => sound ?_)
      cases phrase with
      | evalScript => exact .evalPhrase (Ne.symm other) blocked
      | inlineScript => exact .inlinePhrase (.inr rfl) (Ne.symm other) blocked
      | inlineStyle => exact .inlinePhrase (.inl rfl) (Ne.symm other) blocked

theorem concerns_of_not_inadmissible (sound : ¬Inadmissible violated type blocked) :
    concerns type violated.type blocked = true := by
  cases type with
  | regular =>
      cases located : blocked.isRegular with
      | true => exact located
      | false => exact absurd (.noResource violated located) sound
  | eval => exact decide_eq_true (not_not.mp fun other => sound (.noScript other blocked))
  | inline =>
      by_cases script : violated.type = "script-src"
      · simp [concerns, script]
      · by_cases style : violated.type = "style-src"
        · simp [concerns, style]
        · exact absurd (.noCode script style blocked) sound

theorem admissible_iff :
    Admissible violated type blocked ↔ ¬Inadmissible violated type blocked := by
  constructor
  · intro admissible fault
    obtain ⟨canReport, notDefault, wasRead, concerns⟩ := admissible
    cases fault with
    | invalid => cases canReport
    | evalPhrase other => exact other (of_decide_eq_true canReport).symm
    | inlinePhrase inline other =>
        rcases inline with rfl | rfl
        · exact other (of_decide_eq_true canReport).symm
        · exact other (of_decide_eq_true canReport).symm
    | allTypes all => exact notDefault all
    | unread => exact wasRead rfl
    | noResource _ unlocated => exact Bool.false_ne_true (unlocated.symm.trans concerns)
    | noScript other => exact other (of_decide_eq_true concerns)
    | noCode noScript noStyle => simp [Directive.concerns, noScript, noStyle] at concerns
  · intro sound
    exact {
      canReport := canReport_of_not_inadmissible sound
      notDefault := fun all => sound (.allTypes all type blocked)
      wasRead := by
        rintro rfl
        exact sound (.unread violated type)
      concerns := concerns_of_not_inadmissible sound }

theorem make_eventSource (name : String) (type : ReportType) (blocked : Uri) :
    make name [eventSource type blocked] =
      .regular name (.singleton (eventSource type blocked)) := by
  cases type <;> rfl

theorem Admissible.admitting_eq (admissible : Admissible violated type blocked) :
    violated.admitting type blocked =
      .regular violated.type (.singleton (eventSource type blocked)) := by
  rw [admitting, if_pos, make_eventSource]
  simp [admissible.canReport, admissible.notDefault, admissible.wasRead, admissible.concerns]

theorem admitting_ne_invalid_iff :
    violated.admitting type blocked ≠ .invalid ↔ Admissible violated type blocked := by
  constructor
  · intro generated
    rw [admitting] at generated
    split at generated
    · rename_i fits
      simp only [Bool.and_eq_true, decide_eq_true_eq] at fits
      obtain ⟨⟨⟨canReport, notDefault⟩, wasRead⟩, concerns⟩ := fits
      exact ⟨canReport, notDefault, wasRead, concerns⟩
    · exact absurd rfl generated
  · intro admissible
    rw [admissible.admitting_eq]
    exact Directive.noConfusion

/-- The source that is made from an event allows it; a resource must have a scheme for that. -/
theorem Admissible.eventSource_allows (admissible : Admissible violated type blocked)
    (named : type = .regular → blocked.location.scheme ≠ "") (document : Uri)
    (ports : SchemePorts) :
    (eventSource type blocked).allows (event type blocked) document ports = true := by
  cases type with
  | regular =>
      obtain ⟨l, rfl⟩ := Uri.isRegular_iff.mp admissible.concerns
      exact UriPattern.make_allows (named rfl) document ports
  | inline => rfl
  | eval => rfl

theorem allows_singleton (name : String) (s : Source) (resource document : Uri)
    (ports : SchemePorts) :
    (regular name (.singleton s)).allows resource document ports =
      s.allows resource document ports := Bool.or_false _

/-- A report gives no directive exactly when something is wrong with it. Otherwise it gives a basic
directive of the violated type, which allows the code that the report is about, or the resource, for
every document. A resource without a scheme is allowed only by what comes out as the bare star. -/
theorem admitting_admits (violated : Directive) (type : ReportType) (blocked : Uri) :
    (violated.admitting type blocked = .invalid ↔ Inadmissible violated type blocked) ∧
      (¬Inadmissible violated type blocked →
        let generated := violated.admitting type blocked
        let l := blocked.location
        generated.isBasic = true ∧ generated.type = violated.type ∧
          ∀ (document : Uri) (ports : SchemePorts),
            (type = .inline → generated.allows .inline document ports = true) ∧
            (type = .eval → generated.allows .eval document ports = true) ∧
            (type = .regular → l.scheme ≠ "" →
              generated.allows blocked document ports = true) ∧
            (type = .regular → l.scheme = "" →
              (generated.allows blocked document ports = true ↔
                l.host = "*" ∧ l.port = none ∧ l.path = ""))) := by
  refine ⟨?_, fun sound => ?_⟩
  · rw [← not_iff_not, ← admissible_iff]
    exact admitting_ne_invalid_iff
  · have admissible := admissible_iff.mpr sound
    intro generated l
    have made : generated = .regular violated.type (.singleton (eventSource type blocked)) :=
      admissible.admitting_eq
    rw [made]
    refine ⟨rfl, rfl, fun document ports => ?_⟩
    simp only [allows_singleton]
    have allowed := admissible.eventSource_allows
    refine ⟨?_, ?_, ?_, ?_⟩
    · rintro rfl
      exact allowed nofun document ports
    · rintro rfl
      exact allowed nofun document ports
    · rintro rfl named
      exact allowed (fun _ => named) document ports
    · rintro rfl unnamed
      obtain ⟨l, rfl⟩ := Uri.isRegular_iff.mp admissible.concerns
      exact UriPattern.make_allows_of_no_scheme_iff unnamed document ports

/-- An image that was blocked under a host alone gives a directive for images, which does not allow
this image: it would take its scheme from the document. -/
theorem admitting_admits_unnamed :
    let violated := Directive.regular "img-src" (.singleton .self)
    let image := Uri.regular ⟨"", "cdn.d", some 80, "/a", ""⟩
    let generated := violated.admitting .regular image
    ¬Inadmissible violated .regular image ∧ generated.isBasic = true ∧
      generated.type = "img-src" ∧
      ∀ document ports, generated.allows image document ports = false := by
  intro violated image generated
  obtain ⟨gives, admits⟩ := admitting_admits violated .regular image
  have sound : ¬Inadmissible violated .regular image := fun fault => nomatch gives.mpr fault
  obtain ⟨basic, sameType, allows⟩ := admits sound
  refine ⟨sound, basic, sameType, fun document ports => ?_⟩
  obtain ⟨_, _, _, unnamed⟩ := allows document ports
  rw [← Bool.not_eq_true, unnamed rfl rfl]
  decide

end Directive

end ContentPolicy
