import ContentPolicy.Proofs.Policy.Stripping
import ContentPolicy.Proofs.Policy.Table
import ContentPolicy.Report

/-!
What all policies have in common, however they come about. A policy and its table that are made by
the same operations, in any order and number, stay the same policy; the directives of the table are
regular, stand under their types and hold no invalid source. So where tables are merged, no two
directives ever fail to combine.
-/

namespace ContentPolicy

namespace Directive

inductive Made : Directive → Prop
  | make (type : String) (sources : List Source) : Made (.make type sources)
  | restriction (phrase : Restriction) : Made (.restriction phrase)
  | invalid : Made .invalid
  | parse (p : DirectiveParser) (text : String) : Made (p.parse text)
  | combine {d e : Directive} (first : Made d) (second : Made e) : Made (d.combine e)
  | stripPaths (schemes : List String) {d : Directive} (whole : Made d) :
      Made (d.stripPaths schemes)
  | basic {d b : Directive} (whole : Made d) (part : b ∈ d.basics) : Made b

theorem valid_of_mem_make {type : String} {sources : List Source} {s : Source}
    (member : s ∈ (make type sources).sources) : s.isInvalid = false :=
  Whitelist.valid_of_mem_ofSources member

theorem valid_of_mem_parse {p : DirectiveParser} {text : String} {s : Source}
    (member : s ∈ (p.parse text).sources) : s.isInvalid = false := by
  cases found : p.parse text with
  | regular type w =>
      obtain ⟨_, _, sources, _, _, _, _, rfl⟩ := DirectiveParser.read_regular found
      rw [found] at member
      exact valid_of_mem_make member
  | restriction phrase =>
      rw [found] at member
      cases member
  | invalid =>
      rw [found] at member
      cases member

theorem mem_sources_combine {d e : Directive} {s : Source} (member : s ∈ (d.combine e).sources) :
    s ∈ d.sources ∨ s ∈ e.sources := by
  cases d with
  | regular type v =>
      cases e with
      | regular type' w =>
          rw [combine] at member
          split at member
          · exact (SortedSet.mem_union v w s).mp member
          · cases member
      | restriction phrase => cases member
      | invalid => cases member
  | restriction phrase => cases member
  | invalid => cases member

/-- The operations keep invalid sources out, also those that make a whitelist without sorting them
out. -/
theorem Made.valid {d : Directive} (made : d.Made) {s : Source} (member : s ∈ d.sources) :
    s.isInvalid = false := by
  induction made generalizing s with
  | make type sources => exact valid_of_mem_make member
  | restriction phrase => cases member
  | invalid => cases member
  | parse p text => exact valid_of_mem_parse member
  | combine _ _ first second =>
      rcases mem_sources_combine member with inFirst | inSecond
      · exact first inFirst
      · exact second inSecond
  | @stripPaths schemes d _ whole =>
      cases d with
      | regular type w => exact (Whitelist.mem_strip.mp member).1
      | restriction phrase => cases member
      | invalid => cases member
  | @basic d b _ part whole =>
      cases d with
      | regular type w =>
          obtain ⟨inner, isPart, rfl⟩ := List.mem_map.mp part
          -- A part is not sorted out again; its source is one of the whole.
          rcases Whitelist.mem_parts_iff.mp isPart with ⟨_, rfl⟩ | ⟨x, inside, rfl⟩
          · cases member
          · exact whole ((SortedSet.mem_singleton x s).mp member ▸ inside)
      | restriction phrase => cases part
      | invalid => cases part

/-- Generating a directive from a violation makes it anew, however the violated one came about. -/
theorem made_admitting (violated : Directive) (type : ReportType) (blocked : Uri) :
    (violated.admitting type blocked).Made := by
  rw [admitting]
  split
  · exact .make _ _
  · exact .invalid

end Directive

namespace PolicyParser

variable {p : PolicyParser} {text : List Char} {type : String} {d : Directive}

theorem made_firstOfEachType
    (found : (firstOfEachType (p.readSegments text)).get? type = some d) : d.Made := by
  rw [get?_firstOfEachType] at found
  obtain ⟨inside, _⟩ := List.mem_filter.mp (List.mem_of_find?_eq_some found)
  obtain ⟨segment, _, rfl⟩ := List.mem_map.mp inside
  have parsed := Directive.Made.parse p.directive (String.ofList segment)
  rwa [DirectiveParser.parse, String.toList_ofList] at parsed

theorem made_byType (found : (p.byType text).get? type = some d) : d.Made := by
  rcases byType_cases found with own | ⟨_, default, _, rfl⟩
  · exact made_firstOfEachType own
  · exact .make type _

end PolicyParser

def PolicyParser.parseTable (p : PolicyParser) (text : String) : PolicyTable :=
  if p.strict && (p.readSegments text.toList).contains .invalid ||
      (p.byType text.toList).isEmpty then .invalid
  else .ofDirectives (p.byType text.toList).values

def Report.generateTable (r : Report) (type : ReportType) : PolicyTable :=
  match r.directive? violatedKey, r.uri? blockedKey with
  | some violated, some blocked =>
      let generated := violated.admitting type blocked
      if generated = .invalid then .invalid else .ofDirectives [generated]
  | _, _ => .invalid

namespace Policy

/-- Policies, each with its table, that come about by the same operations on policies and on tables:
reading, gathering directives, combining, stripping paths, taking apart, comparing, and generating
from reports. Parts of a policy and of its table go together that have the same place. -/
inductive Made : Policy → PolicyTable → Prop
  | invalid : Made .invalid .invalid
  | parse (p : PolicyParser) (text : String) : Made (p.parse text) (p.parseTable text)
  | ofDirectives {ds : List Directive} (directives : ∀ d ∈ ds, d.Made) :
      Made (.ofDirectives ds) (.ofDirectives ds)
  | combine {p q : Policy} {t u : PolicyTable} (first : Made p t) (second : Made q u) :
      Made (p.combine q) (t.combine u)
  | stripPaths (schemes : List String) {p : Policy} {t : PolicyTable} (whole : Made p t) :
      Made (p.stripPaths schemes) (t.stripPaths schemes)
  | basic {p c : Policy} {t b : PolicyTable} (whole : Made p t)
      (part : (b, c) ∈ t.basics.zip p.basics) : Made c b
  | common {p q c : Policy} {t u b : PolicyTable} (first : Made p t) (second : Made q u)
      (part : (b, c) ∈ (t.common u).zip (p.compareWith q).common) : Made c b
  | onlyLeft {p q c : Policy} {t u b : PolicyTable} (first : Made p t) (second : Made q u)
      (part : (b, c) ∈ (t.only u).zip (p.compareWith q).onlyLeft) : Made c b
  | onlyRight {p q c : Policy} {t u b : PolicyTable} (first : Made p t) (second : Made q u)
      (part : (b, c) ∈ (u.only t).zip (p.compareWith q).onlyRight) : Made c b
  | generated (r : Report) (type : ReportType) : Made (r.generatePolicy type) (r.generateTable type)

end Policy

namespace PolicyTable

theorem represents_parse (p : PolicyParser) (text : String) :
    (p.parseTable text).Represents (p.parse text) := by
  rw [PolicyParser.parseTable, PolicyParser.parse, PolicyParser.read_eq]
  split
  · exact represents_invalid
  · exact represents_ofDirectives _

theorem represents_generated (r : Report) (type : ReportType) :
    (r.generateTable type).Represents (r.generatePolicy type) := by
  rw [Report.generateTable, Report.generatePolicy]
  cases r.directive? Report.violatedKey with
  | none => exact represents_invalid
  | some violated =>
      cases r.uri? Report.blockedKey with
      | none => exact represents_invalid
      | some blocked =>
          dsimp only
          split
          · exact represents_invalid
          · exact represents_ofDirectives _

end PolicyTable

namespace Policy

variable {p q : Policy} {t u : PolicyTable}

theorem Made.represents (made : Made p t) : t.Represents p := by
  induction made with
  | invalid => exact PolicyTable.represents_invalid
  | parse p text => exact PolicyTable.represents_parse p text
  | ofDirectives directives => exact PolicyTable.represents_ofDirectives _
  | combine _ _ first second => exact PolicyTable.represents_combine first second
  | stripPaths schemes _ whole => exact PolicyTable.represents_stripPaths schemes whole
  | basic _ part whole => exact List.forall₂_zip (PolicyTable.represents_basics whole) part
  | common _ _ part first second =>
      exact List.forall₂_zip (PolicyTable.represents_common first second) part
  | onlyLeft _ _ part first second =>
      exact List.forall₂_zip (PolicyTable.represents_onlyLeft first second) part
  | onlyRight _ _ part first second =>
      exact List.forall₂_zip (PolicyTable.represents_onlyRight first second) part
  | generated r type => exact PolicyTable.represents_generated r type

theorem Made.forall₂_basics (made : Made p t) :
    List.Forall₂ (fun b c => Made c b) t.basics p.basics :=
  List.forall₂_iff_zip.mpr
    ⟨(PolicyTable.represents_basics made.represents).length_eq, fun part => .basic made part⟩

theorem Made.forall₂_compareWith (first : Made p t) (second : Made q u) :
    List.Forall₂ (fun b c => Made c b) (t.common u) (p.compareWith q).common ∧
      List.Forall₂ (fun b c => Made c b) (t.only u) (p.compareWith q).onlyLeft ∧
        List.Forall₂ (fun b c => Made c b) (u.only t) (p.compareWith q).onlyRight := by
  refine ⟨List.forall₂_iff_zip.mpr ⟨?_, fun part => .common first second part⟩,
    List.forall₂_iff_zip.mpr ⟨?_, fun part => .onlyLeft first second part⟩,
    List.forall₂_iff_zip.mpr ⟨?_, fun part => .onlyRight first second part⟩⟩
  · exact (PolicyTable.represents_common first.represents second.represents).length_eq
  · exact (PolicyTable.represents_onlyLeft first.represents second.represents).length_eq
  · exact (PolicyTable.represents_onlyRight first.represents second.represents).length_eq

def AllMade (p : Policy) : Prop := ∀ type d, p.directive? type = some d → d.Made

theorem allMade_invalid : AllMade .invalid := fun _ _ absent => nomatch absent

theorem allMade_ofDirectives {ds : List Directive} (made : ∀ d ∈ ds, d.Made) :
    AllMade (.ofDirectives ds) := by
  intro type d found
  rw [← (PolicyTable.represents_ofDirectives ds).directives] at found
  have regular : ∀ d ∈ ds.filter Directive.isRegular, d.Made :=
    fun d member => made d (List.mem_of_mem_filter member)
  have empty : ∀ key d, (∅ : SortedMap String Directive).get? key = some d → d.Made := nofun
  exact SortedMap.forall_foldl_insert regular empty type d found

theorem allMade_parse (p : PolicyParser) (text : String) : AllMade (p.parse text) := by
  rw [PolicyParser.parse, PolicyParser.read_eq]
  split
  · exact allMade_invalid
  · refine allMade_ofDirectives fun d listed => ?_
    obtain ⟨e, entry, rfl⟩ := List.mem_map.mp listed
    exact PolicyParser.made_byType (SortedMap.get?_of_mem entry)

theorem allMade_combine (first : AllMade p) (second : AllMade q) : AllMade (p.combine q) := by
  cases isInvalid : (p.combine q).isInvalid with
  | true =>
      rw [isInvalid_iff.mp isInvalid]
      exact allMade_invalid
  | false =>
      intro type d found
      rw [directive?_combine isInvalid] at found
      cases left : p.directive? type with
      | none =>
          rw [left, Option.merge_none_left] at found
          exact second type d found
      | some a =>
          cases right : q.directive? type with
          | none =>
              rw [left, right] at found
              exact Option.some.inj found ▸ first type a left
          | some b =>
              rw [left, right] at found
              exact Option.some.inj found ▸ .combine (first type a left) (second type b right)

theorem allMade_stripPaths (schemes : List String) (whole : AllMade p) :
    AllMade (p.stripPaths schemes) := by
  intro type d found
  rw [directive?, get?_strip, Option.map_map] at found
  obtain ⟨w, present, rfl⟩ := Option.map_eq_some_iff.mp found
  have own : p.directive? type = some (.regular type w) := by rw [directive?, present]; rfl
  exact .stripPaths schemes (whole type _ own)

theorem allMade_of_mem_basics (whole : AllMade p) {b : Policy} (member : b ∈ p.basics) :
    AllMade b := by
  cases p with
  | invalid => cases member
  | valid m =>
      rcases basics_cases member with rfl | ⟨type, w, part, found, isPart, rfl⟩
      · exact fun _ _ absent => nomatch absent
      · intro key d single
        have own : (valid m).directive? type = some (.regular type w) := by
          rw [directive?]
          exact congrArg (Option.map _) found
        rw [directive?, whitelists, SortedMap.get?_singleton] at single
        split at single
        · rename_i same
          subst same
          cases single
          exact .basic (whole key _ own) (List.mem_map_of_mem isPart)
        · cases single

theorem allMade_generated (r : Report) (type : ReportType) : AllMade (r.generatePolicy type) := by
  rw [Report.generatePolicy]
  cases r.directive? Report.violatedKey with
  | none => exact allMade_invalid
  | some violated =>
      cases r.uri? Report.blockedKey with
      | none => exact allMade_invalid
      | some blocked =>
          dsimp only
          split
          · exact allMade_invalid
          · refine allMade_ofDirectives fun d listed => ?_
            rw [List.mem_singleton.mp listed]
            exact Directive.made_admitting violated type blocked

theorem allMade_compareWith {c : Policy} (first : AllMade p) (second : AllMade q)
    (member : c ∈ (p.compareWith q).common ++ (p.compareWith q).onlyLeft ++
      (p.compareWith q).onlyRight) : AllMade c := by
  rcases mem_basics_of_mem_compareWith member with inFirst | inSecond
  · exact allMade_of_mem_basics first inFirst
  · exact allMade_of_mem_basics second inSecond

theorem Made.allMade (made : Made p t) : AllMade p := by
  induction made with
  | invalid => exact allMade_invalid
  | parse p text => exact allMade_parse p text
  | ofDirectives directives => exact allMade_ofDirectives directives
  | combine _ _ first second => exact allMade_combine first second
  | stripPaths schemes _ whole => exact allMade_stripPaths schemes whole
  | basic _ part whole => exact allMade_of_mem_basics whole (List.of_mem_zip part).2
  | common _ _ part first second =>
      have inBoth := (List.of_mem_zip part).2
      exact allMade_compareWith first second
        (List.mem_append_left _ (List.mem_append_left _ inBoth))
  | onlyLeft _ _ part first second =>
      have inLeft := (List.of_mem_zip part).2
      exact allMade_compareWith first second
        (List.mem_append_left _ (List.mem_append_right _ inLeft))
  | onlyRight _ _ part first second =>
      exact allMade_compareWith first second (List.mem_append_right _ (List.of_mem_zip part).2)
  | generated r type => exact allMade_generated r type

end Policy

namespace PolicyTable

/-- Whether the directives are regular, stand under their types and hold no invalid source, and what
is no policy has none. -/
structure WellFormed (t : PolicyTable) : Prop where
  keyed : ∀ key d, t.directives.get? key = some d → d.type = key
  regular : ∀ key d, t.directives.get? key = some d → d.isRegular = true
  valid : ∀ key d, t.directives.get? key = some d → Source.invalid ∉ d.sources
  empty : t.isInvalid = true → t.directives = ∅

theorem Represents.wellFormed {t : PolicyTable} {p : Policy} (represents : t.Represents p)
    (made : p.AllMade) : t.WellFormed where
  keyed := by
    intro key d found
    obtain ⟨w, rfl⟩ := represents.regular found
    rfl
  regular := by
    intro key d found
    obtain ⟨w, rfl⟩ := represents.regular found
    rfl
  valid := by
    intro key d found member
    rw [represents.directives] at found
    exact Bool.noConfusion ((made key d found).valid member)
  empty := by
    intro isInvalid
    rw [represents.isInvalid] at isInvalid
    cases p with
    | valid m => cases isInvalid
    | invalid => exact SortedMap.ext_get? represents.directives

end PolicyTable

namespace Policy

/-- Policies that come about by the operations, in any order and number, and their tables: a table
is well-formed, with directives that come about by the operations on directives, and merging two
tables never fails, so that a combination is invalid for an invalid part or a conflict alone. -/
theorem wellFormed_of_made {p : Policy} {t : PolicyTable} (made : Made p t) :
    t.Represents p ∧ t.WellFormed ∧ (∀ key d, t.directives.get? key = some d → d.Made) ∧
      ∀ q u, Made q u →
        (∃ merged, PolicyTable.merge? t.directives u.directives = some merged) ∧
          (t.combine u).Represents (p.combine q) ∧
          (p.combine q = .invalid ↔ p = .invalid ∨ q = .invalid ∨ p.conflict q = true) := by
  have represents := made.represents
  refine ⟨represents, represents.wellFormed made.allMade, ?_, ?_⟩
  · intro key d found
    rw [represents.directives] at found
    exact made.allMade key d found
  · intro q u other
    obtain ⟨merged, run, _⟩ := PolicyTable.merge?_of_represents represents other.represents
    exact ⟨⟨merged, run⟩, PolicyTable.represents_combine represents other.represents,
      combine_eq_invalid_iff⟩

/-- A policy is read, combined with one gathered from an invalid source and a phrase, and stripped
of its paths; its table still merges with that of a policy with which it shares a type. -/
theorem wellFormed_of_made_images :
    let parser : PolicyParser := ⟨{ DirectiveParser.standard with knownSchemes := ∅ }, [], false, []⟩
    let gathered := [.make "img-src" [.invalid, .any], .restriction .inlineStyle]
    let p := ((parser.parse "img-src 'self'").combine (.ofDirectives gathered)).stripPaths []
    let t := ((parser.parseTable "img-src 'self'").combine (.ofDirectives gathered)).stripPaths []
    let q := parser.parse "img-src *"
    let u := parser.parseTable "img-src *"
    t.WellFormed ∧ (∃ merged, PolicyTable.merge? t.directives u.directives = some merged) ∧
      (t.combine u).Represents (p.combine q) ∧ p.combine q ≠ .invalid := by
  intro parser gathered p t q u
  have made : Made p t := by
    refine .stripPaths [] (.combine (.parse _ _) (.ofDirectives fun d listed => ?_))
    rcases List.mem_pair.mp listed with rfl | rfl
    · exact .make _ _
    · exact .restriction _
  obtain ⟨_, wellFormed, _, merging⟩ := wellFormed_of_made made
  obtain ⟨merged, represents, _⟩ := merging q u (.parse _ _)
  exact ⟨wellFormed, merged, represents, by decide⟩

end Policy

end ContentPolicy
