import ContentPolicy.Proofs.File.Lines
import ContentPolicy.Proofs.Generation.Violations
import ContentPolicy.Proofs.Policy.Stripping
import ContentPolicy.Proofs.Settings.Standard

/-!
The policy that a file of events gives. No event has a policy with the directive for all types, so
the policies of all events can be combined, and what comes out is their union.
-/

namespace ContentPolicy

theorem Gathered.policies_ofLines {α : Type} (parse? : String → Option α) (generate : α → Policy)
    (lines : List String) :
    (ofLines parse? generate lines).policies =
      (lines.filterMap fun line => (parse? line).map generate).filter fun q => !q.isInvalid := by
  simp only [ofLines, (Loading.covers_ofLines parse? lines).values, List.map_filterMap]

namespace Settings

open Policy

theorem addGenerated_eq_some_iff {combined p next : Policy} :
    addGenerated combined p = some next ↔ combined.combine p = next ∧ next.isInvalid = false := by
  rw [addGenerated, Option.guard_eq_some_iff, Bool.not_eq_true']
  constructor
  · rintro ⟨rfl, isValid⟩
    exact ⟨rfl, isValid⟩
  · rintro ⟨rfl, isValid⟩
    exact ⟨rfl, isValid⟩

/-- Checking each step is checking the end, since what is invalid stays so. -/
theorem foldlM_addGenerated_iff {ps : List Policy} {start final : Policy}
    (isValid : start.isInvalid = false) :
    ps.foldlM addGenerated start = some final ↔
      ps.foldl Policy.combine start = final ∧ final.isInvalid = false := by
  induction ps generalizing start with
  | nil =>
      constructor
      · rintro ⟨rfl⟩
        exact ⟨rfl, isValid⟩
      · rintro ⟨rfl, _⟩
        rfl
  | cons p rest ih =>
      rw [List.foldlM_cons]
      constructor
      · intro run
        obtain ⟨next, step, later⟩ := Option.bind_eq_some_iff.mp run
        obtain ⟨rfl, stepValid⟩ := addGenerated_eq_some_iff.mp step
        exact (ih stepValid).mp later
      · rintro ⟨rfl, finalValid⟩
        have stepValid := combine_valid_of_foldl finalValid
        exact Option.bind_eq_some_iff.mpr
          ⟨_, addGenerated_eq_some_iff.mpr ⟨rfl, stepValid⟩, (ih stepValid).mpr ⟨rfl, finalValid⟩⟩

def eventPolicies (s : Settings) (source : EventSource) (lines : List String) : List Policy :=
  (lines.filterMap (s.eventPolicy? source)).filter fun q => !q.isInvalid

theorem mem_eventPolicies {s : Settings} {source : EventSource} {lines : List String} {q : Policy} :
    q ∈ s.eventPolicies source lines ↔
      (∃ line ∈ lines, s.eventPolicy? source line = some q) ∧ q.isInvalid = false := by
  rw [eventPolicies, List.mem_filter, List.mem_filterMap, Bool.not_eq_true']

theorem length_eventPolicies_le (s : Settings) (source : EventSource) (lines : List String) :
    (s.eventPolicies source lines).length ≤ lines.length :=
  (List.length_filter_le _ _).trans (List.length_filterMap_le _ _)

theorem not_hasDefault_of_mem {s : Settings} {source : EventSource} {lines : List String}
    {q : Policy} (member : q ∈ s.eventPolicies source lines) : ¬q.HasDirective defaultType := by
  obtain ⟨⟨line, _, found⟩, isValid⟩ := mem_eventPolicies.mp member
  obtain ⟨v, _, admissible, rfl⟩ := violation_of_eventPolicy? found isValid
  exact fun default => admissible.notDefault ((v.hasDirective_policy defaultType).mp default).symm

theorem combinable_eventPolicies (s : Settings) (source : EventSource) (lines : List String) :
    Combinable (s.eventPolicies source lines) :=
  ⟨fun _ member => (mem_eventPolicies.mp member).2, .inl fun _ => not_hasDefault_of_mem⟩

def kept (s : Settings) (stripPaths : Bool) (p : Policy) : Policy :=
  if stripPaths then p.stripPaths s.schemeOnly else p

theorem policies_gather (s : Settings) (source : EventSource) (lines : List String) :
    (s.gather source lines).policies = s.eventPolicies source lines := by
  cases source with
  | reports type => exact Gathered.policies_ofLines s.readReport? _ lines
  | logEntries => exact Gathered.policies_ofLines s.readLogEntry? _ lines

/-- Each line is counted once, as an entry or as one that could not be read. -/
theorem parsed_add_unparsable (s : Settings) (source : EventSource) (lines : List String) :
    (s.gather source lines).tally.parsed + (s.gather source lines).tally.unparsable =
      lines.length := by
  cases source with
  | reports type => exact (Loading.covers_ofLines s.readReport? lines).total
  | logEntries => exact (Loading.covers_ofLines s.readLogEntry? lines).total

theorem generated_gather (s : Settings) (source : EventSource) (lines : List String) :
    (s.gather source lines).tally.generated = (s.eventPolicies source lines).length := by
  rw [← s.policies_gather source lines]
  cases source with
  | reports type => rfl
  | logEntries => rfl

def generation (s : Settings) (source : EventSource) (stripPaths : Bool) (lines : List String) :
    Generation where
  policy := s.kept stripPaths (combineAll (s.eventPolicies source lines))
  entriesRead := lines.length
  policiesGenerated := (s.eventPolicies source lines).length

variable (s : Settings) (source : EventSource) (stripPaths : Bool)

theorem hasDirective_kept (q : Policy) (type : String) :
    (s.kept stripPaths q).HasDirective type ↔ q.HasDirective type := by
  cases stripPaths with
  | true => exact hasDirective_strip s.schemeOnly q type
  | false => exact Iff.rfl

theorem generation_valid (lines : List String) :
    (s.generation source stripPaths lines).policy.isInvalid = false := by
  have isValid := (isInvalid_combineAll_iff _).mpr (s.combinable_eventPolicies source lines)
  cases stripPaths with
  | true => exact (isInvalid_strip s.schemeOnly _).trans isValid
  | false => exact isValid

theorem isUnion_generation (lines : List String) :
    (s.generation source stripPaths lines).policy.IsUnion
      ((s.eventPolicies source lines).map (s.kept stripPaths)) := by
  have union := isUnion_combineAll (s.combinable_eventPolicies source lines)
  cases stripPaths with
  | true => exact isUnion_strip s.schemeOnly union
  | false => exact (List.map_id (s.eventPolicies source lines)).symm ▸ union

theorem not_hasDefault_generation (lines : List String) :
    ¬(s.generation source stripPaths lines).policy.HasDirective defaultType := by
  intro default
  obtain ⟨_, image, has⟩ := ((s.isUnion_generation source stripPaths lines).types _).mp default
  obtain ⟨q, member, rfl⟩ := List.mem_map.mp image
  exact not_hasDefault_of_mem member ((s.hasDirective_kept stripPaths q defaultType).mp has)

theorem generation_perm {lines lines' : List String} (order : lines'.Perm lines) :
    s.generation source stripPaths lines' = s.generation source stripPaths lines := by
  have policies : (s.eventPolicies source lines').Perm (s.eventPolicies source lines) :=
    (order.filterMap _).filter _
  rw [generation, generation, combineAll_congr fun _ => policies.mem_iff, policies.length_eq,
    order.length_eq]

theorem combineGathered_gather (lines : List String) :
    s.combineGathered stripPaths (s.gather source lines) =
      some (s.generation source stripPaths lines) := by
  have fits := s.combinable_eventPolicies source lines
  have run : (s.eventPolicies source lines).foldlM addGenerated .empty =
      some (combineAll (s.eventPolicies source lines)) :=
    (foldlM_addGenerated_iff rfl).mpr ⟨rfl, (isInvalid_combineAll_iff _).mpr fits⟩
  rw [combineGathered, s.policies_gather, run, s.parsed_add_unparsable, s.generated_gather]
  rfl

theorem result_generate {file : FileLines} (readable : file.error = none) :
    (s.generate source stripPaths file).result =
      .ok (s.generation source stripPaths file.lines) := by
  rw [generate, readable, combineGathered_gather]

theorem eq_generation_of_result {file : FileLines} {g : Generation}
    (done : (s.generate source stripPaths file).result = .ok g) :
    g = s.generation source stripPaths file.lines := by
  cases error : file.error with
  | none =>
      rw [s.result_generate source stripPaths error] at done
      exact (Except.ok.inj done).symm
  | some e =>
      rw [generate, error] at done
      cases done

theorem result_generate_ne_cannotCombine (file : FileLines) :
    (s.generate source stripPaths file).result ≠ .error .cannotCombine := by
  cases error : file.error with
  | none =>
      rw [s.result_generate source stripPaths error]
      exact nofun
  | some e =>
      rw [generate, error]
      exact nofun

/-- A file of text always gives a policy. It is the union of the policies of the events, has no
directive for all types and does not depend on the order of the lines, and the counts add up. -/
theorem generate_text :
    (∀ file : FileLines, (s.generate source stripPaths file).result ≠ .error .cannotCombine) ∧
      ∀ (path : String) (text : List Char), ∃ g : Generation,
        (s.generate source stripPaths (.ofContent path (.ok (Lines.encode text)))).result = .ok g ∧
        g.policy.isInvalid = false ∧ g.policy.hasDefault = false ∧
        g.policy.IsUnion ((s.eventPolicies source (Lines.entries text)).map (s.kept stripPaths)) ∧
        g.receipt.entriesRead = (Lines.nonBlank text).length ∧
        g.receipt.policiesGenerated = (s.eventPolicies source (Lines.entries text)).length ∧
        g.receipt.policiesGenerated ≤ g.receipt.entriesRead ∧
        g.receipt.policiesGenerated + g.receipt.entriesSkipped = g.receipt.entriesRead ∧
        ∀ text' : List Char, (Lines.nonBlank text').Perm (Lines.nonBlank text) →
          (s.generate source stripPaths (.ofContent path (.ok (Lines.encode text')))).result =
            .ok g := by
  refine ⟨s.result_generate_ne_cannotCombine source stripPaths, fun path text => ?_⟩
  simp only [FileLines.ofContent_encode]
  have bound := s.length_eventPolicies_le source (Lines.entries text)
  refine ⟨s.generation source stripPaths (Lines.entries text),
    ?_, ?_, ?_, ?_, ?_, rfl, bound, ?_, ?_⟩
  · exact s.result_generate source stripPaths rfl
  · exact s.generation_valid source stripPaths _
  · exact Bool.eq_false_iff.mpr
      (mt (hasDefault_iff _).mp (s.not_hasDefault_generation source stripPaths _))
  · exact s.isUnion_generation source stripPaths _
  · exact List.length_map _
  · exact Nat.add_sub_cancel' bound
  · intro text' order
    rw [s.result_generate source stripPaths rfl]
    exact congrArg Except.ok (s.generation_perm source stripPaths (order.map Lines.trimmed))

/-- A report and a line that is none, in either order and with a blank line between them. -/
theorem generate_text_swapped :
    let report := "\x7b\"violated-directive\":\"img-src 'self'\"," ++
      "\"document-uri\":\"http://d\",\"blocked-uri\":\"http://b/x\"\x7d"
    let text := ("no report\n" ++ report).toList
    let text' := (report ++ "\n \nno report\n").toList
    let run (text : List Char) :=
      ((Settings.standard .strict true).generate (.reports .regular) true
        (.ofContent "reports" (.ok (Lines.encode text)))).result
    (Lines.nonBlank text').Perm (Lines.nonBlank text) ∧
      ∃ g : Generation, run text = .ok g ∧ run text' = .ok g ∧ g.receipt.entriesRead = 2 := by
  intro report text text' run
  have lines : Lines.nonBlank text = ["no report".toList, report.toList] := by decide
  have lines' : Lines.nonBlank text' = [report.toList, "no report".toList] := by decide
  have order : (Lines.nonBlank text').Perm (Lines.nonBlank text) := by
    rw [lines, lines']
    exact List.Perm.swap _ _ _
  obtain ⟨g, done, _, _, _, entries, _, _, _, same⟩ :=
    (generate_text (Settings.standard .strict true) (.reports .regular) true).2 "reports" text
  exact ⟨order, g, done, same text' order, entries.trans (congrArg List.length lines)⟩

end Settings

end ContentPolicy
