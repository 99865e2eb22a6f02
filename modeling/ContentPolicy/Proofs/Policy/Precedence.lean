import ContentPolicy.Proofs.Policy.Reading

/-!
Which segments of a text make up the policy that is read from it, by a reader that does not expand
the directive for all types. Of the segments that count, the first directive of a type decides about
this type: it is found in the policy, or it is a browser's phrase, and then nothing is.
-/

namespace ContentPolicy

open Text

theorem Directive.map_whitelist?_eq_filter {found : Option Directive} {type : String}
    (keyed : ∀ d ∈ found, d.type = type) :
    (found.bind whitelist?).map (.regular type) = found.filter isRegular := by
  cases found with
  | none => rfl
  | some d =>
      cases d with
      | regular own sources =>
          obtain rfl : own = type := keyed _ rfl
          rfl
      | restriction phrase => rfl
      | invalid => rfl

namespace PolicyParser

/-- Whether the first word of a segment, if it has one, is no ignored type in any letter case. -/
def Counts (p : PolicyParser) (segment : List Char) : Prop :=
  ∀ word, (words segment).head? = some word →
    ∀ type ∈ p.ignoredTypes, lower word ≠ lower type.toList

theorem isIgnored_eq_false_iff {p : PolicyParser} {segment : List Char} :
    p.isIgnored segment = false ↔ p.Counts segment := by
  rw [isIgnored, Counts]
  cases words segment with
  | nil => exact iff_of_true rfl nofun
  | cons word rest => simp [spells, sameIgnoringCase]

instance (p : PolicyParser) (segment : List Char) : Decidable (p.Counts segment) :=
  decidable_of_iff _ isIgnored_eq_false_iff

def segments (p : PolicyParser) (text : List Char) : List (List Char) :=
  (text.splitOn ';').filter fun segment => p.Counts segment

theorem readSegments_eq (p : PolicyParser) (text : List Char) :
    p.readSegments text = (p.segments text).map p.directive.read := by
  refine congrArg (List.map p.directive.read) (List.filter_congr fun segment _ => ?_)
  rw [Bool.eq_iff_iff, Bool.not_eq_true', isIgnored_eq_false_iff, decide_eq_true_eq]

theorem firstOfEachType_isEmpty_iff (ds : List Directive) :
    (firstOfEachType ds).isEmpty = true ↔ ∀ d ∈ ds, d = .invalid := by
  simp only [SortedMap.isEmpty_iff, get?_firstOfEachType, List.find?_eq_none, List.mem_filter,
    decide_eq_true_eq]
  constructor
  · intro absent d member
    exact Decidable.byContradiction fun valid => absent d.type d ⟨member, valid⟩ rfl
  · rintro all type d ⟨member, valid⟩ _
    exact valid (all d member)

variable {p : PolicyParser}

theorem byType_of_kept (kept : p.expandDefaultSrc = false) (text : List Char) :
    p.byType text = firstOfEachType (p.readSegments text) := by
  rw [byType, kept]
  exact if_neg Bool.false_ne_true

theorem read_eq_invalid_iff (kept : p.expandDefaultSrc = false) (text : List Char) :
    p.read text = .invalid ↔
      (p.strict = true ∧ ∃ s ∈ p.segments text, p.directive.read s = .invalid) ∨
        ∀ s ∈ p.segments text, p.directive.read s = .invalid := by
  have outcome : p.read text = .invalid ↔ (p.strict && (p.readSegments text).contains .invalid ||
      (p.byType text).isEmpty) = true := by
    rw [read_eq]
    split
    · rename_i rejected
      exact iff_of_true rfl rejected
    · rename_i accepted
      exact iff_of_false Policy.noConfusion accepted
  rw [outcome, byType_of_kept kept, Bool.or_eq_true, Bool.and_eq_true, List.contains_iff_mem,
    firstOfEachType_isEmpty_iff, readSegments_eq, List.mem_map, List.forall_mem_map]

theorem directive?_read (kept : p.expandDefaultSrc = false) {text : List Char}
    (valid : p.read text ≠ .invalid) (type : String) :
    (p.read text).directive? type =
      (((p.segments text).find? fun s =>
          p.directive.read s ≠ .invalid ∧ (p.directive.read s).type = type).map
        p.directive.read).filter Directive.isRegular := by
  have first : (p.byType text).get? type =
      ((p.segments text).find? fun s =>
        p.directive.read s ≠ .invalid ∧ (p.directive.read s).type = type).map p.directive.read := by
    rw [byType_of_kept kept, get?_firstOfEachType, readSegments_eq, List.find?_filter,
      List.find?_map]
    refine congrArg (fun test => Option.map p.directive.read (List.find? test _)) ?_
    funext s
    simp
  cases found : p.read text with
  | invalid => exact absurd found valid
  | valid m =>
      rw [Policy.directive?, Policy.whitelists, get?_read found, ← first]
      exact Directive.map_whitelist?_eq_filter fun d present =>
        byType_wellKeyed p text type d present

/-- A text is no policy exactly when a strict reader meets a segment that is no directive, or no
segment is one. Otherwise the directive of a type is the first of this type among the segments that
count, in whatever order and how often types come; where that one is a browser's phrase, or where
there is none, the policy has no directive of the type. -/
theorem parse_first_wins (p : PolicyParser) (kept : p.expandDefaultSrc = false) (text : String) :
    let segments := p.segments text.toList
    let read := p.directive.read
    (p.parse text = .invalid ↔
        (p.strict = true ∧ ∃ s ∈ segments, read s = .invalid) ∨ ∀ s ∈ segments, read s = .invalid) ∧
      (p.parse text ≠ .invalid → ∀ type, (p.parse text).directive? type =
        ((segments.find? fun s => read s ≠ .invalid ∧ (read s).type = type).map read).filter
          Directive.isRegular) :=
  ⟨read_eq_invalid_iff kept text.toList, fun valid => directive?_read kept valid⟩

/-- A lenient reader, and a text with a blank segment, an ignored one, one that is no directive, a
phrase in front of a directive of its type, and two directives of one type. -/
theorem parse_first_wins_phrase :
    let p : PolicyParser :=
      ⟨{ DirectiveParser.standard with knownSchemes := ∅, strict := false }, ["sandbox"], false, []⟩
    let text := "; SANDBOX x; img-src; img-src 'self'; inline style base restriction; " ++
      "style-src 'self'; img-src *"
    p.expandDefaultSrc = false ∧ p.parse text ≠ .invalid ∧
      (p.parse text).directive? "img-src" = some (.make "img-src" [.self]) ∧
      (p.parse text).directive? "style-src" = none := by
  intro p text
  have kept : p.expandDefaultSrc = false := rfl
  obtain ⟨invalid, first⟩ := parse_first_wins p kept text
  have valid : p.parse text ≠ .invalid := mt invalid.mp (by decide)
  exact ⟨kept, valid, (first valid "img-src").trans (by decide),
    (first valid "style-src").trans (by decide)⟩

end PolicyParser

end ContentPolicy
