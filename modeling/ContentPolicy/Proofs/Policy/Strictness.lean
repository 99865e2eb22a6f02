import ContentPolicy.Policy.Parser

/-!
Strict and lenient readers of directives and policies. A lenient reader drops what is bad where a
strict one gives up; on a text in which nothing is bad there is nothing to drop, and both read the
same.
-/

namespace ContentPolicy

namespace DirectiveParser

variable {p : DirectiveParser}

theorem readSources?_lenient {type : String} {words : List (List Char)} {sources : List Source}
    (found : p.readSources? type words = some sources) :
    { p with strict := false }.readSources? type words = some sources := by
  rw [readSources?] at found
  split at found
  · split at found
    · cases found
    -- All sources may stand where they are, so that none of them is dropped.
    · rename_i good
      simp only [Bool.or_eq_true, Bool.not_eq_true', not_or, Bool.not_eq_false] at good
      cases found
      exact congrArg some (List.filter_eq_self.mpr (List.all_eq_true.mp good.2))
  · exact found

theorem read_lenient {text : List Char} (valid : p.read text ≠ .invalid) :
    { p with strict := false }.read text = p.read text := by
  have type : ∀ written, { p with strict := false }.currentType written = p.currentType written :=
    fun _ => rfl
  cases phrase : phrase? (Text.trim text) with
  | some r => simp only [read, phrase]
  | none =>
      cases cut : Text.cut? (· = ' ') (Text.trim text) with
      | none => simp only [read, phrase, cut]
      | some parts =>
          simp only [read, phrase, cut, type] at valid ⊢
          split
          · rfl
          · rename_i allowed
            rw [if_neg allowed] at valid
            cases found : p.readSources? (p.currentType parts.1) (Text.words parts.2) with
            | none => exact absurd (by rw [found]) valid
            | some sources => rw [readSources?_lenient found]

end DirectiveParser

namespace PolicyParser

variable {p : PolicyParser}

theorem withStrict_of_lenient (lenient : p.strict = false) : p.withStrict false = p := by
  obtain ⟨⟨renamed, allowed, schemes, strict⟩, ignored, expand, types⟩ := p
  exact congrArg (fun s => (⟨⟨renamed, allowed, schemes, s⟩, ignored, expand, types⟩ : PolicyParser))
    lenient.symm

theorem readSegments_lenient {text : List Char} (valid : .invalid ∉ p.readSegments text) :
    (p.withStrict false).readSegments text = p.readSegments text := by
  apply List.map_congr_left
  intro segment kept
  apply DirectiveParser.read_lenient
  intro invalid
  exact valid (List.mem_map.mpr ⟨segment, kept, invalid⟩)

theorem read_lenient {text : List Char} (valid : (p.read text).isInvalid = false) :
    (p.withStrict false).read text = p.read text := by
  cases strict : p.strict with
  | false => rw [withStrict_of_lenient strict]
  | true =>
      by_cases bad : .invalid ∈ p.readSegments text
      · rw [read] at valid
        simp only [strict, Bool.true_and, List.contains_iff_mem.mpr bad, if_true] at valid
        cases valid
      · have good : (p.readSegments text).contains .invalid = false :=
          Bool.eq_false_iff.mpr (mt List.contains_iff_mem.mp bad)
        simp only [read, readSegments_lenient bad, good, Bool.and_false]
        rfl

end PolicyParser

end ContentPolicy
