import ContentPolicy.Directive.Parser
import ContentPolicy.Proofs.Source.Reading

/-!
What a text must be for a directive to be read from it, and what the directive then holds: an
allowed type, and valid sources that are each read from one of the words.
-/

namespace ContentPolicy

open Text

namespace Whitelist

theorem mem_ofSources (sources : List Source) (s : Source) :
    s ∈ ofSources sources ↔ s ∈ sources ∧ s.isInvalid = false := by
  rw [ofSources, SortedSet.mem_ofList, List.mem_filter, Bool.not_eq_true']

theorem ofSources_toList {w : Whitelist} (valid : ∀ s ∈ w, s.isInvalid = false) :
    ofSources w.toList = w := by
  apply SortedSet.ext_mem
  intro s
  rw [mem_ofSources, ← SortedSet.mem_def]
  exact and_iff_left_of_imp (valid s)

theorem valid_of_mem_ofSources {sources : List Source} {s : Source}
    (member : s ∈ ofSources sources) : s.isInvalid = false :=
  ((mem_ofSources sources s).mp member).2

end Whitelist

namespace DirectiveParser

theorem standardTypes_isToken {type : String} (listed : type ∈ standardTypes) :
    IsToken type.toList := by
  have all : ∀ t ∈ standardTypes, IsToken t.toList := by decide
  exact all type listed

variable {p : DirectiveParser} {text : List Char}

theorem read_regular {type : String} {w : Whitelist} (found : p.read text = .regular type w) :
    ∃ written rest sources, cut? (fun c => decide (c = ' ')) (trim text) = some (written, rest) ∧
      type = p.currentType written ∧ p.allowedTypes.contains type = true ∧
      p.readSources? type (words rest) = some sources ∧ w = .ofSources sources := by
  rw [read] at found
  dsimp only at found
  split at found
  · cases found
  · split at found
    · cases found
    · rename_i written rest cut
      split at found
      · cases found
      · rename_i good
        split at found
        · rename_i sources read
          have allowed : p.allowedTypes.contains (p.currentType written) = true := by
            rw [Bool.not_eq_true, Bool.or_eq_false_iff, Bool.not_eq_false'] at good
            exact good.2
          cases found
          exact ⟨written, rest, sources, cut, rfl, allowed, read, rfl⟩
        · cases found

theorem type_of_read {d : Directive} {text : String} (valid : d ≠ .invalid)
    (found : p.parse text = d) :
    p.allowedTypes.contains d.type = true ∨ ∃ phrase ∈ Restriction.all, d.type = phrase.type := by
  cases d with
  | regular type w =>
      obtain ⟨_, _, _, _, _, allowed, _, _⟩ := read_regular found
      exact .inl allowed
  | restriction phrase => exact .inr ⟨phrase, by cases phrase <;> decide, rfl⟩
  | invalid => exact absurd rfl valid

/-- A text that is no phrase is read as a directive with a whitelist, or as none. -/
theorem read_cases (notPhrase : phrase? (trim text) = none) :
    p.read text = .invalid ∨ ∃ type sources, p.read text = .make type sources := by
  cases found : p.read text with
  | regular type w =>
      obtain ⟨_, _, sources, _, _, _, _, rfl⟩ := read_regular found
      exact .inr ⟨type, sources, rfl⟩
  | restriction phrase =>
      rw [read] at found
      dsimp only at found
      rw [notPhrase] at found
      dsimp only at found
      split at found
      · cases found
      · split at found
        · cases found
        · split at found
          · cases found
          · cases found
  | invalid => exact .inl rfl

theorem mem_readSources? {type : String} {ws : List (List Char)} {sources : List Source}
    (found : p.readSources? type ws = some sources) {s : Source} (member : s ∈ sources) :
    ∃ word ∈ ws, p.sourceParser.read word = s := by
  have origin : s ∈ (ws.filter fun w => !isNone w).map p.sourceParser.read := by
    rw [readSources?] at found
    split at found
    · split at found
      · cases found
      · cases found
        exact member
    · cases found
      exact (List.mem_filter.mp member).1
  obtain ⟨word, kept, image⟩ := List.mem_map.mp origin
  exact ⟨word, (List.mem_filter.mp kept).1, image⟩

theorem readable_of_read (named : p.knownSchemes.Named) (clear : ∀ c ∈ text, c ≠ ';')
    {type : String} {w : Whitelist} (found : p.read text = .regular type w) :
    p.allowedTypes.contains type = true ∧ ∀ s ∈ w, s.Readable p.knownSchemes := by
  obtain ⟨written, rest, sources, cut, _, allowed, read, rfl⟩ := read_regular found
  refine ⟨allowed, fun s member => ?_⟩
  obtain ⟨inside, valid⟩ := (Whitelist.mem_ofSources sources s).mp member
  obtain ⟨word, isWord, rfl⟩ := mem_readSources? read inside
  obtain ⟨mark, _, whole, _⟩ := cut?_eq_some cut
  have clearRest : ∀ c ∈ rest, c ≠ ';' := by
    intro c later
    apply clear c
    apply mem_of_mem_trim
    rw [whole]
    exact List.mem_append_right _ (List.mem_cons_of_mem _ later)
  exact SourceParser.read_readable named (token_of_mem_words clearRest isWord) valid

end DirectiveParser

end ContentPolicy
