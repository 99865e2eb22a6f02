import ContentPolicy.Proofs.Directive.Reading
import ContentPolicy.Proofs.Policy.Reading

/-!
Replacing the directive for all types by copies while a policy is read, against falling back to it
when a resource is checked. Both give the same answer on all resources whose type is not the one for
all types.
-/

namespace ContentPolicy

namespace PolicyParser

theorem get?_firstOfEachType_regular {p : PolicyParser} {text : List Char}
    (noPhrase : ∀ segment ∈ text.splitOn ';', DirectiveParser.phrase? (Text.trim segment) = none)
    {type : String} {d : Directive}
    (found : (firstOfEachType (p.readSegments text)).get? type = some d) :
    ∃ sources, d = .make type sources := by
  rw [get?_firstOfEachType] at found
  have keyed : d.type = type := by simpa using List.find?_some found
  obtain ⟨inside, valid⟩ := List.mem_filter.mp (List.mem_of_find?_eq_some found)
  obtain ⟨segment, kept, rfl⟩ := List.mem_map.mp inside
  have plain := noPhrase segment (List.mem_filter.mp kept).1
  rcases p.directive.read_cases plain with bad | ⟨written, sources, made⟩
  · simp [bad] at valid
  · rw [made] at keyed ⊢
    cases keyed
    exact ⟨sources, rfl⟩

theorem governing_ofDirectives {m : SortedMap String Directive} (keyed : WellKeyed m)
    (type : String) (types : List String) :
    (Policy.ofDirectives m.values).governing type types =
      ((m.get? type).bind Directive.whitelist?).or
        (if types.contains type then
          some (((m.get? Policy.defaultType).bind Directive.whitelist?).getD (.singleton .any))
        else none) := by
  rw [Policy.governing, get?_ofDirectives keyed, get?_ofDirectives keyed]
  cases (m.get? type).bind Directive.whitelist? with
  | none => simp
  | some sources => rfl

/-- With a directive for all types, the copies govern the types that would have fallen back to it.
-/
theorem governing_expand {m : SortedMap String Directive} (keyed : WellKeyed m)
    (regular : ∀ type d, m.get? type = some d → ∃ sources, d = .make type sources)
    {default : Directive} (present : m.get? Policy.defaultType = some default)
    {type : String} (other : type ≠ Policy.defaultType) (types : List String) :
    (Policy.ofDirectives (expand types m).values).governing type types =
      (Policy.ofDirectives m.values).governing type types := by
  obtain ⟨sources, rfl⟩ := regular _ _ present
  have copied : (expand types m).get? type =
      (m.get? type).or (if type ∈ types then
        some (.make type (Whitelist.ofSources sources).toList) else none) := by
    rw [get?_expand, present]
    simp only [if_neg other]
    rfl
  rw [governing_ofDirectives (expand_wellKeyed types keyed), governing_ofDirectives keyed, copied,
    present]
  cases own : m.get? type with
  | some d =>
      obtain ⟨ownSources, rfl⟩ := regular _ _ own
      rfl
  | none =>
      by_cases listed : type ∈ types
      · have isListed : types.contains type = true := List.contains_iff_mem.mpr listed
        rw [if_pos listed, if_pos isListed, if_pos isListed]
        exact congrArg some (Whitelist.ofSources_toList fun _ => Whitelist.valid_of_mem_ofSources)
      · have notListed : ¬types.contains type = true := mt List.contains_iff_mem.mp listed
        rw [if_neg listed, if_neg notListed, if_neg notListed]
        rfl

/-- When no copy is made and nothing else is left, nothing governs the other types either way. -/
theorem governing_of_isEmpty_expand {m : SortedMap String Directive} (keyed : WellKeyed m)
    {default : Directive} (present : m.get? Policy.defaultType = some default) {types : List String}
    (empty : (expand types m).isEmpty = true) {type : String} (other : type ≠ Policy.defaultType) :
    (Policy.ofDirectives m.values).governing type types = none := by
  have absent := (SortedMap.isEmpty_iff _).mp empty type
  rw [get?_expand, present] at absent
  simp only [if_neg other] at absent
  obtain ⟨own, noCopy⟩ := Option.or_eq_none_iff.mp absent
  have notListed : ¬types.contains type = true := by
    intro listed
    rw [if_pos (List.contains_iff_mem.mp listed)] at noCopy
    cases noCopy
  rw [governing_ofDirectives keyed, own, if_neg notListed]
  rfl

theorem allows_ofDirectives (m : SortedMap String Directive) (resource : Uri) (type : String)
    (document : Uri) (ports : SchemePorts) (types : List String) :
    (Policy.ofDirectives m.values).allows resource type document ports types =
      match (Policy.ofDirectives m.values).governing type.toLower types with
      | some sources => sources.allows resource document ports
      | none => false := rfl

/-- Expanding the directive for all types while reading changes no answer about a resource of
another type, for a text in which no segment is a phrase. -/
theorem allows_expanded (p : PolicyParser) (text : String)
    (noPhrase : ∀ segment ∈ text.toList.splitOn ';',
      DirectiveParser.phrase? (Text.trim segment) = none)
    (resource document : Uri) (ports : SchemePorts) (type : String)
    (other : type.toLower ≠ Policy.defaultType) :
    ({ p with expandDefaultSrc := true }.parse text).allows resource type document ports
        p.defaultSrcTypes =
      ({ p with expandDefaultSrc := false }.parse text).allows resource type document ports
        p.defaultSrcTypes := by
  have keyed := firstOfEachType_wellKeyed (p.readSegments text.toList)
  have regular : ∀ type d, (firstOfEachType (p.readSegments text.toList)).get? type = some d →
      ∃ sources, d = .make type sources := fun _ _ => get?_firstOfEachType_regular noPhrase
  rw [parse, parse, read_eq, read_eq]
  change Policy.allows
      (if p.strict && (p.readSegments text.toList).contains .invalid ||
          (expand p.defaultSrcTypes (firstOfEachType (p.readSegments text.toList))).isEmpty
        then .invalid
        else .ofDirectives
          (expand p.defaultSrcTypes (firstOfEachType (p.readSegments text.toList))).values)
          _ _ _ _ _ =
    Policy.allows
      (if p.strict && (p.readSegments text.toList).contains .invalid ||
          (firstOfEachType (p.readSegments text.toList)).isEmpty
        then .invalid
        else .ofDirectives (firstOfEachType (p.readSegments text.toList)).values) _ _ _ _ _
  -- Both readers find the same first directives; from here on nothing else of the text matters.
  generalize firstOfEachType (p.readSegments text.toList) = first at keyed regular ⊢
  cases rejected : p.strict && (p.readSegments text.toList).contains .invalid with
  | true => rfl
  | false =>
      rw [Bool.false_or, Bool.false_or]
      cases present : first.get? Policy.defaultType with
      | none =>
          have unchanged : expand p.defaultSrcTypes first = first := by
            rw [expand, present]
          rw [unchanged]
      | some default =>
          have filled : ¬first.isEmpty = true := by
            intro empty
            rw [(SortedMap.isEmpty_iff first).mp empty] at present
            cases present
          rw [if_neg filled]
          by_cases empty : (expand p.defaultSrcTypes first).isEmpty = true
          -- Only the directive for all types was there, and it governs no other type.
          · have nothing := governing_of_isEmpty_expand keyed present empty other
            rw [if_pos empty, allows_ofDirectives, nothing]
            rfl
          · rw [if_neg empty]
            rw [allows_ofDirectives, allows_ofDirectives,
              governing_expand keyed regular present other]

theorem allows_expanded_images :
    (∀ segment ∈ "default-src 'self'; script-src *".toList.splitOn ';',
        DirectiveParser.phrase? (Text.trim segment) = none) ∧
      "IMG-SRC".toLower ≠ Policy.defaultType ∧
      ({ standard with expandDefaultSrc := true }.parse "default-src 'self'; script-src *").allows
          (.regular ⟨"http", "a.example", none, "/x", ""⟩) "IMG-SRC"
          (.regular ⟨"http", "a.example", none, "", ""⟩) .standard standard.defaultSrcTypes =
        ({ standard with expandDefaultSrc := false }.parse
          "default-src 'self'; script-src *").allows
          (.regular ⟨"http", "a.example", none, "/x", ""⟩) "IMG-SRC"
          (.regular ⟨"http", "a.example", none, "", ""⟩) .standard standard.defaultSrcTypes := by
  have noPhrase : ∀ segment ∈ "default-src 'self'; script-src *".toList.splitOn ';',
      DirectiveParser.phrase? (Text.trim segment) = none := by decide
  have other : "IMG-SRC".toLower ≠ Policy.defaultType := by decide +kernel
  exact ⟨noPhrase, other, allows_expanded standard _ noPhrase _ _ _ _ other⟩

end PolicyParser

end ContentPolicy
