import ContentPolicy.Proofs.Policy.Rereading

/-!
Reading a policy, writing it and reading it again. What was read is made of plain types and readable
sources, so the policy comes back exactly when each of its sources may stand where it is and is
unambiguous.
-/

namespace ContentPolicy

namespace PolicyParser

variable {p : PolicyParser} {text : List Char}

theorem readable_of_first (named : p.directive.knownSchemes.Named) {type key : String}
    {w : Whitelist}
    (found : (firstOfEachType (p.readSegments text)).get? key = some (.regular type w)) :
    p.directive.allowedTypes.contains type = true ∧
      ∀ s ∈ w, s.Readable p.directive.knownSchemes := by
  rw [get?_firstOfEachType] at found
  obtain ⟨inside, _⟩ := List.mem_filter.mp (List.mem_of_find?_eq_some found)
  obtain ⟨segment, kept, read⟩ := List.mem_map.mp inside
  exact DirectiveParser.readable_of_read named
    (Text.ne_of_mem_splitOn (List.mem_filter.mp kept).1) read

theorem readable_of_byType (named : p.directive.knownSchemes.Named) {type : String} {w : Whitelist}
    (found : (p.byType text).get? type = some (.regular type w)) :
    (p.directive.allowedTypes.contains type = true ∨ type ∈ p.defaultSrcTypes) ∧
      ∀ s ∈ w, s.Readable p.directive.knownSchemes := by
  rcases byType_cases found with own | ⟨listed, default, present, copy⟩
  · have first := readable_of_first named own
    exact ⟨.inl first.1, first.2⟩
  -- A copy has the sources of the directive for all types, but stands under a type of the list.
  · refine ⟨.inr listed, fun s member => ?_⟩
    cases copy
    have inDefault := ((Whitelist.mem_ofSources _ s).mp member).1
    cases default with
    | regular key sources => exact (readable_of_first named present).2 s inDefault
    | restriction phrase => exact absurd inDefault (SortedSet.not_mem_empty s)
    | invalid => exact absurd inDefault (SortedSet.not_mem_empty s)

/-- A whitelist of a policy that was read stands under an allowed type, or under one that falls back
to the directive for all types. -/
theorem readable_of_get? (named : p.directive.knownSchemes.Named) {m : SortedMap String Whitelist}
    (read : p.read text = .valid m) {type : String} {w : Whitelist} (found : m.get? type = some w) :
    (p.directive.allowedTypes.contains type = true ∨ type ∈ p.defaultSrcTypes) ∧
      ∀ s ∈ w, s.Readable p.directive.knownSchemes := by
  rw [get?_read read] at found
  obtain ⟨d, counts, listed⟩ := Option.bind_eq_some_iff.mp found
  cases d with
  | regular key sources =>
      obtain rfl : key = type := byType_wellKeyed p text _ _ counts
      cases listed
      exact readable_of_byType named counts
  | restriction phrase => cases listed
  | invalid => cases listed

theorem readable_of_read (named : p.directive.knownSchemes.Named)
    (plain : ∀ type, p.directive.allowedTypes.contains type = true ∨ type ∈ p.defaultSrcTypes →
      p.PlainType type)
    {m : SortedMap String Whitelist} (read : p.read text = .valid m)
    (notEmpty : m.isEmpty = false) : p.Readable m := by
  have origin : ∀ e ∈ m.entries,
      (p.directive.allowedTypes.contains e.1 = true ∨ e.1 ∈ p.defaultSrcTypes) ∧
        ∀ s ∈ e.2, s.Readable p.directive.knownSchemes := fun _ entry =>
    readable_of_get? named read (SortedMap.get?_of_mem entry)
  exact ⟨notEmpty, named, fun e entry => plain e.1 (origin e entry).1,
    fun e entry => (origin e entry).2⟩

theorem no_default_of_read (expands : p.expandDefaultSrc = true)
    (notListed : Policy.defaultType ∉ p.defaultSrcTypes) {m : SortedMap String Whitelist}
    (read : p.read text = .valid m) : m.get? Policy.defaultType = none := by
  rw [get?_read read, byType, if_pos expands, get?_expand]
  cases (firstOfEachType (p.readSegments text)).get? Policy.defaultType with
  | none => rfl
  | some default => simp [notListed]

theorem standard_plain_of_listed (strict : Bool) (type : String)
    (listed : (standard.withStrict strict).directive.allowedTypes.contains type = true ∨
      type ∈ (standard.withStrict strict).defaultSrcTypes) :
    (standard.withStrict strict).PlainType type := by
  have fallbacks : ∀ t ∈ standardDefaultSrcTypes, t ∈ DirectiveParser.standardTypes := by
    decide
  have isStandard : type ∈ DirectiveParser.standardTypes := by
    rcases listed with allowed | fallback
    · exact List.contains_iff_mem.mp allowed
    · exact fallbacks type fallback
  exact standard_plain strict isStandard

/-- A policy that the standard reader gave comes back from its written form exactly when each source
may stand in its directive, copies of the directive for all types included, and is unambiguous. -/
theorem parse_text_of_parse_iff {text : String} {m : SortedMap String Whitelist}
    (parsed : standard.parse text = .valid m) (notEmpty : m.isEmpty = false) :
    standard.parse (Policy.valid m).text = .valid m ↔
      ∀ e ∈ m.entries, ∀ s ∈ e.2,
        DirectiveParser.admits e.1 s = true ∧ s.isUnambiguous .standard = true := by
  have readable : standard.Readable m :=
    readable_of_read SchemePorts.standard_named (standard_plain_of_listed true) parsed notEmpty
  have notListed : Policy.defaultType ∉ standard.defaultSrcTypes := by decide
  have noDefault : standard.expandDefaultSrc = true → m.get? Policy.defaultType = none :=
    fun expands => no_default_of_read expands notListed parsed
  rw [parse, Policy.text, String.toList_ofList]
  constructor
  · intro same e entry
    have directive := directives_of_read_render readable noDefault rfl same e entry
    have clear := DirectiveParser.unambiguous_of_read_render readable.named
      (readable.plain e entry).toPlainType rfl (readable.sources e entry) directive
    exact clear
  · intro clear
    apply read_render_of_directives readable noDefault
    intro e entry
    exact DirectiveParser.read_render_of_unambiguous readable.named
      (readable.plain e entry).toPlainType (readable.sources e entry) (clear e entry)

/-- Copies of the directive for all types come back with an escaped path and a keyword where it may
stand. A keyword that is copied to types that do not admit it does not. -/
theorem parse_text_of_parse_copies :
    let text := "default-src http://a.d/x%3By; script-src 'self' 'unsafe-eval'"
    let page : Whitelist := .singleton (.uri ⟨"http", "a.d", none, "/x;y"⟩)
    let types := standardDefaultSrcTypes.erase "script-src"
    let m : SortedMap String Whitelist :=
      .ofList (("script-src", .ofList [.self, .unsafeEval]) :: types.map fun type => (type, page))
    let code : SortedMap String Whitelist :=
      .ofList (standardDefaultSrcTypes.map fun type => (type, .singleton .unsafeEval))
    (standard.parse text = .valid m ∧ m.isEmpty = false ∧
        standard.parse (Policy.valid m).text = .valid m) ∧
      standard.parse "default-src 'unsafe-eval'" = .valid code ∧ code.isEmpty = false ∧
        standard.parse (Policy.valid code).text ≠ .valid code := by
  intro text page types m code
  have parsed : standard.parse text = .valid m ∧ m.isEmpty = false := by decide +kernel
  have clear : ∀ e ∈ m.entries, ∀ s ∈ e.2.toList,
      DirectiveParser.admits e.1 s = true ∧ s.isUnambiguous .standard = true := by
    decide +kernel
  have copied : standard.parse "default-src 'unsafe-eval'" = .valid code ∧
      code.isEmpty = false := by
    decide +kernel
  have image : ("img-src", SortedSet.singleton Source.unsafeEval) ∈ code.entries := by
    decide +kernel
  refine ⟨⟨parsed.1, parsed.2, (parse_text_of_parse_iff parsed.1 parsed.2).mpr clear⟩,
    copied.1, copied.2, fun same => ?_⟩
  have admitted := (parse_text_of_parse_iff copied.1 copied.2).mp same _ image _ List.mem_cons_self
  exact absurd admitted.1 (by decide)

/-- The data of a scheme without slashes are written after two slashes, and read back as a path. -/
theorem parse_text_of_parse_data :
    ¬∀ (text : String) (m : SortedMap String Whitelist), standard.parse text = .valid m →
      m.isEmpty = false → standard.parse (Policy.valid m).text = .valid m := by
  intro all
  have parsed : standard.parse "img-src data:image/png" =
      .valid (.singleton "img-src" (.singleton (.uri ⟨"data", "image/png", none, ""⟩))) := by
    decide +kernel
  have same := all _ _ parsed rfl
  exact absurd same (by decide +kernel)

end PolicyParser

end ContentPolicy
