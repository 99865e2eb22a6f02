import ContentPolicy.Proofs.Directive.Rereading
import ContentPolicy.Proofs.Policy.Reading

/-!
Reading the written form of a policy. Each directive is read from its own segment, so the policy
comes back exactly when each of its directives does.
-/

namespace ContentPolicy

open Text

namespace PolicyParser

/-- A type that the reader does not skip and that its own name stands for. -/
structure PlainType (p : PolicyParser) (type : String) : Prop extends
    p.directive.PlainType type where
  kept : p.ignoredTypes.any (spells type.toList) = false

theorem standard_plain (strict : Bool) {type : String}
    (listed : type ∈ DirectiveParser.standardTypes) :
    PlainType (standard.withStrict strict) type := by
  have all : ∀ t ∈ DirectiveParser.standardTypes,
      standardIgnoredTypes.any (spells t.toList) = false := by decide
  exact ⟨DirectiveParser.standard_plain strict listed, all type listed⟩

/-- What the reader can have made a policy of: a directive or more, each of a plain type and of
readable sources. -/
structure Readable (p : PolicyParser) (m : SortedMap String Whitelist) : Prop where
  notEmpty : m.isEmpty = false
  named : p.directive.knownSchemes.Named
  plain : ∀ e ∈ m.entries, p.PlainType e.1
  sources : ∀ e ∈ m.entries, ∀ s ∈ e.2, s.Readable p.directive.knownSchemes

section Written

variable {p : PolicyParser} {m : SortedMap String Whitelist}

theorem Readable.clear (readable : p.Readable m) :
    ∀ d ∈ (Policy.valid m).directives, ';' ∉ d.render := by
  intro d member inside
  obtain ⟨e, entry, rfl⟩ := List.mem_map.mp member
  obtain ⟨s, source, mark⟩ :=
    (Policy.semicolon_mem_directive (readable.plain e entry).token e.2).mp inside
  have token := Source.render_isToken readable.named (readable.sources e entry s source)
  exact (token.2 ';' mark).2 rfl

theorem isIgnored_written {type : String} (plain : p.PlainType type) (w : Whitelist) :
    p.isIgnored (Directive.regular type w).render = false := by
  have first := Policy.head?_words_written plain.token w
  rw [isIgnored]
  cases segment : words (Directive.regular type w).render with
  | nil => rfl
  | cons word rest =>
      rw [segment] at first
      obtain rfl : word = type.toList := Option.some.inj first
      exact plain.kept

theorem isIgnored_space_cons (segment : List Char) :
    p.isIgnored (' ' :: segment) = p.isIgnored segment := by
  rw [isIgnored, isIgnored, words_space_cons]

theorem read_space_cons (segment : List Char) :
    p.directive.read (' ' :: segment) = p.directive.read segment := by
  rw [DirectiveParser.read, DirectiveParser.read, trim_space_cons]

/-- The segments of a written policy are read as its directives are from their written forms. -/
theorem readSegments_render (readable : p.Readable m) :
    (p.readSegments (Policy.valid m).render).Perm
      ((Policy.valid m).directives.map fun d => p.directive.read d.render) := by
  obtain ⟨first, rest, perm, split⟩ := Policy.segments_of_clear (p := .valid m) rfl
    readable.notEmpty readable.clear
  have kept : ∀ segment ∈ first :: rest, p.isIgnored segment = false := by
    intro segment member
    obtain ⟨d, directive, rfl⟩ := List.mem_map.mp (perm.mem_iff.mp member)
    obtain ⟨e, entry, rfl⟩ := List.mem_map.mp directive
    exact isIgnored_written (readable.plain e entry) e.2
  have all : (first :: rest.map (' ' :: ·)).filter (fun s => !p.isIgnored s) =
      first :: rest.map (' ' :: ·) := by
    apply List.filter_eq_self.mpr
    intro segment member
    rcases List.mem_cons.mp member with rfl | later
    · rw [kept segment List.mem_cons_self]
      rfl
    · obtain ⟨plain, inside, rfl⟩ := List.mem_map.mp later
      rw [isIgnored_space_cons, kept plain (List.mem_cons_of_mem first inside)]
      rfl
  -- All segments but the first start with a space, which no reader sees.
  have spaces : (first :: rest.map (' ' :: ·)).map p.directive.read =
      (first :: rest).map p.directive.read := by
    rw [List.map_cons, List.map_cons, List.map_map]
    simp only [Function.comp_def, read_space_cons]
  have renders : (Policy.valid m).directives.map (fun d => p.directive.read d.render) =
      ((Policy.valid m).directives.map Directive.render).map p.directive.read := by
    rw [List.map_map]
    rfl
  rw [readSegments, split, all, spaces, renders]
  exact perm.map p.directive.read

end Written

theorem get?_firstOfEachType_perm {m : SortedMap String Whitelist} {ds : List Directive}
    {image : String × Whitelist → Directive} (perm : ds.Perm (m.entries.map image))
    (typed : ∀ e ∈ m.entries, image e ≠ .invalid ∧ (image e).type = e.1) (type : String) :
    (firstOfEachType ds).get? type = (m.get? type).map fun w => image (type, w) := by
  have origin : ∀ d ∈ ds, ∃ e ∈ m.entries, image e = d := fun d member =>
    List.mem_map.mp (perm.mem_iff.mp member)
  have valid : ds.filter (· ≠ .invalid) = ds := by
    apply List.filter_eq_self.mpr
    intro d member
    obtain ⟨e, entry, rfl⟩ := origin d member
    exact decide_eq_true (typed e entry).1
  rw [get?_firstOfEachType, valid]
  cases found : m.get? type with
  | none =>
      apply List.find?_eq_none.mpr
      intro d member same
      obtain ⟨e, entry, rfl⟩ := origin d member
      have here : e.1 = type := (typed e entry).2.symm.trans (of_decide_eq_true same)
      have stored := SortedMap.get?_of_mem entry
      rw [here, found] at stored
      cases stored
  | some w =>
      have entry := (SortedMap.get?_eq_some_iff m type w).mp found
      have member : image (type, w) ∈ ds := perm.mem_iff.mpr (List.mem_map_of_mem entry)
      cases first : ds.find? fun d => d.type = type with
      | none =>
          have absent := List.find?_eq_none.mp first _ member
          exact absurd (decide_eq_true (typed _ entry).2) absent
      -- Whatever is found first has the type as its key, and there is one whitelist for a key.
      | some d =>
          obtain ⟨e, other, rfl⟩ := origin d (List.mem_of_find?_eq_some first)
          have same : (image e).type = type := by simpa using List.find?_some first
          have key : e.1 = type := (typed e other).2.symm.trans same
          have stored := SortedMap.get?_of_mem other
          rw [key, found] at stored
          obtain rfl := Option.some.inj stored
          rw [← key]
          rfl

theorem byType_of_no_default {p : PolicyParser} {text : List Char}
    (noDefault : p.expandDefaultSrc = true →
      (firstOfEachType (p.readSegments text)).get? Policy.defaultType = none) :
    p.byType text = firstOfEachType (p.readSegments text) := by
  rw [byType]
  cases expands : p.expandDefaultSrc with
  | false => rfl
  | true =>
      rw [if_pos rfl, expand]
      simp only [noDefault expands]

section Written

variable {p : PolicyParser} {m : SortedMap String Whitelist}

/-- What counts in a written policy whose directives all come back as some directive. -/
theorem get?_byType_render (readable : p.Readable m)
    (noDefault : p.expandDefaultSrc = true → m.get? Policy.defaultType = none)
    (regular : ∀ e ∈ m.entries, ∃ sources,
      p.directive.read (Directive.regular e.1 e.2).render = .regular e.1 sources) (type : String) :
    (p.byType (Policy.valid m).render).get? type =
      (m.get? type).map fun w => p.directive.read (Directive.regular type w).render := by
  have typed : ∀ e ∈ m.entries, p.directive.read (Directive.regular e.1 e.2).render ≠ .invalid ∧
      (p.directive.read (Directive.regular e.1 e.2).render).type = e.1 := by
    intro e entry
    obtain ⟨sources, image⟩ := regular e entry
    rw [image]
    exact ⟨by simp, rfl⟩
  have perm : (p.readSegments (Policy.valid m).render).Perm
      (m.entries.map fun e => p.directive.read (Directive.regular e.1 e.2).render) := by
    have read := readSegments_render readable
    rw [Policy.directives, List.map_map] at read
    exact read
  have first := get?_firstOfEachType_perm perm typed
  rw [byType_of_no_default, first]
  intro expands
  rw [first, noDefault expands]
  rfl

theorem invalid_not_mem_segments (readable : p.Readable m)
    (valid : ∀ e ∈ m.entries, p.directive.read (Directive.regular e.1 e.2).render ≠ .invalid) :
    (p.readSegments (Policy.valid m).render).contains .invalid = false := by
  rw [Bool.eq_false_iff, ne_eq, List.contains_iff_mem, (readSegments_render readable).mem_iff]
  intro member
  obtain ⟨d, directive, bad⟩ := List.mem_map.mp member
  obtain ⟨e, entry, rfl⟩ := List.mem_map.mp directive
  exact valid e entry bad

theorem read_render_of_directives (readable : p.Readable m)
    (noDefault : p.expandDefaultSrc = true → m.get? Policy.defaultType = none)
    (same : ∀ e ∈ m.entries,
      p.directive.read (Directive.regular e.1 e.2).render = .regular e.1 e.2) :
    p.read (Policy.valid m).render = .valid m := by
  have valid : ∀ e ∈ m.entries,
      p.directive.read (Directive.regular e.1 e.2).render ≠ .invalid := by
    intro e entry
    rw [same e entry]
    simp
  have found : ∀ type, (p.byType (Policy.valid m).render).get? type =
      (m.get? type).map (Directive.regular type) := by
    intro type
    rw [get?_byType_render readable noDefault fun e entry => ⟨e.2, same e entry⟩]
    cases stored : m.get? type with
    | none => rfl
    | some w =>
        exact congrArg some (same (type, w) ((SortedMap.get?_eq_some_iff m type w).mp stored))
  have filled : (p.byType (Policy.valid m).render).isEmpty = false := by
    rw [Bool.eq_false_iff, ne_eq, SortedMap.isEmpty_iff]
    intro empty
    have absent : m.isEmpty = true := by
      rw [SortedMap.isEmpty_iff]
      intro type
      have noDirective := empty type
      rw [found, Option.map_eq_none_iff] at noDirective
      exact noDirective
    exact Bool.false_ne_true (readable.notEmpty.symm.trans absent)
  rw [read_eq, invalid_not_mem_segments readable valid, filled,
    Bool.and_false, Bool.or_self, if_neg Bool.false_ne_true]
  apply congrArg Policy.valid
  apply SortedMap.ext_get?
  intro type
  have stored := get?_ofDirectives (byType_wellKeyed p (Policy.valid m).render) type
  rw [found] at stored
  refine Eq.trans stored ?_
  cases m.get? type with
  | none => rfl
  | some w => rfl

theorem directives_of_read_render (readable : p.Readable m)
    (noDefault : p.expandDefaultSrc = true → m.get? Policy.defaultType = none)
    (strict : p.strict = true) (same : p.read (Policy.valid m).render = .valid m) :
    ∀ e ∈ m.entries, p.directive.read (Directive.regular e.1 e.2).render = .regular e.1 e.2 := by
  have outcome : ∀ e ∈ m.entries,
      p.directive.read (Directive.regular e.1 e.2).render = .invalid ∨
        ∃ sources, p.directive.read (Directive.regular e.1 e.2).render = .regular e.1 sources := by
    intro e entry
    rw [DirectiveParser.read_render_directive readable.named (readable.plain e entry).toPlainType
      (readable.sources e entry)]
    split
    · exact .inl rfl
    · exact .inr ⟨_, rfl⟩
  have valid : ∀ e ∈ m.entries,
      p.directive.read (Directive.regular e.1 e.2).render ≠ .invalid := by
    intro e entry bad
    -- One bad segment is enough for a strict reader to give up on the policy.
    have member : (p.readSegments (Policy.valid m).render).contains .invalid = true := by
      rw [List.contains_iff_mem, (readSegments_render readable).mem_iff]
      exact List.mem_map.mpr ⟨_, List.mem_map_of_mem entry, bad⟩
    rw [read_eq, strict, member, Bool.and_self, Bool.true_or, if_pos rfl] at same
    cases same
  have regular : ∀ e ∈ m.entries, ∃ sources,
      p.directive.read (Directive.regular e.1 e.2).render = .regular e.1 sources := fun e entry =>
    (outcome e entry).resolve_left (valid e entry)
  intro e entry
  obtain ⟨sources, image⟩ := regular e entry
  have stored := SortedMap.get?_of_mem entry
  have found := get?_read same e.1
  rw [get?_byType_render readable noDefault regular, stored, Option.map_some, image] at found
  rw [image]
  exact congrArg (Directive.regular e.1) (Option.some.inj found).symm

end Written

end PolicyParser

end ContentPolicy
