import Mathlib.Data.Finset.Max
import ContentPolicy.Proofs.Directive.Reading
import ContentPolicy.Proofs.Policy.Segments
import ContentPolicy.Proofs.Source.Rereading

/-!
Reading the written form of a directive: its type comes back, and each source is read from its own
written form. The outcome is stated for any readable sources; whether the directive itself comes
back is left to how its sources reread.
-/

namespace ContentPolicy

open Text

namespace Text

theorem isBlank_getLast?_joined (separator : List Char) (ws : List (List Char))
    (clear : ∀ w ∈ ws, w ≠ [] ∧ ∀ c ∈ w.getLast?, isBlank c = false) :
    ∀ c ∈ (separator.intercalate ws).getLast?, isBlank c = false := by
  induction ws with
  | nil =>
      intro c absent
      cases absent
  | cons w rest ih =>
      have first := clear w List.mem_cons_self
      intro c last
      cases rest with
      | nil =>
          rw [List.intercalate_singleton] at last
          exact first.2 c last
      | cons v vs =>
          have later := ih fun u member => clear u (List.mem_cons_of_mem w member)
          have hasLast : (separator.intercalate (v :: vs)).getLast?.isSome = true := by
            have word := (clear v (List.mem_cons_of_mem w List.mem_cons_self)).1
            cases vs with
            | nil => simpa using word
            | cons u us => simp [word]
          rw [List.intercalate_cons_cons, List.getLast?_append, Option.or_of_isSome hasLast] at last
          exact later c last

end Text

theorem Source.isNone_render {known : SchemePorts} (named : known.Named) {s : Source}
    (readable : s.Readable known) : DirectiveParser.isNone s.render = false := by
  rcases Source.uri_or_keyword readable.valid with ⟨p, rfl⟩ | listed
  · have unquoted := (UriPattern.render_isToken named readable.1 readable.2).2
    exact SourceParser.not_spells_quoted unquoted rfl
  · have all : ∀ s ∈ Source.keywords, DirectiveParser.isNone s.render = false := by decide
    exact all s listed

/-- Falls whenever the written form of a source means another source. -/
def Source.weight : Source → WithTop ℕ
  | .uri p => p.weight
  | _ => ⊤

namespace DirectiveParser

/-- A type that its own name in a written directive stands for. -/
structure PlainType (p : DirectiveParser) (type : String) : Prop where
  token : IsToken type.toList
  lowered : lower type.toList = type.toList
  current : p.renamedTypes.get? type = none
  allowed : p.allowedTypes.contains type = true
  noPhrase : ∀ r ∈ Restriction.all, ¬(type.toList ++ [' ']) <+: r.phrase.toList

theorem standard_plain (strict : Bool) {type : String} (listed : type ∈ standardTypes) :
    PlainType { standard with strict } type := by
  have all : ∀ t ∈ standardTypes, lower t.toList = t.toList ∧
      standard.renamedTypes.get? t = none ∧
      ∀ r ∈ Restriction.all, ¬(t.toList ++ [' ']) <+: r.phrase.toList := by decide
  obtain ⟨lowered, current, noPhrase⟩ := all type listed
  exact ⟨standardTypes_isToken listed, lowered, current, List.contains_iff_mem.mpr listed, noPhrase⟩

def reread (p : DirectiveParser) (s : Source) : Source := p.sourceParser.read s.render

section Written

variable {p : DirectiveParser} {type : String} {w : Whitelist}

theorem word_of_mem_texts (named : p.knownSchemes.Named)
    (readable : ∀ s ∈ w, s.Readable p.knownSchemes) {word : List Char}
    (member : word ∈ ((w.toList.map Source.text).mergeSort).map String.toList) :
    word ≠ [] ∧ ∀ c ∈ word, isBlank c = false := by
  obtain ⟨s, inside, rfl⟩ := List.mem_map.mp (w.texts_perm.mem_iff.mp member)
  have token := Source.render_isToken named (readable s inside)
  exact ⟨token.1, fun c found => (token.2 c found).1⟩

theorem words_renderSources (named : p.knownSchemes.Named)
    (readable : ∀ s ∈ w, s.Readable p.knownSchemes) :
    words w.renderSources =
      if w.isEmpty then ["'none'".toList]
      else ((w.toList.map Source.text).mergeSort).map String.toList := by
  rw [Whitelist.renderSources]
  split
  · decide
  · exact words_joined _ fun word member => word_of_mem_texts named readable member

theorem isBlank_getLast?_renderSources (named : p.knownSchemes.Named)
    (readable : ∀ s ∈ w, s.Readable p.knownSchemes) :
    ∀ c ∈ w.renderSources.getLast?, isBlank c = false := by
  rw [Whitelist.renderSources]
  split
  · intro c last
    obtain rfl : '\'' = c := Option.some.inj last
    decide
  · apply isBlank_getLast?_joined
    intro word member
    obtain ⟨notEmpty, clear⟩ := word_of_mem_texts named readable member
    exact ⟨notEmpty, fun c last => clear c (List.mem_of_mem_getLast? last)⟩

theorem renderSources_ne_nil (named : p.knownSchemes.Named)
    (readable : ∀ s ∈ w, s.Readable p.knownSchemes) : w.renderSources ≠ [] := by
  intro empty
  have noWords := words_renderSources named readable
  rw [empty] at noWords
  cases noSource : w.isEmpty with
  | true =>
      rw [noSource, if_pos rfl] at noWords
      exact absurd noWords (by decide)
  | false =>
      rw [noSource, if_neg Bool.false_ne_true] at noWords
      have length := congrArg List.length noWords
      have notEmpty : w.toList ≠ [] := by simpa [SortedSet.isEmpty] using noSource
      simp only [words, List.splitOnP_nil, List.length_map, List.length_mergeSort] at length
      exact notEmpty (List.length_eq_zero_iff.mp length.symm)

theorem trim_render (named : p.knownSchemes.Named) (plain : p.PlainType type)
    (readable : ∀ s ∈ w, s.Readable p.knownSchemes) :
    trim (Directive.regular type w).render = type.toList ++ ' ' :: w.renderSources := by
  rw [Directive.render_regular]
  apply trim_eq_self
  · exact head?_append_of_forall plain.token.1 (fun c member => (plain.token.2 c member).1) _
  · have hasLast : w.renderSources.getLast?.isSome = true := by
      rw [List.getLast?_isSome]
      exact renderSources_ne_nil named readable
    intro c last
    rw [List.append_cons, List.getLast?_append, Option.or_of_isSome hasLast] at last
    exact isBlank_getLast?_renderSources named readable c last

theorem phrase?_written (plain : p.PlainType type) (rest : List Char) :
    phrase? (type.toList ++ ' ' :: rest) = none := by
  rw [phrase?, List.find?_eq_none]
  intro r listed same
  refine plain.noPhrase r listed ⟨rest, ?_⟩
  rw [of_decide_eq_true same, List.append_assoc]
  rfl

/-- Among the words of a written whitelist, those that are not the keyword for none are its sources;
where the keyword stands, it stands alone. -/
theorem readSources?_render (named : p.knownSchemes.Named)
    (readable : ∀ s ∈ w, s.Readable p.knownSchemes) :
    p.readSources? type (words w.renderSources) =
      let sources := (((w.toList.map Source.text).mergeSort).map String.toList).map
        p.sourceParser.read
      if p.strict && !sources.all (admits type) then none
      else some (sources.filter (admits type)) := by
  have clear : ∀ word ∈ ((w.toList.map Source.text).mergeSort).map String.toList,
      isNone word = false := by
    intro word member
    obtain ⟨s, inside, rfl⟩ := List.mem_map.mp (w.texts_perm.mem_iff.mp member)
    exact Source.isNone_render named (readable s inside)
  have kept : (words w.renderSources).filter (fun word => !isNone word) =
      ((w.toList.map Source.text).mergeSort).map String.toList := by
    rw [words_renderSources named readable]
    split
    · rename_i noSource
      have absent : w.toList = [] := List.isEmpty_iff.mp noSource
      rw [absent]
      decide +kernel
    · exact List.filter_eq_self.mpr fun word member => by rw [clear word member]; rfl
  -- The keyword for none is an error beside other words.
  have alone : (1 < (words w.renderSources).length && (words w.renderSources).any isNone) =
      false := by
    rw [words_renderSources named readable]
    split
    · rfl
    · rw [Bool.and_eq_false_iff]
      refine .inr (List.any_eq_false.mpr fun word member => ?_)
      rw [clear word member]
      exact Bool.false_ne_true
  rw [readSources?, kept, alone]
  cases p.strict with
  | false => rfl
  | true =>
      rw [if_pos rfl, Bool.false_or]
      dsimp only
      split
      · rename_i bad
        rw [Bool.true_and, if_pos bad]
      · rename_i good
        rw [Bool.true_and, if_neg good]
        have all := List.all_eq_true.mp
          (by simpa only [Bool.not_eq_true', Bool.not_eq_false] using good)
        rw [List.filter_eq_self.mpr all]

theorem make_perm {xs ys : List Source} (same : xs.Perm ys) :
    Directive.make type xs = Directive.make type ys := by
  have sources : Whitelist.ofSources xs = Whitelist.ofSources ys := by
    apply SortedSet.ext_mem
    intro s
    rw [Whitelist.mem_ofSources, Whitelist.mem_ofSources, same.mem_iff]
  rw [Directive.make, Directive.make, sources]

/-- A written directive is read as the directive of its type whose sources are read, each from its
own written form; a strict reader rejects it when one of these may not stand there. -/
theorem read_render_directive (named : p.knownSchemes.Named) (plain : p.PlainType type)
    (readable : ∀ s ∈ w, s.Readable p.knownSchemes) :
    p.read (Directive.regular type w).render =
      if p.strict && !(w.toList.map p.reread).all (admits type) then .invalid
      else .make type ((w.toList.map p.reread).filter (admits type)) := by
  have cut : cut? (fun c => decide (c = ' ')) (type.toList ++ ' ' :: w.renderSources) =
      some (type.toList, w.renderSources) := plain.token.cut?_space w.renderSources
  have current : p.currentType type.toList = type := by
    rw [currentType, plain.token.trim_eq, plain.lowered, String.ofList_toList]
    simp only [plain.current, Option.getD_none]
  have filled : type ≠ "" := by
    rintro rfl
    exact plain.token.1 rfl
  have sources : (((w.toList.map Source.text).mergeSort).map String.toList).map p.sourceParser.read
      |>.Perm (w.toList.map p.reread) := by
    have rereads : w.toList.map p.reread =
        (w.toList.map Source.render).map p.sourceParser.read := by
      rw [List.map_map]
      rfl
    rw [rereads]
    exact w.texts_perm.map p.sourceParser.read
  have bad : (decide (type = "") || !p.allowedTypes.contains type) = false := by
    rw [plain.allowed, decide_eq_false filled]
    rfl
  rw [read, trim_render named plain readable]
  simp only [phrase?_written plain, cut, current, bad, Bool.false_eq_true, if_false,
    readSources?_render named readable, sources.all_eq]
  by_cases rejected : (p.strict && !(w.toList.map p.reread).all (admits type)) = true
  · rw [if_pos rejected, if_pos rejected]
  · rw [if_neg rejected, if_neg rejected]
    exact make_perm (sources.filter (admits type))

theorem read_render_of_unambiguous (named : p.knownSchemes.Named) (plain : p.PlainType type)
    (readable : ∀ s ∈ w, s.Readable p.knownSchemes)
    (clear : ∀ s ∈ w, admits type s = true ∧ s.isUnambiguous p.knownSchemes = true) :
    p.read (Directive.regular type w).render = .regular type w := by
  have same : w.toList.map p.reread = w.toList := by
    have each : ∀ s ∈ w.toList, p.reread s = id s := fun s member =>
      SourceParser.read_render_source named (readable s member) (clear s member).2
    rw [List.map_congr_left each, List.map_id]
  have all : w.toList.all (admits type) = true :=
    List.all_eq_true.mpr fun s member => (clear s member).1
  rw [read_render_directive named plain readable, same, all, Bool.not_true, Bool.and_false,
    if_neg Bool.false_ne_true, List.filter_eq_self.mpr (List.all_eq_true.mp all), Directive.make]
  exact congrArg (Directive.regular type)
    (Whitelist.ofSources_toList fun s member => (readable s member).valid)

end Written

/-- A map that lowers the weight of all it moves moves nothing where its images cover the list. -/
theorem fixed_of_covered {α β : Type} [LinearOrder β] (f : α → α) (weight : α → β) (xs : List α)
    (falls : ∀ x ∈ xs, f x = x ∨ weight (f x) < weight x) (covered : ∀ x ∈ xs, ∃ y ∈ xs, f y = x) :
    ∀ x ∈ xs, f x = x := by
  classical
  intro x member
  by_contra moves
  obtain ⟨top, isMoved, highest⟩ := Finset.exists_max_image
    (xs.filter fun x => f x ≠ x).toFinset weight ⟨x, by simp [member, moves]⟩
  obtain ⟨inside, topMoves⟩ : top ∈ xs ∧ f top ≠ top := by simpa using isMoved
  -- What the heaviest moved element is the image of is moved as well, and heavier.
  obtain ⟨y, origin, image⟩ := covered top inside
  have yMoves : f y ≠ y := by
    intro still
    have same : y = top := still.symm.trans image
    exact topMoves (same ▸ still)
  have above := highest y (by simp [origin, yMoves])
  rcases falls y origin with still | lower
  · exact yMoves still
  · rw [image] at lower
    exact absurd above (not_le.mpr lower)

section Written

variable {p : DirectiveParser} {type : String} {w : Whitelist}

theorem reread_ambiguous (named : p.knownSchemes.Named) {s : Source}
    (readable : s.Readable p.knownSchemes) (admitted : admits type (p.reread s) = true)
    (ambiguous : s.isUnambiguous p.knownSchemes = false) :
    (p.reread s).weight < s.weight := by
  cases s with
  | uri q =>
      rcases SourceParser.read_render_ambiguous named readable.1 readable.2 ambiguous with
        bad | ⟨r, found, lower⟩
      · have invalid : p.reread (.uri q) = .invalid := bad
        rw [invalid] at admitted
        exact absurd admitted Bool.false_ne_true
      · have image : p.reread (.uri q) = .uri r := found
        rw [image]
        exact lower
  | self => cases ambiguous
  | unsafeInline => cases ambiguous
  | unsafeEval => cases ambiguous
  | invalid => exact readable.elim

theorem reread_falls (named : p.knownSchemes.Named) {s : Source}
    (readable : s.Readable p.knownSchemes) (admitted : admits type (p.reread s) = true) :
    p.reread s = s ∨ (p.reread s).weight < s.weight := by
  cases unambiguous : s.isUnambiguous p.knownSchemes with
  | true => exact .inl (SourceParser.read_render_source named readable unambiguous)
  | false => exact .inr (reread_ambiguous named readable admitted unambiguous)

theorem unambiguous_of_read_render (named : p.knownSchemes.Named) (plain : p.PlainType type)
    (strict : p.strict = true) (readable : ∀ s ∈ w, s.Readable p.knownSchemes)
    (same : p.read (Directive.regular type w).render = .regular type w) :
    ∀ s ∈ w, admits type s = true ∧ s.isUnambiguous p.knownSchemes = true := by
  rw [read_render_directive named plain readable, strict, Bool.true_and] at same
  have all : (w.toList.map p.reread).all (admits type) = true := by
    by_contra clear
    rw [Bool.not_eq_true] at clear
    rw [clear, Bool.not_false, if_pos rfl] at same
    cases same
  have admitted : ∀ s ∈ w, admits type (p.reread s) = true := fun s member =>
    List.all_eq_true.mp all _ (List.mem_map_of_mem member)
  rw [all, Bool.not_true, if_neg Bool.false_ne_true,
    List.filter_eq_self.mpr (List.all_eq_true.mp all)]
    at same
  have sources : Whitelist.ofSources (w.toList.map p.reread) = w := (Directive.regular.inj same).2
  have covered : ∀ s ∈ w.toList, ∃ t ∈ w.toList, p.reread t = s := by
    intro s member
    have image : s ∈ Whitelist.ofSources (w.toList.map p.reread) := sources.symm ▸ member
    exact List.mem_map.mp ((Whitelist.mem_ofSources _ s).mp image).1
  -- Each source is the image of one of them, so no image can be lighter than what it came from.
  have still := fixed_of_covered p.reread Source.weight w.toList
    (fun s member => reread_falls named (readable s member) (admitted s member)) covered
  intro s member
  refine ⟨still s member ▸ admitted s member, ?_⟩
  by_contra ambiguous
  rw [Bool.not_eq_true] at ambiguous
  have falls := reread_ambiguous named (readable s member) (admitted s member) ambiguous
  rw [still s member] at falls
  exact lt_irrefl _ falls

end Written

end DirectiveParser

end ContentPolicy
