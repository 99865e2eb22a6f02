import ContentPolicy.Proofs.Policy.Rereading

/-!
Policies that survive being written. Their sources are bare schemes that are known, or hosts of
plain characters whose text cannot be mistaken for anything else; the keywords for code stand where
there is code to allow.
-/

namespace ContentPolicy

open Text

namespace Authority

def isPlainNameChar (c : Char) : Bool :=
  c.isLower || c.isDigit || c = '.' || c = '_' || c = '-'

def IsPlainName (cs : List Char) : Prop := cs ≠ [] ∧ ∀ c ∈ cs, isPlainNameChar c = true

/-- A star, a name in lower case, or a star, a dot and such a name. -/
def IsPlainHost (cs : List Char) : Prop :=
  cs = ['*'] ∨ IsPlainName cs ∨ ∃ name, cs = '*' :: '.' :: name ∧ IsPlainName name

theorem isPlainNameChar_spec {c : Char} (plain : isPlainNameChar c = true) :
    isNameChar c = true ∧ c.toLower = c := by
  simp only [isPlainNameChar, Bool.or_eq_true, decide_eq_true_eq, isLower_iff, isDigit_iff,
    eq_iff_toNat] at plain
  have marks : '.'.toNat = 46 ∧ '_'.toNat = 95 ∧ '-'.toNat = 45 := by decide
  constructor
  · rw [isNameChar_iff, isAlphanum_iff]
    omega
  · rw [eq_iff_toNat, toNat_toLower, if_neg]
    omega

theorem isName_of_plain {cs : List Char} (plain : IsPlainName cs) : isName cs = true := by
  have notEmpty : cs.isEmpty = false := List.isEmpty_eq_false_iff.mpr plain.1
  rw [isName, notEmpty]
  exact List.all_eq_true.mpr fun c member => (isPlainNameChar_spec (plain.2 c member)).1

theorem lower_of_plain {cs : List Char} (plain : IsPlainName cs) : lower cs = cs :=
  (lower_eq_self_iff cs).mpr fun c member => (isPlainNameChar_spec (plain.2 c member)).2

theorem isHostPattern_of_plain {cs : List Char} (plain : IsPlainHost cs) :
    isHostPattern cs = true ∧ lower cs = cs := by
  rcases plain with rfl | name | ⟨name, rfl, rest⟩
  · exact ⟨rfl, rfl⟩
  · refine ⟨?_, lower_of_plain name⟩
    rw [isHostPattern.eq_def]
    split
    · rfl
    · have star := name.2 '*' List.mem_cons_self
      exact absurd star (by decide)
    · exact isName_of_plain name
  · refine ⟨isName_of_plain rest, ?_⟩
    have later := lower_of_plain rest
    rw [lower] at later
    rw [lower, List.map_cons, List.map_cons, later]
    rfl

end Authority

/-- Whether a pattern is a known scheme alone, or has a plain host, a path that is absent or starts
with a slash, and a known scheme that slashes follow, or none where the host could not be taken for
a scheme or for the word for no URI. -/
def UriPattern.Printable (p : UriPattern) : Prop :=
  (∃ scheme, SchemePorts.standard.contains scheme = true ∧ p = ⟨scheme, "", none, ""⟩) ∨
    Authority.IsPlainHost p.host.toList ∧ (∀ c ∈ p.path.toList.head?, c = '/') ∧
      (SchemePorts.standard.contains p.scheme = true ∧ p.scheme ∉ Scheme.withoutSlashes ∨
        p.scheme = "" ∧ p.host ≠ "null" ∧ SchemePorts.standard.contains p.host = false)

/-- Whether a source of a directive of the type is printable. No directive holds the invalid source.
-/
def Source.Printable (type : String) : Source → Prop
  | .uri p => p.Printable
  | .self => True
  | .unsafeInline => type = "script-src" ∨ type = "style-src" ∨ type = "default-src"
  | .unsafeEval => type = "script-src" ∨ type = "default-src"
  | .invalid => False

namespace UriPattern

theorem Printable.readable {p : UriPattern} (printable : p.Printable) :
    p.Readable .standard ∧ p.HostIsToken := by
  rcases printable with ⟨scheme, isKnown, rfl⟩ | ⟨plain, rooted, origin⟩
  · exact ⟨.scheme isKnown, fun c absent => nomatch absent⟩
  · obtain ⟨isHost, lowered⟩ := Authority.isHostPattern_of_plain plain
    constructor
    · refine .located ?_ isHost lowered rooted
      rcases origin with ⟨isKnown, slashes⟩ | ⟨noScheme, _⟩
      · refine .inr ⟨isKnown, ?_⟩
        rw [Scheme.hasNoSlashes, Bool.eq_false_iff, ne_eq, List.contains_iff_mem]
        exact slashes
      · exact .inl noScheme
    · intro c member
      have clear := Authority.isNameChar_clear (Authority.mem_isHostPattern isHost member)
      exact ⟨clear.1, clear.2.1⟩

theorem Printable.unambiguous {p : UriPattern} (printable : p.Printable) :
    p.isUnambiguous .standard = true := by
  rcases printable with ⟨scheme, isKnown, rfl⟩ | ⟨plain, rooted, origin⟩
  · have notEmpty := ne_empty_of_known SchemePorts.standard_named isKnown
    simp [isUnambiguous, isSchemeOnly, notEmpty]
  · have notEmpty := ne_empty_of_isHost (Authority.isHostPattern_of_plain plain).1
    have located : p.isSchemeOnly = false := by simp [isSchemeOnly, notEmpty]
    rw [isUnambiguous, located, if_neg Bool.false_ne_true]
    rcases origin with ⟨isKnown, slashes⟩ | ⟨noScheme, notNull, unknown⟩
    · have given := ne_empty_of_known SchemePorts.standard_named isKnown
      rw [if_pos given]
      simp [Scheme.hasNoSlashes, slashes]
    · have notListed : p.host ∉ Scheme.withoutSlashes := by
        intro listed
        have known := SchemePorts.standard_contains (Scheme.hasNoSlashes_iff.mpr listed)
        exact Bool.false_ne_true (unknown.symm.trans known)
      rw [if_neg (by simpa using noScheme)]
      cases p.port with
      | none => simp [notNull, unknown]
      | some port => simp [Scheme.hasNoSlashes, notListed]

end UriPattern

namespace Source

theorem Printable.readable {type : String} {s : Source} (printable : s.Printable type) :
    s.Readable .standard := by
  cases s with
  | uri p => exact UriPattern.Printable.readable printable
  | self => trivial
  | unsafeInline => trivial
  | unsafeEval => trivial
  | invalid => exact printable

theorem Printable.clear {type : String} {s : Source} (printable : s.Printable type) :
    DirectiveParser.admits type s = true ∧ s.isUnambiguous .standard = true := by
  cases s with
  | uri p => exact ⟨rfl, UriPattern.Printable.unambiguous printable⟩
  | self => exact ⟨rfl, rfl⟩
  | unsafeInline =>
      refine ⟨?_, rfl⟩
      rcases printable with rfl | rfl | rfl <;> rfl
  | unsafeEval =>
      refine ⟨?_, rfl⟩
      rcases printable with rfl | rfl <;> rfl
  | invalid => exact printable.elim

end Source

namespace PolicyParser

/-- A policy of printable sources comes back from its written form, whether it is read strictly or
not. -/
theorem parse_text_of_printable (strict : Bool) {m : SortedMap String Whitelist}
    (notEmpty : m.isEmpty = false) (listed : ∀ e ∈ m.entries, e.1 ∈ DirectiveParser.standardTypes)
    (printable : ∀ e ∈ m.entries, ∀ s ∈ e.2, s.Printable e.1) :
    { standard.withStrict strict with expandDefaultSrc := false }.parse (Policy.valid m).text =
      .valid m := by
  have readable : Readable { standard.withStrict strict with expandDefaultSrc := false } m := by
    refine ⟨notEmpty, SchemePorts.standard_named, ?_, ?_⟩
    · intro e entry
      have plain := standard_plain strict (listed e entry)
      exact ⟨plain.toPlainType, plain.kept⟩
    · intro e entry s source
      exact (printable e entry s source).readable
  rw [parse, Policy.text, String.toList_ofList]
  apply read_render_of_directives readable
  · intro expands
    cases expands
  · intro e entry
    apply DirectiveParser.read_render_of_unambiguous readable.named
      (readable.plain e entry).toPlainType (readable.sources e entry)
    intro s source
    exact (printable e entry s source).clear

/-- An escaped path and a star for the port, beside a keyword. -/
theorem parse_text_of_printable_images :
    let w := Whitelist.ofSources [.self, .uri ⟨"https", "*.example", some .any, "/a b"⟩]
    let m : SortedMap String Whitelist := .singleton "img-src" w
    m.isEmpty = false ∧ (∀ e ∈ m.entries, e.1 ∈ DirectiveParser.standardTypes) ∧
      (∀ e ∈ m.entries, ∀ s ∈ e.2, s.Printable e.1) ∧
      { standard.withStrict false with expandDefaultSrc := false }.parse (Policy.valid m).text =
        .valid m := by
  intro w m
  have listed : ∀ e ∈ m.entries, e.1 ∈ DirectiveParser.standardTypes := by
    intro e entry
    obtain rfl := List.mem_singleton.mp entry
    decide
  have name : Authority.IsPlainName "example".toList :=
    ⟨by decide, List.all_eq_true.mp (by decide)⟩
  have plain : Authority.IsPlainHost "*.example".toList :=
    .inr (.inr ⟨"example".toList, by decide, name⟩)
  have rooted : ∀ c ∈ "/a b".toList.head?, c = '/' := fun c first => (Option.some.inj first).symm
  have printable : ∀ e ∈ m.entries, ∀ s ∈ e.2, s.Printable e.1 := by
    intro e entry s member
    obtain rfl := List.mem_singleton.mp entry
    have inside := ((Whitelist.mem_ofSources _ s).mp member).1
    rcases List.mem_cons.mp inside with rfl | later
    · trivial
    · obtain rfl := List.mem_singleton.mp later
      exact .inr ⟨plain, rooted, .inl ⟨by decide +kernel, by decide⟩⟩
  exact ⟨rfl, listed, printable, parse_text_of_printable false rfl listed printable⟩

end PolicyParser

end ContentPolicy
