import Mathlib.Data.List.TakeWhile
import ContentPolicy.Proofs.Text.Characters
import ContentPolicy.Uri.Parts

/-!
The cuts that take a text apart into the parts of a URI, each said as a relation: which pieces it
may cut off, and what must hold of the other side so that nothing more is to be cut off there. What
is cut off and what is left make up the text, and no other two sides of a text are in the relation.
-/

namespace ContentPolicy.Text

theorem cut?_none {p : Char → Bool} {cs : List Char} (clear : ∀ c ∈ cs, p c = false) :
    cut? p cs = none := cut?_eq_none_iff.mpr clear

theorem upTo_clear {p : Char → Bool} {cs : List Char} (clear : ∀ c ∈ cs, p c = false) :
    upTo p cs = cs := by
  rw [upTo, List.takeWhile_eq_self_iff]
  intro c member
  simp [clear c member]

theorem mem_upTo {p : Char → Bool} {cs : List Char} {c : Char} (member : c ∈ upTo p cs) :
    c ∈ cs ∧ p c = false := by
  refine ⟨(List.takeWhile_sublist _).subset member, ?_⟩
  simpa using List.mem_takeWhile_imp member

theorem upTo_append {p : Char → Bool} {before rest : List Char}
    (clear : ∀ b ∈ before, p b = false) (stop : ∀ c ∈ rest.head?, p c = true) :
    upTo p (before ++ rest) = before := by
  induction before with
  | nil =>
      cases rest with
      | nil => rfl
      | cons c rest => simp [upTo, stop c rfl]
  | cons b before ih =>
      have first : p b = false := clear b List.mem_cons_self
      have later := ih fun x member => clear x (List.mem_cons_of_mem b member)
      simp only [upTo] at later
      simp [upTo, first, later]

theorem fromOn_append {p : Char → Bool} {before rest : List Char}
    (clear : ∀ b ∈ before, p b = false) (stop : ∀ c ∈ rest.head?, p c = true) :
    fromOn p (before ++ rest) = rest := by
  have whole := upTo_append_fromOn p (before ++ rest)
  rw [upTo_append clear stop] at whole
  exact List.append_cancel_left whole

theorem eq_of_append_eq {p : Char → Bool} {before rest before' rest' : List Char}
    (clear : ∀ c ∈ before, p c = false) (stop : ∀ c ∈ rest.head?, p c = true)
    (clear' : ∀ c ∈ before', p c = false) (stop' : ∀ c ∈ rest'.head?, p c = true)
    (same : before ++ rest = before' ++ rest') : before = before' ∧ rest = rest' := by
  have first : before = before' := by
    rw [← upTo_append clear stop, same, upTo_append clear' stop']
  subst first
  exact ⟨rfl, List.append_cancel_left same⟩

theorem head?_fromOn {p : Char → Bool} {cs : List Char} {c : Char}
    (first : c ∈ (fromOn p cs).head?) : p c = true := by
  have := List.head?_dropWhile_not (fun c => !p c) cs
  rw [fromOn] at first
  rw [first] at this
  simpa using this

theorem mem_fromOn {p : Char → Bool} {cs : List Char} {c : Char} (member : c ∈ fromOn p cs) :
    c ∈ cs := (List.dropWhile_sublist _).subset member

end ContentPolicy.Text

namespace ContentPolicy.UriParts

open Text

section Scheme

variable {name after : List Char}

/-- A name that is a scheme in front of a colon and what follows: with digits alone behind it, it
would be a host and its port, unless it is `http`. -/
def NamesScheme (name after : List Char) : Prop :=
  name ≠ [] ∧ (∀ c ∈ name, isSchemeChar c = true) ∧
    (name = "http".toList ∨ isDigits after = false)

inductive SchemePiece (after : List Char) : String → List Char → Prop
  | absent (unnamed : ∀ name rest, after = name ++ ':' :: rest → ¬ NamesScheme name rest) :
      SchemePiece after "" []
  | named {name : List Char} (isScheme : NamesScheme name after) :
      SchemePiece after (String.ofList (lower name)) (name ++ [':'])

theorem isSchemeBefore_iff : isSchemeBefore name after = true ↔ NamesScheme name after := by
  simp only [isSchemeBefore, NamesScheme, Bool.or_eq_true, Bool.and_eq_true, decide_eq_true_eq,
    Bool.not_eq_true', List.isEmpty_eq_false_iff, List.all_eq_true]
  constructor
  · rintro (rfl | ⟨⟨given, chars⟩, noPort⟩)
    · exact ⟨by decide, List.all_eq_true.mp (by decide), .inl rfl⟩
    · exact ⟨given, chars, .inr noPort⟩
  · rintro ⟨given, chars, http | noPort⟩
    · exact .inl http
    · exact .inr ⟨⟨given, chars⟩, noPort⟩

theorem not_isSchemeChar_colon : isSchemeChar ':' = false := by decide

theorem NamesScheme.clear (isScheme : NamesScheme name after) : ∀ c ∈ name, c ≠ ':' := by
  rintro c member rfl
  exact Bool.false_ne_true (not_isSchemeChar_colon.symm.trans (isScheme.2.1 ':' member))

/-- What stands before the first colon is the scheme unless it does not look like one. -/
theorem cutScheme_colon {candidate : List Char} (clear : ∀ c ∈ candidate, c ≠ ':')
    (after : List Char) :
    cutScheme (candidate ++ ':' :: after) =
      if isSchemeBefore candidate after then (String.ofList (lower candidate), after)
      else ("", candidate ++ ':' :: after) := by
  have cut : cut? (fun c => decide (c = ':')) (candidate ++ ':' :: after) =
      some (candidate, after) :=
    cut?_append (fun c member => decide_eq_false (clear c member)) (by decide)
  rw [cutScheme, cut]

theorem cutScheme_named (isScheme : NamesScheme name after) :
    cutScheme (name ++ ':' :: after) = (String.ofList (lower name), after) := by
  rw [cutScheme_colon isScheme.clear, if_pos (isSchemeBefore_iff.mpr isScheme)]

theorem cutScheme_cases (cs : List Char) :
    cutScheme cs = ("", cs) ∨
      ∃ name after, cs = name ++ ':' :: after ∧ NamesScheme name after ∧
        cutScheme cs = (String.ofList (lower name), after) := by
  rw [cutScheme]
  cases cut : cut? (fun c => decide (c = ':')) cs with
  | none => exact .inl rfl
  | some parts =>
      obtain ⟨mark, colon, whole, _⟩ := cut?_eq_some cut
      obtain rfl : mark = ':' := by simpa using colon
      by_cases named : isSchemeBefore parts.1 parts.2 = true
      · exact .inr ⟨parts.1, parts.2, whole, isSchemeBefore_iff.mp named, by simp [named]⟩
      · exact .inl (by simp [named])

theorem cutScheme_eq_iff {cs : List Char} {scheme : String} :
    cutScheme cs = (scheme, after) ↔
      ∃ piece, SchemePiece after scheme piece ∧ cs = piece ++ after := by
  constructor
  · intro cut
    rcases cutScheme_cases cs with absent | ⟨name, rest, rfl, isScheme, found⟩
    · obtain ⟨rfl, rfl⟩ := Prod.mk.inj (absent.symm.trans cut)
      refine ⟨[], .absent ?_, rfl⟩
      rintro name rest rfl isScheme
      -- With a scheme cut off, what is left would be shorter.
      have same := congrArg Prod.snd ((cutScheme_named isScheme).symm.trans absent)
      have shorter := congrArg List.length same
      simp only [List.length_append, List.length_cons] at shorter
      omega
    · obtain ⟨rfl, rfl⟩ := Prod.mk.inj (found.symm.trans cut)
      exact ⟨name ++ [':'], .named isScheme, by simp⟩
  · rintro ⟨piece, part, rfl⟩
    cases part with
    | absent unnamed =>
        rcases cutScheme_cases after with absent | ⟨name, rest, whole, isScheme, _⟩
        · exact absent
        · exact absurd isScheme (unnamed name rest whole)
    | named isScheme =>
        rw [List.append_assoc]
        exact cutScheme_named isScheme

end Scheme

section Authority

variable {authority after : List Char}

/-- An authority and the two slashes in front of it, up to the next delimiter, or nothing in front
of a text that does not start with two slashes. -/
inductive AuthorityPiece (after : List Char) : List Char → List Char → Prop
  | absent (unmarked : ¬ ['/', '/'] <+: after) : AuthorityPiece after [] []
  | marked {authority : List Char} (clear : ∀ c ∈ authority, endsAuthority c = false)
      (ends : ∀ c ∈ after.head?, endsAuthority c = true) :
      AuthorityPiece after authority ('/' :: '/' :: authority)

theorem cutAuthority_slashes (rest : List Char) :
    cutAuthority ('/' :: '/' :: rest) = (upTo endsAuthority rest, fromOn endsAuthority rest) := by
  have start : afterStart? ['/', '/'] ('/' :: '/' :: rest) = some rest := by simp [afterStart?]
  rw [cutAuthority, start]

theorem cutAuthority_written (clear : ∀ c ∈ authority, endsAuthority c = false)
    (ends : ∀ c ∈ after.head?, endsAuthority c = true) :
    cutAuthority ('/' :: '/' :: (authority ++ after)) = (authority, after) := by
  rw [cutAuthority_slashes, upTo_append clear ends, fromOn_append clear ends]

theorem cutAuthority_unmarked {cs : List Char} (unmarked : ¬ ['/', '/'] <+: cs) :
    cutAuthority cs = ([], cs) := by
  rw [cutAuthority, afterStart?, if_neg (mt List.isPrefixOf_iff_prefix.mp unmarked)]

theorem cutAuthority_of_no_slash {cs : List Char} (clear : ∀ c ∈ cs.head?, c ≠ '/') :
    cutAuthority cs = ([], cs) := by
  apply cutAuthority_unmarked
  rintro ⟨rest, rfl⟩
  exact clear '/' rfl rfl

theorem cutAuthority_eq_iff {cs : List Char} :
    cutAuthority cs = (authority, after) ↔
      ∃ piece, AuthorityPiece after authority piece ∧ cs = piece ++ after := by
  constructor
  · intro cut
    by_cases slashes : ['/', '/'] <+: cs
    · obtain ⟨rest, rfl⟩ := slashes
      obtain ⟨rfl, rfl⟩ := Prod.mk.inj ((cutAuthority_slashes rest).symm.trans cut)
      refine ⟨_, .marked (fun c member => (mem_upTo member).2) fun c => head?_fromOn, ?_⟩
      simp [upTo_append_fromOn]
    · obtain ⟨rfl, rfl⟩ := Prod.mk.inj ((cutAuthority_unmarked slashes).symm.trans cut)
      exact ⟨[], .absent slashes, rfl⟩
  · rintro ⟨piece, part, rfl⟩
    cases part with
    | absent unmarked => exact cutAuthority_unmarked unmarked
    | marked clear ends => exact cutAuthority_written clear ends

end Authority

section Query

variable {cs path query : List Char}

inductive QueryPiece : List Char → List Char → Prop
  | absent : QueryPiece [] []
  | marked (query : List Char) : QueryPiece query ('?' :: query)

theorem cutQuery_clear (clear : ∀ c ∈ cs, c ≠ '?') : cutQuery cs = (cs, []) := by
  rw [cutQuery, cut?_none fun c member => by simpa using clear c member]
  rfl

theorem cutQuery_eq_iff :
    cutQuery cs = (path, query) ↔
      (∀ c ∈ path, c ≠ '?') ∧ ∃ piece, QueryPiece query piece ∧ cs = path ++ piece := by
  constructor
  · intro cut
    rw [cutQuery] at cut
    cases found : cut? (fun c => decide (c = '?')) cs with
    | none =>
        rw [found] at cut
        obtain ⟨rfl, rfl⟩ := Prod.mk.inj cut
        have clear := cut?_eq_none_iff.mp found
        exact ⟨fun c member => of_decide_eq_false (clear c member), [], .absent, by simp⟩
    | some parts =>
        rw [found] at cut
        obtain ⟨mark, question, rfl, clear⟩ := cut?_eq_some found
        obtain ⟨rfl, rfl⟩ := Prod.mk.inj cut
        obtain rfl := of_decide_eq_true question
        exact ⟨fun c member => of_decide_eq_false (clear c member), _, .marked _, rfl⟩
  · rintro ⟨clear, piece, part, rfl⟩
    cases part with
    | absent => rw [List.append_nil, cutQuery_clear clear]
    | marked query =>
        rw [cutQuery, cut?_append (fun c member => decide_eq_false (clear c member)) (by decide)]
        rfl

theorem QueryPiece.clear_iff {piece : List Char} (part : QueryPiece query piece) :
    (∀ c ∈ piece, c ≠ '#') ↔ ∀ c ∈ query, c ≠ '#' := by
  cases part with
  | absent => exact Iff.rfl
  | marked query => simp

end Query

section Parameters

variable {path before segment : List Char}

/-- What may be dropped from the end of a path: nothing, or what starts with a semicolon and has no
further segment; and the path keeps no semicolon in its last segment. -/
structure AreParameters (path parameters : List Char) : Prop where
  marked : ∀ c ∈ parameters.head?, c = ';'
  clear : ∀ c ∈ parameters, c ≠ '/'
  first : ∀ c ∈ lastSegment path, c ≠ ';'

theorem lastSegment_append (ends : ∀ c ∈ before.getLast?, c = '/')
    (clear : ∀ c ∈ segment, c ≠ '/') : lastSegment (before ++ segment) = segment := by
  rw [lastSegment, List.reverse_append, upTo_append, List.reverse_reverse]
  · intro c member
    exact decide_eq_false (clear c (List.mem_reverse.mp member))
  · intro c first
    rw [List.head?_reverse] at first
    exact decide_eq_true (ends c first)

theorem exists_lastSegment (path : List Char) :
    ∃ before segment, path = before ++ segment ∧ (∀ c ∈ before.getLast?, c = '/') ∧
      ∀ c ∈ segment, c ≠ '/' := by
  refine ⟨(fromOn (fun c => decide (c = '/')) path.reverse).reverse,
    (upTo (fun c => decide (c = '/')) path.reverse).reverse, ?_, ?_, ?_⟩
  · rw [← List.reverse_append, upTo_append_fromOn, List.reverse_reverse]
  · intro c last
    rw [List.getLast?_reverse] at last
    exact of_decide_eq_true (head?_fromOn last)
  · intro c member
    exact of_decide_eq_false (mem_upTo (List.mem_reverse.mp member)).2

theorem dropParameters_append (ends : ∀ c ∈ before.getLast?, c = '/')
    (clear : ∀ c ∈ segment, c ≠ '/') :
    dropParameters (before ++ segment) = before ++ upTo (fun c => decide (c = ';')) segment := by
  simp only [dropParameters, lastSegment_append ends clear, List.length_append,
    Nat.add_sub_cancel_right, List.take_left]

theorem dropParameters_eq_iff {whole : List Char} :
    dropParameters whole = path ↔
      ∃ parameters, AreParameters path parameters ∧ whole = path ++ parameters := by
  constructor
  · rintro rfl
    obtain ⟨before, segment, rfl, ends, clear⟩ := exists_lastSegment whole
    rw [dropParameters_append ends clear]
    refine ⟨fromOn (fun c => decide (c = ';')) segment, ⟨?_, ?_, ?_⟩, ?_⟩
    · exact fun c first => of_decide_eq_true (head?_fromOn first)
    · exact fun c member => clear c (mem_fromOn member)
    · rw [lastSegment_append ends fun c member => clear c (mem_upTo member).1]
      exact fun c member => of_decide_eq_false (mem_upTo member).2
    · rw [List.append_assoc, upTo_append_fromOn]
  · rintro ⟨parameters, ⟨marked, noSlash, first⟩, rfl⟩
    obtain ⟨before, segment, rfl, ends, clear⟩ := exists_lastSegment path
    rw [lastSegment_append ends clear] at first
    rw [List.append_assoc, dropParameters_append ends, upTo_append]
    · exact fun c member => decide_eq_false (first c member)
    · exact fun c member => decide_eq_true (marked c member)
    · exact List.forall_mem_append.mpr ⟨clear, noSlash⟩

theorem dropParameters_clear (clear : ∀ c ∈ path, c ≠ ';') : dropParameters path = path := by
  obtain ⟨before, segment, rfl, ends, noSlash⟩ := exists_lastSegment path
  have whole : upTo (fun c => decide (c = ';')) segment = segment :=
    upTo_clear fun c member => decide_eq_false (clear c (List.mem_append_right before member))
  rw [dropParameters_append ends noSlash, whole]

end Parameters

end ContentPolicy.UriParts
