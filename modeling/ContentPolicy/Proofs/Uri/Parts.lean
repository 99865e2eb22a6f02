import ContentPolicy.Proofs.Uri.Cuts
import ContentPolicy.Scheme

/-!
The parts of a URI and the pieces of the text that they are cut from. A text that is written as a
scheme, an authority and a path is cut into these again; whatever the text, it is made up of the
pieces of its parts and of what no part keeps, a path after an authority is empty or starts with a
slash, and no path holds the marks of a query or a fragment.
-/

namespace ContentPolicy.UriParts

open Text

theorem cutScheme_written {scheme after : List Char} (notEmpty : scheme ≠ [])
    (chars : ∀ c ∈ scheme, isSchemeChar c = true) (noPort : isDigits after = false) :
    cutScheme (scheme ++ ':' :: after) = (String.ofList (lower scheme), after) :=
  cutScheme_named ⟨notEmpty, chars, .inr noPort⟩

def pathOf (afterAuthority : List Char) : List Char :=
  (cutQuery (upTo (fun c => decide (c = '#')) afterAuthority)).1

def queryOf (afterAuthority : List Char) : List Char :=
  (cutQuery (upTo (fun c => decide (c = '#')) afterAuthority)).2

/-- The path that stands behind an authority, without the parameters that the scheme may have. -/
def pathAfter (scheme : String) (afterAuthority : List Char) : List Char :=
  if parameterSchemes.contains scheme then dropParameters (pathOf afterAuthority)
  else pathOf afterAuthority

/-- What follows an authority is cut into a path with its parameters, a query and a fragment. -/
theorem pathOf_queryOf_eq_iff {after path query : List Char} :
    pathOf after = path ∧ queryOf after = query ↔
      (∀ c ∈ path, c ≠ '?' ∧ c ≠ '#') ∧ (∀ c ∈ query, c ≠ '#') ∧
        ∃ piece fragment, QueryPiece query piece ∧ (∀ c ∈ fragment.head?, c = '#') ∧
          after = path ++ (piece ++ fragment) := by
  have both : pathOf after = path ∧ queryOf after = query ↔
      cutQuery (upTo (fun c => decide (c = '#')) after) = (path, query) := by
    rw [Prod.ext_iff]
    rfl
  rw [both, cutQuery_eq_iff]
  constructor
  · rintro ⟨noQuery, piece, part, whole⟩
    have noFragment : ∀ c ∈ path ++ piece, c ≠ '#' := by
      intro c member
      exact of_decide_eq_false (mem_upTo (whole ▸ member)).2
    obtain ⟨inPath, inPiece⟩ := List.forall_mem_append.mp noFragment
    refine ⟨fun c member => ⟨noQuery c member, inPath c member⟩, part.clear_iff.mp inPiece, piece,
      fromOn (fun c => decide (c = '#')) after, part,
      fun c first => of_decide_eq_true (head?_fromOn first), ?_⟩
    rw [← List.append_assoc, ← whole, upTo_append_fromOn]
  · rintro ⟨inPath, inQuery, piece, fragment, part, starts, rfl⟩
    have noFragment : ∀ c ∈ path ++ piece, c ≠ '#' := List.forall_mem_append.mpr
      ⟨fun c member => (inPath c member).2, part.clear_iff.mpr inQuery⟩
    refine ⟨fun c member => (inPath c member).1, piece, part, ?_⟩
    rw [← List.append_assoc, upTo_append]
    · exact fun c member => decide_eq_false (noFragment c member)
    · exact fun c first => decide_eq_true (starts c first)

theorem mem_pathOf {cs : List Char} {c : Char} (member : c ∈ pathOf cs) :
    c ∈ cs ∧ c ≠ '?' ∧ c ≠ '#' := by
  obtain ⟨clear, _, piece, fragment, _, _, whole⟩ := pathOf_queryOf_eq_iff.mp ⟨rfl, rfl⟩
  refine ⟨?_, clear c member⟩
  rw [whole]
  exact List.mem_append_left _ member

theorem pathOf_eq_upTo (cs : List Char) :
    pathOf cs = upTo (fun c => decide (c = '?') || decide (c = '#')) cs := by
  have cut := pathOf_queryOf_eq_iff.mp ⟨Eq.refl (pathOf cs), Eq.refl (queryOf cs)⟩
  generalize pathOf cs = path, queryOf cs = query at cut ⊢
  obtain ⟨clear, _, piece, fragment, part, starts, rfl⟩ := cut
  rw [upTo_append]
  · exact fun c member => by simpa using clear c member
  · intro c first
    cases part with
    | absent => simp [starts c first]
    | marked query => simp [← Option.some.inj first]

theorem pathOf_clear {cs : List Char} (clear : ∀ c ∈ cs, c ≠ '?' ∧ c ≠ '#') : pathOf cs = cs := by
  rw [pathOf_eq_upTo, upTo_clear fun c member => by simpa using clear c member]

theorem pathAfter_data {scheme : String} (noSlashes : Scheme.hasNoSlashes scheme = true)
    (afterAuthority : List Char) : pathAfter scheme afterAuthority = pathOf afterAuthority := by
  have all : ∀ s ∈ Scheme.withoutSlashes, parameterSchemes.contains s = false := by decide
  rw [pathAfter, all scheme (Scheme.hasNoSlashes_iff.mp noSlashes), if_neg Bool.false_ne_true]

section Fragment

variable {rest fragment : List Char}

theorem upTo_fragment (clear : ∀ c ∈ rest, c ≠ '#') (starts : ∀ c ∈ fragment.head?, c = '#') :
    upTo (fun c => decide (c = '#')) (rest ++ fragment) =
      upTo (fun c => decide (c = '#')) rest := by
  have clearRest : ∀ c ∈ rest, decide (c = '#') = false := fun c member =>
    decide_eq_false (clear c member)
  rw [upTo_append clearRest fun c first => decide_eq_true (starts c first), upTo_clear clearRest]

theorem queryOf_fragment (clear : ∀ c ∈ rest, c ≠ '#') (starts : ∀ c ∈ fragment.head?, c = '#') :
    queryOf (rest ++ fragment) = queryOf rest := by
  rw [queryOf, upTo_fragment clear starts, queryOf]

theorem pathAfter_fragment (scheme : String) (clear : ∀ c ∈ rest, c ≠ '#')
    (starts : ∀ c ∈ fragment.head?, c = '#') :
    pathAfter scheme (rest ++ fragment) = pathAfter scheme rest := by
  simp only [pathAfter, pathOf, upTo_fragment clear starts]

end Fragment

theorem ofText_scheme (cs : List Char) : (ofText cs).scheme = (cutScheme cs).1 := rfl

theorem ofText_authority (cs : List Char) :
    (ofText cs).authority = (cutAuthority (cutScheme cs).2).1 := rfl

theorem ofText_path (cs : List Char) :
    (ofText cs).path = pathAfter (cutScheme cs).1 (cutAuthority (cutScheme cs).2).2 := rfl

inductive ParametersPiece (scheme : String) (path : List Char) : List Char → Prop
  | kept (notAllowed : scheme ∉ parameterSchemes) : ParametersPiece scheme path []
  | dropped {parameters : List Char} (allowed : scheme ∈ parameterSchemes)
      (areParameters : AreParameters path parameters) : ParametersPiece scheme path parameters

theorem pathAfter_eq_iff {scheme : String} {after path : List Char} :
    pathAfter scheme after = path ↔
      ∃ parameters, ParametersPiece scheme path parameters ∧ pathOf after = path ++ parameters := by
  rw [pathAfter]
  by_cases allowed : scheme ∈ parameterSchemes
  · rw [if_pos (List.contains_iff_mem.mpr allowed), dropParameters_eq_iff]
    constructor
    · rintro ⟨parameters, areParameters, whole⟩
      exact ⟨parameters, .dropped allowed areParameters, whole⟩
    · rintro ⟨parameters, notAllowed | ⟨_, areParameters⟩, whole⟩
      · exact absurd allowed notAllowed
      · exact ⟨parameters, areParameters, whole⟩
  · rw [if_neg (mt List.contains_iff_mem.mp allowed)]
    constructor
    · intro whole
      exact ⟨[], .kept allowed, by rw [whole, List.append_nil]⟩
    · rintro ⟨parameters, _ | ⟨isAllowed, _⟩, whole⟩
      · rw [whole, List.append_nil]
      · exact absurd isAllowed allowed

/-- A text and its parts. The text is made up of the scheme and the authority with their marks, the
path, the parameters that the path does not keep, the query with its mark, and a fragment; a piece
is missing only where the text has none. -/
inductive CutsInto : List Char → UriParts → Prop
  | pieces {scheme : String} {authority path query : List Char}
      {markedScheme markedAuthority parameters markedQuery fragment : List Char}
      (schemePiece : SchemePiece
        (markedAuthority ++ (path ++ parameters ++ (markedQuery ++ fragment))) scheme markedScheme)
      (authorityPiece : AuthorityPiece
        (path ++ parameters ++ (markedQuery ++ fragment)) authority markedAuthority)
      (parametersPiece : ParametersPiece scheme path parameters)
      (queryPiece : QueryPiece query markedQuery)
      (fragmentPiece : ∀ c ∈ fragment.head?, c = '#')
      (pathClear : ∀ c ∈ path ++ parameters, c ≠ '?' ∧ c ≠ '#')
      (queryClear : ∀ c ∈ query, c ≠ '#') :
      CutsInto
        (markedScheme ++ (markedAuthority ++ (path ++ parameters ++ (markedQuery ++ fragment))))
        ⟨scheme, authority, path, query⟩

theorem ofText_of_cuts {cs afterScheme authority after : List Char} {scheme : String}
    (schemeCut : cutScheme cs = (scheme, afterScheme))
    (authorityCut : cutAuthority afterScheme = (authority, after)) :
    ofText cs = ⟨scheme, authority, pathAfter scheme after, queryOf after⟩ := by
  simp only [ofText, schemeCut, authorityCut]
  rfl

theorem cutsInto_ofText (cs : List Char) : CutsInto cs (ofText cs) := by
  rcases schemeCut : cutScheme cs with ⟨scheme, afterScheme⟩
  rcases authorityCut : cutAuthority afterScheme with ⟨authority, after⟩
  rw [ofText_of_cuts schemeCut authorityCut]
  obtain ⟨markedScheme, schemePiece, rfl⟩ := cutScheme_eq_iff.mp schemeCut
  obtain ⟨markedAuthority, authorityPiece, rfl⟩ := cutAuthority_eq_iff.mp authorityCut
  obtain ⟨parameters, parametersPiece, whole⟩ :=
    pathAfter_eq_iff.mp (Eq.refl (pathAfter scheme after))
  have rest := pathOf_queryOf_eq_iff.mp ⟨whole, Eq.refl (queryOf after)⟩
  generalize pathAfter scheme after = path, queryOf after = query at parametersPiece rest ⊢
  obtain ⟨pathClear, queryClear, markedQuery, fragment, queryPiece, fragmentPiece, rfl⟩ := rest
  exact .pieces schemePiece authorityPiece parametersPiece queryPiece fragmentPiece pathClear
    queryClear

theorem CutsInto.ofText_eq {cs : List Char} {parts : UriParts} (cut : CutsInto cs parts) :
    ofText cs = parts := by
  cases cut with
  | pieces schemePiece authorityPiece parametersPiece queryPiece fragmentPiece pathClear queryClear =>
      have schemeCut := cutScheme_eq_iff.mpr ⟨_, schemePiece, rfl⟩
      have authorityCut := cutAuthority_eq_iff.mpr ⟨_, authorityPiece, rfl⟩
      obtain ⟨whole, queryCut⟩ := pathOf_queryOf_eq_iff.mpr
        ⟨pathClear, queryClear, _, _, queryPiece, fragmentPiece, rfl⟩
      rw [ofText_of_cuts schemeCut authorityCut, queryCut,
        pathAfter_eq_iff.mpr ⟨_, parametersPiece, whole⟩]

/-- The parts of a text are those that it cuts into: no character is lost but the marks, the
parameters and the fragment, and the text cuts into no other parts. -/
theorem ofText_eq_iff {cs : List Char} {parts : UriParts} :
    ofText cs = parts ↔ CutsInto cs parts := by
  constructor
  · rintro rfl
    exact cutsInto_ofText cs
  · exact CutsInto.ofText_eq

example : ofText "HTTP://h:80/a;b/c;d?q?r#f".toList =
    ⟨"http", "h:80".toList, "/a;b/c".toList, "q?r".toList⟩ := by decide

namespace CutsInto

variable {cs : List Char} {parts : UriParts} (cut : CutsInto cs parts)

include cut

theorem mem_path {c : Char} (member : c ∈ parts.path) : c ∈ cs ∧ c ≠ '?' ∧ c ≠ '#' := by
  cases cut with
  | pieces _ _ _ _ _ pathClear _ =>
      refine ⟨?_, pathClear c (List.mem_append_left _ member)⟩
      exact List.mem_append_right _ (List.mem_append_right _
        (List.mem_append_left _ (List.mem_append_left _ member)))

theorem mem_query {c : Char} (member : c ∈ parts.query) : c ≠ '#' := by
  cases cut with
  | pieces _ _ _ _ _ _ queryClear => exact queryClear c member

theorem path_rooted (hasAuthority : parts.authority ≠ []) : ∀ c ∈ parts.path.head?, c = '/' := by
  cases cut with
  | pieces _ authorityPiece _ _ _ pathClear _ =>
      cases authorityPiece with
      | absent => exact absurd rfl hasAuthority
      | marked _ ends =>
          intro c first
          have clear := pathClear c (List.mem_append_left _ (List.mem_of_mem_head? first))
          -- What ends an authority is a slash, or one of the marks that no path holds.
          have ending := ends c (by rw [List.append_assoc, List.head?_append, first]; rfl)
          simpa [endsAuthority, clear] using ending

end CutsInto

/-- A written scheme and authority are parts of their text; the rest is cut into path and query. -/
theorem ofText_located {scheme authority rest : List Char} (notEmpty : scheme ≠ [])
    (chars : ∀ c ∈ scheme, isSchemeChar c = true)
    (clear : ∀ c ∈ authority, endsAuthority c = false)
    (ends : ∀ c ∈ rest.head?, endsAuthority c = true) :
    ofText (scheme ++ ':' :: '/' :: '/' :: (authority ++ rest)) =
      ⟨String.ofList (lower scheme), authority, pathAfter (String.ofList (lower scheme)) rest,
        queryOf rest⟩ :=
  ofText_of_cuts (cutScheme_written notEmpty chars rfl) (cutAuthority_written clear ends)

theorem pathAfter_written {rest path query : List Char} (noFragment : ∀ c ∈ rest, c ≠ '#')
    (cut : cutQuery rest = (path, query)) (noParameters : ∀ c ∈ path, c ≠ ';') (scheme : String) :
    pathAfter scheme rest = path ∧ queryOf rest = query := by
  have fragment : upTo (fun c => decide (c = '#')) rest = rest :=
    upTo_clear fun c member => decide_eq_false (noFragment c member)
  have parameters : dropParameters path = path := dropParameters_clear noParameters
  simp only [pathAfter, queryOf, pathOf, fragment, cut, parameters, ite_self, and_self]

theorem pathAfter_clear {path : List Char} (clear : ∀ c ∈ path, c ≠ ';' ∧ c ≠ '?' ∧ c ≠ '#')
    (scheme : String) : pathAfter scheme path = path ∧ queryOf path = [] := by
  apply pathAfter_written
  · exact fun c member => (clear c member).2.2
  · exact cutQuery_clear fun c member => (clear c member).2.1
  · exact fun c member => (clear c member).1

theorem ofText_written {scheme authority path : List Char} (notEmpty : scheme ≠ [])
    (chars : ∀ c ∈ scheme, isSchemeChar c = true)
    (clear : ∀ c ∈ authority, endsAuthority c = false) (rooted : ∀ c ∈ path.head?, c = '/')
    (clearPath : ∀ c ∈ path, c ≠ ';' ∧ c ≠ '?' ∧ c ≠ '#') :
    ofText (scheme ++ ':' :: '/' :: '/' :: (authority ++ path)) =
      ⟨String.ofList (lower scheme), authority, path, []⟩ := by
  obtain ⟨keptPath, keptQuery⟩ := pathAfter_clear clearPath (String.ofList (lower scheme))
  rw [ofText_located notEmpty chars clear fun c first => rooted c first ▸ rfl, keptPath, keptQuery]

theorem isName_of_schemeChars {cs : List Char} (notEmpty : cs ≠ [])
    (chars : ∀ c ∈ cs, isSchemeChar c = true) :
    Scheme.isName (String.ofList (lower cs)) = true := by
  have image : ∀ c : Char, isSchemeChar c = true →
      (c.toLower.isLower || c.toLower.isDigit || decide (c.toLower = '+') ||
        decide (c.toLower = '-') || decide (c.toLower = '.')) = true := by
    intro c holds
    rw [isSchemeChar_iff, isAlphanum_iff] at holds
    simp only [Bool.or_eq_true, decide_eq_true_eq, isLower_iff, isDigit_iff, eq_iff_toNat,
      toNat_toLower]
    have : '+'.toNat = 43 ∧ '-'.toNat = 45 ∧ '.'.toNat = 46 := by decide
    split <;> omega
  rw [Scheme.isName, Bool.and_eq_true]
  constructor
  · simpa [lower, String.ofList_eq_empty_iff] using notEmpty
  · rw [String.toList_ofList, lower, List.all_map, List.all_eq_true]
    intro c member
    exact image c (chars c member)

theorem CutsInto.scheme_isName {cs : List Char} {parts : UriParts} (cut : CutsInto cs parts)
    (hasScheme : parts.scheme ≠ "") : Scheme.isName parts.scheme = true := by
  cases cut with
  | pieces schemePiece _ _ _ _ _ _ =>
      cases schemePiece with
      | absent => exact absurd rfl hasScheme
      | named isScheme => exact isName_of_schemeChars isScheme.1 isScheme.2.1

end ContentPolicy.UriParts
