import ContentPolicy.Proofs.Text.Pieces
import ContentPolicy.Proofs.Uri.Parts
import ContentPolicy.Uri.Reference

/-!
What a text refers to. A text is a bare scheme exactly when it is a known name with nothing but the
marks of a scheme behind it; a written authority with a path is referred to as such, with or without
a scheme in front of it.
-/

namespace ContentPolicy

namespace SchemePorts

def Named (known : SchemePorts) : Prop :=
  ∀ name, known.contains name = true → Scheme.isName name = true

theorem standard_named : standard.Named := by
  have all : standard.keys.all Scheme.isName = true := by decide +kernel
  intro name isKnown
  obtain ⟨port, found⟩ := (SortedMap.contains_iff standard name).mp isKnown
  exact List.all_eq_true.mp all name ((SortedMap.mem_keys_iff standard name).mpr ⟨port, found⟩)

theorem standard_contains {scheme : String} (noSlashes : Scheme.hasNoSlashes scheme = true) :
    standard.contains scheme = true := by
  have all : ∀ s ∈ Scheme.withoutSlashes, standard.contains s = true := by decide +kernel
  exact all scheme (Scheme.hasNoSlashes_iff.mp noSlashes)

end SchemePorts

namespace Scheme

theorem isName_ne_empty {name : String} (named : isName name = true) : name.toList ≠ [] := by
  intro empty
  rw [isName, Bool.and_eq_true, decide_eq_true_eq] at named
  exact named.1 (String.toList_eq_nil_iff.mp empty)

theorem ne_empty_of_isName {name : String} (named : isName name = true) : name ≠ "" := fun empty =>
  isName_ne_empty named (String.toList_eq_nil_iff.mpr empty)

theorem isName_chars {name : String} (named : isName name = true) :
    ∀ c ∈ name.toList, UriParts.isSchemeChar c = true ∧ c.toLower = c := by
  intro c member
  rw [isName, Bool.and_eq_true] at named
  have holds := List.all_eq_true.mp named.2 c member
  simp only [Bool.or_eq_true, decide_eq_true_eq, Text.isLower_iff, Text.isDigit_iff,
    Text.eq_iff_toNat] at holds
  have : '+'.toNat = 43 ∧ '-'.toNat = 45 ∧ '.'.toNat = 46 := by decide
  constructor
  · rw [Text.isSchemeChar_iff, Text.isAlphanum_iff]
    omega
  · rw [Text.eq_iff_toNat, Text.toNat_toLower, if_neg]
    omega

theorem isName_lower {name : String} (named : isName name = true) :
    Text.lower name.toList = name.toList :=
  (Text.lower_eq_self_iff _).mpr fun c member => (isName_chars named c member).2

theorem isName_toLower {name : String} (named : isName name = true) : name.toLower = name := by
  rw [← String.toList_inj, Text.toList_toLower, isName_lower named]

theorem isSchemeChar_ne_colon {c : Char} (holds : UriParts.isSchemeChar c = true) : c ≠ ':' := by
  rintro rfl
  exact Bool.false_ne_true (UriParts.not_isSchemeChar_colon.symm.trans holds)

theorem isName_no_colon {name : String} (named : isName name = true) :
    ∀ c ∈ name.toList, decide (c = ':') = false := fun c member =>
  decide_eq_false (isSchemeChar_ne_colon (isName_chars named c member).1)

end Scheme

theorem SchemePorts.Named.unknown_of_mem {known : SchemePorts} (named : known.Named)
    {name : String} (mark : Char) (member : mark ∈ name.toList)
    (noScheme : UriParts.isSchemeChar mark = false) : known.contains name = false := by
  by_contra isKnown
  have isName := named name (Bool.not_eq_false _ ▸ isKnown)
  have holds := (Scheme.isName_chars isName mark member).1
  exact Bool.false_ne_true (noScheme.symm.trans holds)

namespace Text

theorem beforeEnd?_eq_some_iff {ending cs before : List Char} :
    beforeEnd? ending cs = some before ↔ cs = before ++ ending := by
  rw [beforeEnd?]
  constructor
  · intro found
    split at found
    · rename_i suffix
      obtain ⟨start, whole⟩ := List.isSuffixOf_iff_suffix.mp suffix
      rw [← whole, List.length_append, Nat.add_sub_cancel, List.take_left] at found
      rw [← whole, Option.some.inj found]
    · cases found
  · rintro rfl
    simp

end Text

namespace Reference

open Text

def schemeMarks : List (List Char) := [[], [':'], [':', '/', '/']]

theorem bareScheme?_known {known : SchemePorts} {cs : List Char} {name : String}
    (found : bareScheme? known cs = some name) : known.contains name = true := by
  rw [bareScheme?] at found
  exact List.find?_some found

theorem mem_candidates_iff {cs : List Char} {name : String} :
    name ∈ ([some (lower cs), beforeEnd? [':'] (lower cs), beforeEnd? [':', '/', '/'] (lower cs)]
      ).filterMap (fun c => c.map String.ofList) ↔
      ∃ marks ∈ schemeMarks, lower cs = name.toList ++ marks := by
  have written : ∀ before, String.ofList before = name ↔ before = name.toList := fun before => by
    rw [← String.toList_inj, String.toList_ofList]
  simp only [List.mem_filterMap, List.mem_cons, List.not_mem_nil, or_false, schemeMarks,
    Option.map_eq_some_iff, exists_eq_or_imp, exists_eq_left, beforeEnd?_eq_some_iff, written,
    List.append_nil, exists_eq_right, Option.some.injEq]

/-- A text is a bare scheme when it is a known name and the marks of a scheme. -/
theorem bareScheme?_eq_some_iff {known : SchemePorts} (named : known.Named) {cs : List Char}
    {name : String} :
    bareScheme? known cs = some name ↔
      known.contains name = true ∧ ∃ marks ∈ schemeMarks, lower cs = name.toList ++ marks := by
  -- The name is what precedes the first colon, so no two candidates are known.
  have unique : ∀ {n : String}, known.contains n = true →
      (∃ marks ∈ schemeMarks, lower cs = n.toList ++ marks) →
      n.toList = upTo (fun c => decide (c = ':')) (lower cs) := by
    rintro n isKnown ⟨marks, isMark, whole⟩
    rw [whole, upTo_append (Scheme.isName_no_colon (named n isKnown))]
    simp only [schemeMarks, List.mem_cons, List.not_mem_nil, or_false] at isMark
    rcases isMark with rfl | rfl | rfl <;> simp
  rw [bareScheme?]
  constructor
  · intro found
    exact ⟨List.find?_some found, mem_candidates_iff.mp (List.mem_of_find?_eq_some found)⟩
  · rintro ⟨isKnown, marked⟩
    have member := mem_candidates_iff.mpr marked
    cases found : List.find? known.contains
        (([some (lower cs), beforeEnd? [':'] (lower cs), beforeEnd? [':', '/', '/'] (lower cs)]
          ).filterMap (fun c => c.map String.ofList)) with
    | none => exact absurd isKnown (List.find?_eq_none.mp found name member)
    | some other =>
        have otherMarked := mem_candidates_iff.mp (List.mem_of_find?_eq_some found)
        have same : other.toList = name.toList :=
          (unique (List.find?_some found) otherMarked).trans (unique isKnown marked).symm
        exact congrArg some (String.toList_inj.mp same)

theorem bareScheme?_of_no_colon {known : SchemePorts} (named : known.Named) {cs : List Char}
    (clear : ∀ c ∈ cs, c ≠ ':') {name : String} :
    bareScheme? known cs = some name ↔ known.contains name = true ∧ lower cs = name.toList := by
  have clearLower : ':' ∉ lower cs := by
    intro member
    obtain ⟨c, inside, image⟩ := List.mem_map.mp member
    exact clear c inside ((toLower_eq_iff (.inl (by decide))).mp image)
  rw [bareScheme?_eq_some_iff named]
  constructor
  · rintro ⟨isKnown, marks, isMark, whole⟩
    simp only [schemeMarks, List.mem_cons, List.not_mem_nil, or_false] at isMark
    rcases isMark with rfl | rfl | rfl
    · exact ⟨isKnown, by simpa using whole⟩
    · exact absurd (by simp [whole]) clearLower
    · exact absurd (by simp [whole]) clearLower
  · rintro ⟨isKnown, whole⟩
    exact ⟨isKnown, [], by simp [schemeMarks], by simpa using whole⟩

theorem bareScheme?_of_colon {known : SchemePorts} (named : known.Named) {start rest : List Char}
    (clear : ∀ c ∈ start, c ≠ ':') (notEmpty : rest ≠ []) (more : rest ≠ ['/', '/']) :
    bareScheme? known (start ++ ':' :: rest) = none := by
  cases found : bareScheme? known (start ++ ':' :: rest) with
  | none => rfl
  | some name =>
      obtain ⟨isKnown, marks, isMark, whole⟩ := (bareScheme?_eq_some_iff named).mp found
      have clearLower : ∀ c ∈ lower start, decide (c = ':') = false := by
        intro d member
        obtain ⟨c, inside, rfl⟩ := List.mem_map.mp member
        exact decide_eq_false fun image =>
          clear c inside ((toLower_eq_iff (.inl (by decide))).mp image)
      have clearName := Scheme.isName_no_colon (named name isKnown)
      have cutText : cut? (fun c => decide (c = ':')) (lower (start ++ ':' :: rest)) =
          some (lower start, lower rest) := by
        rw [lower_append]
        exact cut?_append clearLower (by decide)
      -- The text is cut at its first colon, so the rest would be that of the marks.
      rw [whole] at cutText
      simp only [schemeMarks, List.mem_cons, List.not_mem_nil, or_false] at isMark
      rcases isMark with rfl | rfl | rfl
      · rw [List.append_nil, cut?_none clearName] at cutText
        cases cutText
      · rw [cut?_append clearName (by decide)] at cutText
        have empty := congrArg List.length (Prod.mk.inj (Option.some.inj cutText)).2
        rw [length_lower] at empty
        exact absurd (List.length_eq_zero_iff.mp empty.symm) notEmpty
      · rw [cut?_append clearName (by decide)] at cutText
        have slashes := (Prod.mk.inj (Option.some.inj cutText)).2
        have caseless : ∀ c ∈ ['/', '/'], c.isAlphanum = false := by
          intro c member
          obtain rfl : c = '/' := by simpa using member
          rfl
        exact absurd ((lower_eq_iff caseless).mp slashes.symm) more

def refer (authority? : List Char → Option Authority) (scheme : Option String) (parts : UriParts) :
    Reference :=
  match authority? parts.authority with
  | none => .invalid
  | some a => .located scheme { a with host := lower a.host } parts.path parts.query

theorem ofText_null {known : SchemePorts} (authority? : List Char → Option Authority)
    {cs : List Char} (token : IsToken cs) (null : spells cs "null" = true) :
    ofText known authority? cs = .empty := by
  simp only [ofText, token.trim_eq, null, Bool.or_true, if_true]

theorem ofText_of_bare {known : SchemePorts} (authority? : List Char → Option Authority)
    {cs : List Char} (token : IsToken cs) (notNull : spells cs "null" = false) {name : String}
    (bare : bareScheme? known cs = some name) :
    ofText known authority? cs = .schemeOnly name := by
  have isEmpty : cs.isEmpty = false := by simpa using token.1
  simp only [ofText, token.trim_eq, isEmpty, notNull, bare, Bool.or_self, Bool.false_eq_true,
    if_false]

theorem ofText_of_parts {known : SchemePorts} (authority? : List Char → Option Authority)
    {text cs : List Char} (cut : trim text = cs) (notEmpty : cs ≠ [])
    (notNull : spells cs "null" = false) (notBare : bareScheme? known cs = none) :
    ofText known authority? text =
      if Scheme.hasNoSlashes (UriParts.ofText cs).scheme then
        .withData (UriParts.ofText cs).scheme (UriParts.ofText cs).path
      else
        refer authority? (hostParts cs (.ofText cs)).1 (hostParts cs (.ofText cs)).2 := by
  have isEmpty : cs.isEmpty = false := by simpa using notEmpty
  simp only [ofText, cut, isEmpty, notNull, notBare, Bool.or_self, Bool.false_eq_true, if_false]
  rfl

theorem not_spells_of_mark (mark : Char) (caseless : mark.isAlphanum = false) {cs : List Char}
    (member : mark ∈ cs) {name : String} (letters : name.toList.all Char.isAlphanum = true) :
    spells cs name = false := by
  rw [spells, sameIgnoringCase, beq_eq_false_iff_ne]
  intro same
  have image : mark.toLower = mark := (toLower_eq_iff (.inl caseless)).mpr rfl
  have inside : mark ∈ lower name.toList := same ▸ List.mem_map.mpr ⟨mark, member, image⟩
  obtain ⟨letter, inName, lowered⟩ := List.mem_map.mp inside
  obtain rfl := (toLower_eq_iff (.inl caseless)).mp lowered
  exact Bool.false_ne_true (caseless.symm.trans (List.all_eq_true.mp letters _ inName))

theorem not_null_of_mark (mark : Char) (caseless : mark.isAlphanum = false) {cs : List Char}
    (member : mark ∈ cs) : spells cs "null" = false :=
  not_spells_of_mark mark caseless member (by decide)

theorem not_null_of_colon {start rest : List Char} :
    spells (start ++ ':' :: rest) "null" = false :=
  not_null_of_mark ':' (by decide) (by simp)

theorem not_null_of_slash {start rest : List Char} :
    spells (start ++ '/' :: rest) "null" = false :=
  not_null_of_mark '/' (by decide) (by simp)

theorem isToken_marks {slashes : List Char} (marks : slashes = [] ∨ slashes = ['/', '/']) :
    IsToken (':' :: slashes) := by
  rcases marks with rfl | rfl <;> decide

theorem ofText_scheme {known : SchemePorts} (named : known.Named)
    (authority? : List Char → Option Authority) {name : String}
    (isKnown : known.contains name = true) {slashes : List Char}
    (marks : slashes = [] ∨ slashes = ['/', '/']) :
    ofText known authority? (name.toList ++ ':' :: slashes) = .schemeOnly name := by
  have isName := named name isKnown
  have isMark : ':' :: slashes ∈ schemeMarks := by
    rcases marks with rfl | rfl <;> decide
  have token : IsToken (name.toList ++ ':' :: slashes) := by
    constructor
    · simp
    · intro c member
      rcases List.mem_append.mp member with inside | mark
      · have clear := isSchemeChar_clear (Scheme.isName_chars isName c inside).1
        exact ⟨clear.1, clear.2.1⟩
      · exact (isToken_marks marks).2 c mark
  have bare : bareScheme? known (name.toList ++ ':' :: slashes) = some name := by
    apply (bareScheme?_eq_some_iff named).mpr
    refine ⟨isKnown, ':' :: slashes, isMark, ?_⟩
    rw [lower_append, Scheme.isName_lower isName]
    rcases marks with rfl | rfl <;> rfl
  exact ofText_of_bare authority? token not_null_of_colon bare

theorem ofText_of_cut {known : SchemePorts} (named : known.Named)
    (authority? : List Char → Option Authority) {text scheme rest : List Char} {parts : UriParts}
    (chars : ∀ c ∈ scheme, UriParts.isSchemeChar c = true) (more : rest ≠ [])
    (cut : trim text = scheme ++ ':' :: '/' :: '/' :: rest)
    (whole : UriParts.ofText (scheme ++ ':' :: '/' :: '/' :: rest) = parts)
    (given : parts.scheme ≠ "") (slashes : Scheme.hasNoSlashes parts.scheme = false)
    (hasAuthority : parts.authority ≠ []) :
    ofText known authority? text = refer authority? (some parts.scheme) parts := by
  have notBare : bareScheme? known (scheme ++ ':' :: '/' :: '/' :: rest) = none :=
    bareScheme?_of_colon named
      (fun c member => Scheme.isSchemeChar_ne_colon (chars c member)) (by simp) (by simp [more])
  rw [ofText_of_parts authority? cut (by simp) not_null_of_colon notBare, whole]
  simp [slashes, hostParts, hasAuthority, given]

theorem ofText_of_located {known : SchemePorts} (named : known.Named)
    (authority? : List Char → Option Authority) {text scheme authority rest : List Char}
    (isScheme : scheme ≠ []) (chars : ∀ c ∈ scheme, UriParts.isSchemeChar c = true)
    (slashes : Scheme.hasNoSlashes (String.ofList (lower scheme)) = false)
    (notEmpty : authority ≠ []) (clear : ∀ c ∈ authority, UriParts.endsAuthority c = false)
    (ends : ∀ c ∈ rest.head?, UriParts.endsAuthority c = true)
    (cut : trim text = scheme ++ ':' :: '/' :: '/' :: (authority ++ rest)) :
    ofText known authority? text =
      refer authority? (some (String.ofList (lower scheme)))
        ⟨String.ofList (lower scheme), authority,
          UriParts.pathAfter (String.ofList (lower scheme)) rest, UriParts.queryOf rest⟩ := by
  have given : String.ofList (lower scheme) ≠ "" := by
    simpa [lower, String.ofList_eq_empty_iff] using isScheme
  exact ofText_of_cut named authority? chars (by simp [notEmpty]) cut
    (UriParts.ofText_located isScheme chars clear ends) given slashes notEmpty

theorem ofText_of_scheme {known : SchemePorts} (named : known.Named)
    (authority? : List Char → Option Authority) {scheme : String} {authority path : List Char}
    (isName : Scheme.isName scheme = true) (slashes : Scheme.hasNoSlashes scheme = false)
    (notEmpty : authority ≠ []) (clear : ∀ c ∈ authority, UriParts.endsAuthority c = false)
    (rooted : ∀ c ∈ path.head?, c = '/')
    (clearPath : ∀ c ∈ path, c ≠ ';' ∧ c ≠ '?' ∧ c ≠ '#')
    (trimmed : trim (scheme.toList ++ ':' :: '/' :: '/' :: (authority ++ path)) =
      scheme.toList ++ ':' :: '/' :: '/' :: (authority ++ path)) :
    ofText known authority? (scheme.toList ++ ':' :: '/' :: '/' :: (authority ++ path)) =
      refer authority? (some scheme) ⟨scheme, authority, path, []⟩ := by
  have chars : ∀ c ∈ scheme.toList, UriParts.isSchemeChar c = true := fun c member =>
    (Scheme.isName_chars isName c member).1
  have parts := UriParts.ofText_written (Scheme.isName_ne_empty isName) chars clear rooted clearPath
  rw [Scheme.isName_lower isName, String.ofList_toList] at parts
  exact ofText_of_cut named authority? chars (by simp [notEmpty]) trimmed parts
    (Scheme.ne_empty_of_isName isName) slashes notEmpty

/-- An authority at the start of the text. Neither the text nor what precedes a colon in it may be
taken for a scheme that stands without slashes. -/
theorem ofText_of_host {known : SchemePorts} (authority? : List Char → Option Authority)
    {text authority rest : List Char} (notEmpty : authority ≠ [])
    (clear : ∀ c ∈ authority, UriParts.endsAuthority c = false)
    (ends : ∀ c ∈ rest.head?, UriParts.endsAuthority c = true)
    (cut : trim text = authority ++ rest) (notNull : spells (authority ++ rest) "null" = false)
    (notBare : bareScheme? known (authority ++ rest) = none)
    (slashes : Scheme.hasNoSlashes (UriParts.ofText (authority ++ rest)).scheme = false)
    (noAuthority : (UriParts.ofText (authority ++ rest)).authority = []) :
    ofText known authority? text =
      refer authority? none
        ⟨"http", authority, UriParts.pathAfter "http" rest, UriParts.queryOf rest⟩ := by
  -- A text without an authority is cut once more, with slashes in front.
  have parts : UriParts.ofText ("http".toList ++ ':' :: '/' :: '/' :: (authority ++ rest)) =
      ⟨"http", authority, UriParts.pathAfter "http" rest, UriParts.queryOf rest⟩ :=
    UriParts.ofText_located (by decide) (List.all_eq_true.mp (by decide)) clear ends
  rw [ofText_of_parts authority? cut (by simp [notEmpty]) notNull notBare, slashes]
  simp only [Bool.false_eq_true, if_false, hostParts, noAuthority, List.isEmpty_nil, if_true]
  exact congrArg (refer authority? none) parts

/-- What holds of anything that a text refers to: schemes are known or names, data stem from the
text, and a host has the form that is asked for. -/
def Sound (known : SchemePorts) (authority? : List Char → Option Authority) (text : List Char) :
    Reference → Prop
  | .empty | .invalid => True
  | .schemeOnly scheme => known.contains scheme = true
  | .withData scheme data =>
      Scheme.hasNoSlashes scheme = true ∧ ∀ c ∈ data, c ∈ text ∧ c ≠ '?' ∧ c ≠ '#'
  | .located scheme a path _ =>
      (∀ name ∈ scheme, Scheme.isName name = true ∧ Scheme.hasNoSlashes name = false) ∧
        (∃ cs written, authority? cs = some written ∧
          a = { written with host := lower written.host }) ∧
        ∀ c ∈ path.head?, c = '/'

theorem refer_sound {known : SchemePorts} {authority? : List Char → Option Authority}
    (noneEmpty : authority? [] = none) {text cs : List Char} {scheme : Option String}
    (name : ∀ n ∈ scheme, Scheme.isName n = true ∧ Scheme.hasNoSlashes n = false) :
    Sound known authority? text (refer authority? scheme (.ofText cs)) := by
  rw [refer]
  cases written : authority? (UriParts.ofText cs).authority with
  | none => trivial
  | some a =>
      have hasAuthority : (UriParts.ofText cs).authority ≠ [] := by
        intro empty
        rw [empty, noneEmpty] at written
        cases written
      exact ⟨name, ⟨_, a, written, rfl⟩, (UriParts.cutsInto_ofText cs).path_rooted hasAuthority⟩

theorem ofText_sound (known : SchemePorts) {authority? : List Char → Option Authority}
    (noneEmpty : authority? [] = none) (text : List Char) :
    Sound known authority? text (ofText known authority? text) := by
  by_cases blank : ((trim text).isEmpty || spells (trim text) "null") = true
  · rw [ofText, if_pos blank]
    trivial
  · cases bare : bareScheme? known (trim text) with
    | some scheme =>
        simp only [ofText, blank, Bool.false_eq_true, if_false, bare]
        exact bareScheme?_known bare
    | none =>
        simp only [ofText, blank, Bool.false_eq_true, if_false, bare]
        by_cases slashes : Scheme.hasNoSlashes (UriParts.ofText (trim text)).scheme = true
        · rw [if_pos slashes]
          refine ⟨slashes, fun c member => ?_⟩
          have inside := (UriParts.cutsInto_ofText _).mem_path member
          exact ⟨mem_of_mem_trim inside.1, inside.2⟩
        · rw [if_neg slashes]
          by_cases host : (UriParts.ofText (trim text)).authority.isEmpty = true
          · simp only [hostParts, if_pos host]
            exact refer_sound noneEmpty fun _ absent => nomatch absent
          · simp only [hostParts, host, Bool.false_eq_true, if_false]
            refine refer_sound noneEmpty fun name given => ?_
            split at given
            · cases given
            · rename_i hasScheme
              cases given
              exact ⟨(UriParts.cutsInto_ofText _).scheme_isName hasScheme, by simpa using slashes⟩

end Reference

end ContentPolicy
