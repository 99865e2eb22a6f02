import ContentPolicy.Proofs.Uri.Invariance

/-!
Reading a scheme that is followed by its data. The data go through the cuts that any text behind a
scheme goes through, so they are kept as they are only where the cuts find nothing: where the data
do not start like an authority and hold no mark of a query or a fragment. Digits alone are not even
data: they are a port, and the scheme in front of them is a host.
-/

namespace ContentPolicy

open Text

namespace Scheme

theorem hasNoSlashes_spelling {scheme : List Char}
    (noSlashes : hasNoSlashes (String.ofList (lower scheme)) = true) :
    (∀ c ∈ scheme, UriParts.isSchemeChar c = true) ∧ Authority.isName scheme = true ∧
      scheme ≠ "http".toList := by
  have all : ∀ s ∈ withoutSlashes, Authority.isName s.toList = true ∧
      s.toList ≠ lower "http".toList := by decide
  obtain ⟨named, notHttp⟩ := all _ (hasNoSlashes_iff.mp noSlashes)
  have chars := List.all_eq_true.mpr (UriParser.isSchemeChar_of_hasNoSlashes noSlashes)
  rw [String.toList_ofList] at chars named notHttp
  rw [all_lower isSchemeChar_toLower] at chars
  rw [Authority.isName_lower] at named
  refine ⟨List.all_eq_true.mp chars, named, ?_⟩
  rintro rfl
  exact notHttp rfl

theorem not_isDigits {scheme : String} (noSlashes : hasNoSlashes scheme = true) :
    isDigits scheme.toList = false := by
  have all : ∀ s ∈ withoutSlashes, isDigits s.toList = false := by decide
  exact all scheme (hasNoSlashes_iff.mp noSlashes)

end Scheme

namespace UriParts

variable {data : List Char}

structure Uncut (data : List Char) : Prop where
  noPort : isDigits data = false
  noAuthority : ¬ ['/', '/'] <+: data
  noMark : ∀ c ∈ data, c ≠ '?' ∧ c ≠ '#'

theorem pathOf_sublist (cs : List Char) : (pathOf cs).Sublist cs := by
  rw [pathOf_eq_upTo]
  exact List.takeWhile_sublist _

theorem pathOf_cutAuthority_eq_self_iff :
    pathOf (cutAuthority data).2 = data ↔
      ¬ ['/', '/'] <+: data ∧ ∀ c ∈ data, c ≠ '?' ∧ c ≠ '#' := by
  constructor
  · intro kept
    constructor
    · -- An authority takes its slashes with it, so what is left is shorter.
      rintro ⟨rest, rfl⟩
      change pathOf (cutAuthority ('/' :: '/' :: rest)).2 = '/' :: '/' :: rest at kept
      rw [cutAuthority_slashes] at kept
      have left : (pathOf (fromOn endsAuthority rest)).Sublist rest :=
        (pathOf_sublist _).trans (List.dropWhile_sublist _)
      rw [kept] at left
      have longer := left.length_le
      simp only [List.length_cons] at longer
      omega
    · intro c member
      rw [← kept] at member
      exact (mem_pathOf member).2
  · rintro ⟨noAuthority, noMark⟩
    rw [cutAuthority_unmarked noAuthority, pathOf_clear noMark]

end UriParts

namespace Reference

variable {known : SchemePorts} {scheme data : List Char}

/-- Of the data behind a scheme, an authority at their start, a query and a fragment are dropped. -/
theorem ofText_data (named : known.Named) (authority? : List Char → Option Authority)
    (noSlashes : Scheme.hasNoSlashes (String.ofList (lower scheme)) = true) (notEmpty : data ≠ [])
    (notMarks : data ≠ ['/', '/']) (unspaced : ∀ c ∈ data.getLast?, isBlank c = false)
    (noPort : isDigits data = false) :
    ofText known authority? (scheme ++ ':' :: data) =
      .withData (String.ofList (lower scheme))
        (UriParts.pathOf (UriParts.cutAuthority data).2) := by
  obtain ⟨chars, isHost, _⟩ := Scheme.hasNoSlashes_spelling noSlashes
  have given : scheme ≠ [] := Authority.isName_ne_nil isHost
  have whole : trim (scheme ++ ':' :: data) = scheme ++ ':' :: data := by
    apply trim_eq_self
    · exact head?_append_of_forall given (fun c member => (isSchemeChar_clear (chars c member)).1) _
    · intro c last
      rw [List.getLast?_append_of_ne_nil _ (by simp), List.getLast?_cons_of_ne_nil notEmpty] at last
      exact unspaced c last
  have notBare : bareScheme? known (scheme ++ ':' :: data) = none :=
    bareScheme?_of_colon named (fun c member => Scheme.isSchemeChar_ne_colon (chars c member))
      notEmpty notMarks
  rw [ofText_of_parts authority? whole (by simp) not_null_of_colon notBare, UriParts.ofText_scheme,
    UriParts.ofText_path, UriParts.cutScheme_written given chars noPort, if_pos noSlashes,
    UriParts.pathAfter_data noSlashes]

/-- Digits behind a scheme without slashes make it a host. -/
theorem ofText_data_digits (named : known.Named)
    (noSlashes : Scheme.hasNoSlashes (String.ofList (lower scheme)) = true)
    (port : isDigits data = true) :
    ofText known Authority.ofUri? (scheme ++ ':' :: data) =
      .located none ⟨lower scheme, some data⟩ [] [] := by
  obtain ⟨chars, isHost, notHttp⟩ := Scheme.hasNoSlashes_spelling noSlashes
  have clear : ∀ c ∈ scheme, c ≠ ':' := fun c member =>
    Scheme.isSchemeChar_ne_colon (chars c member)
  have isPort : ∀ digits ∈ some data, isDigits digits = true := by
    rintro _ ⟨⟩
    exact port
  have notBare : bareScheme? known (scheme ++ ':' :: data) = none := by
    apply bareScheme?_of_colon named clear
    · rintro rfl
      cases port
    · rintro rfl
      exact absurd port (by decide)
  have notBefore : UriParts.isSchemeBefore scheme data = false := by
    rw [UriParts.isSchemeBefore, decide_eq_false notHttp, port]
    simp
  have noScheme : (UriParts.ofText (scheme ++ ':' :: data)).scheme = "" := by
    rw [UriParts.ofText_scheme, UriParts.cutScheme_colon clear, if_neg (by simp [notBefore])]
  have whole : scheme ++ (Authority.portEnding (some data) ++ []) = scheme ++ ':' :: data := by
    rw [List.append_nil, Authority.portEnding]
  have empty : UriParts.pathAfter "http" [] = [] ∧ UriParts.queryOf [] = [] := by decide
  have noRest : ∀ c ∈ ([] : List Char).head?, UriParts.endsAuthority c = true := by
    intro c first
    cases first
  have located := ofText_of_host_port isHost isPort noRest (whole.symm ▸ not_null_of_colon)
    (whole.symm ▸ notBare) (whole.symm ▸ noScheme ▸ rfl)
  rwa [whole, List.rdropWhile_nil, empty.1, empty.2] at located

end Reference

namespace UriParser

variable {p : UriParser} {scheme data : List Char}

theorem host_of_readLocated? {given : Option String} {a : Authority} {path query : List Char}
    {l : Location} (found : p.readLocated? given a path query = some l) :
    l.host = String.ofList a.host := by
  obtain ⟨port, decoded, _, _, rfl⟩ := readLocated?_cases found
  rfl

theorem read_data (named : p.schemePorts.Named)
    (noSlashes : Scheme.hasNoSlashes (String.ofList (lower scheme)) = true) (notEmpty : data ≠ [])
    (notMarks : data ≠ ['/', '/']) (unspaced : ∀ c ∈ data.getLast?, isBlank c = false)
    (noPort : isDigits data = false) :
    p.read (scheme ++ ':' :: data) =
      .regular { Location.ofScheme (String.ofList (lower scheme)) with
        host := String.ofList (UriParts.pathOf (UriParts.cutAuthority data).2) } := by
  rw [read, Reference.ofText_data named _ noSlashes notEmpty notMarks unspaced noPort]

theorem host_of_read_digits (named : p.schemePorts.Named)
    (noSlashes : Scheme.hasNoSlashes (String.ofList (lower scheme)) = true)
    (port : isDigits data = true) {l : Location}
    (found : p.read (scheme ++ ':' :: data) = .regular l) :
    l.host = String.ofList (lower scheme) := by
  rw [read, Reference.ofText_data_digits named noSlashes port] at found
  dsimp only at found
  split at found
  · rename_i location located
    cases found
    exact host_of_readLocated? located
  · cases found

/-- Data are kept as they are exactly if no cut finds anything in them. -/
theorem parse_data_verbatim_iff (named : p.schemePorts.Named) {scheme data : String}
    (noSlashes : Scheme.hasNoSlashes scheme.toLower = true) (notEmpty : data ≠ "")
    (notMarks : data ≠ "//") (unspaced : ∀ c ∈ data.toList.getLast?, isBlank c = false) :
    p.parse (scheme ++ ":" ++ data) =
        .regular { Location.ofScheme scheme.toLower with host := data } ↔
      UriParts.Uncut data.toList := by
  have whole : (scheme ++ ":" ++ data).toList = scheme.toList ++ ':' :: data.toList := by simp
  rw [← ofList_lower] at noSlashes ⊢
  rw [parse, whole]
  cases port : isDigits data.toList with
  | true =>
      constructor
      · -- The scheme would be read as the host, and no such scheme is written in digits.
        intro found
        have host : data = String.ofList (lower scheme.toList) :=
          host_of_read_digits named noSlashes port found
        rw [host, Scheme.not_isDigits noSlashes] at port
        cases port
      · intro uncut
        exact absurd (port.symm.trans uncut.noPort) (by decide)
  | false =>
      have given : data.toList ≠ [] := fun empty => notEmpty (String.toList_eq_nil_iff.mp empty)
      have notSlashes : data.toList ≠ ['/', '/'] := fun same =>
        notMarks (String.toList_inj.mp same)
      have kept : String.ofList (UriParts.pathOf (UriParts.cutAuthority data.toList).2) = data ↔
          UriParts.pathOf (UriParts.cutAuthority data.toList).2 = data.toList := by
        rw [← String.toList_inj, String.toList_ofList]
      rw [read_data named noSlashes given notSlashes unspaced port]
      simp only [Uri.regular.injEq, Location.mk.injEq, true_and, and_true, kept,
        UriParts.pathOf_cutAuthority_eq_self_iff]
      constructor
      · rintro ⟨noAuthority, noMark⟩
        exact ⟨port, noAuthority, noMark⟩
      · intro uncut
        exact ⟨uncut.noAuthority, uncut.noMark⟩

/-- Neither the other marks of a URI nor single slashes in data are cut. -/
theorem parse_data_verbatim_image :
    let data := "image/png;base64,A+/:@9%41="
    UriParts.Uncut data.toList ∧
      UriParser.standard.parse ("Data" ++ ":" ++ data) =
        .regular { Location.ofScheme "data" with host := data } := by
  intro data
  have uncut : UriParts.Uncut data.toList := ⟨by decide, by decide, by simp [data]⟩
  have lowered : "Data".toLower = "data" := by decide +kernel
  have unspaced : ∀ c ∈ "image/png;base64,A+/:@9%41=".toList.getLast?, isBlank c = false := by
    rintro _ ⟨⟩
    rfl
  have kept : UriParser.standard.parse ("Data" ++ ":" ++ data) =
      .regular { Location.ofScheme "Data".toLower with host := data } :=
    (parse_data_verbatim_iff SchemePorts.standard_named (by decide +kernel) (by decide) (by decide)
      unspaced).mpr uncut
  rw [lowered] at kept
  exact ⟨uncut, kept⟩

/-- The query of a page is cut off where the page is the data. -/
theorem parse_data_cuts_query :
    let data := "http://a/?q"
    data ≠ "" ∧ data ≠ "//" ∧ trim data.toList = data.toList ∧
      Scheme.hasNoSlashes "view-source".toLower = true ∧
      UriParser.standard.parse ("view-source" ++ ":" ++ data) ≠
        .regular { Location.ofScheme "view-source".toLower with host := data } := by
  decide +kernel

end UriParser

end ContentPolicy
