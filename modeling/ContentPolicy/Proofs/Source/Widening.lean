import ContentPolicy.Proofs.Sorted.Map
import ContentPolicy.Proofs.Source.Matching
import ContentPolicy.Proofs.Source.Rereading

/-!
Whether the written form of a source allows more than the source. A pattern that comes back as it
was does not, and neither does one whose written form is no source. Of the others, data that start
with a slash after an optional star lose the star at most; all else that is read as another pattern
is read as one that also allows what the pattern itself does not.
-/

namespace ContentPolicy

open Text

def Source.IsWithin (s t : Source) : Prop :=
  ∀ (resource document : Uri) (ports : SchemePorts),
    s.allows resource document ports = true → t.allows resource document ports = true

namespace Source

theorem IsWithin.refl (s : Source) : s.IsWithin s := fun _ _ _ allowed => allowed

theorem invalid_isWithin (s : Source) : Source.invalid.IsWithin s :=
  fun _ _ _ allowed => nomatch allowed

end Source

namespace UriPattern

/-- What each host that a pattern allows ends in: all of the host, except for a star in front. -/
def hostEnding : List Char → List Char
  | '*' :: ending => ending
  | host => host

/-- Whether data are one path to a reader that looks for a path behind two slashes. -/
def isPath (data : List Char) : Bool :=
  data.head? = some '/' && data.getLast?.all fun c => !isBlank c

/-- Whether the written form of a pattern that was read allows nothing but what the pattern does. -/
def staysNarrow (known : SchemePorts) (p : UriPattern) : Bool :=
  if p.isSchemeOnly then true
  else if p.scheme ≠ "" then
    !Scheme.hasNoSlashes p.scheme || isPath (hostEnding p.host.toList)
  else
    match p.port with
    | none => p.path ≠ "" || p.host = "null" || !known.contains p.host
    | some port =>
        !Scheme.hasNoSlashes p.host || (port ≠ .any && p.path = "") || !known.contains p.host

variable {p : UriPattern}

theorem suffix_of_hostAllows {host : String} (allowed : p.hostAllows host = true) :
    hostEnding p.host.toList <:+ host.toList := by
  rcases hostAllows_iff.mp allowed with empty | same | ⟨ending, star, suffix⟩
  · rw [empty]
    exact List.nil_suffix
  · rw [same]
    unfold hostEnding
    split
    · rename_i ending star
      rw [star]
      exact List.suffix_cons '*' ending
    · exact List.suffix_rfl
  · rw [star]
    exact suffix

theorem hostAllows_ending {host : String} (same : hostEnding p.host.toList = host.toList) :
    p.hostAllows host = true := by
  by_cases star : p.host.toList.head? = some '*'
  · obtain ⟨ending, star⟩ := List.head?_eq_some_iff.mp star
    rw [star] at same
    exact hostAllows_iff.mpr (.inr (.inr ⟨ending, star, same ▸ List.suffix_rfl⟩))
  · rw [hostEnding.eq_2 _ fun ending eq => star (congrArg List.head? eq)] at same
    exact hostAllows_iff.mpr (.inr (.inl (String.toList_inj.mp same)))

theorem Fits.withHost {l : Location} {document : Uri} {ports : SchemePorts}
    (fits : p.Fits l document ports) (host : String)
    (allowed : { p with host }.hostAllows l.host.toLower = true) :
    { p with host }.Fits l document ports where
  scheme := fits.scheme
  host := allowed
  port := fits.port
  path := fits.path

theorem scheme_allows {name : String} (notEmpty : name ≠ "") {l : Location}
    (same : l.scheme.toLower = name) (document : Uri) (ports : SchemePorts) :
    UriPattern.allows ⟨name, "", none, ""⟩ (.regular l) document ports = true := by
  refine allows_regular_iff.mpr (.inr (.inl ⟨?_, same.symm⟩))
  simp [isSchemeOnly, notEmpty]

/-- A star in front is gone with all else that precedes the first slash. -/
theorem fromOn_hostEnding (host : List Char) :
    fromOn (fun c => decide (c = '/')) ((hostEnding host).rdropWhile isBlank) =
      fromOn (fun c => decide (c = '/')) (host.rdropWhile isBlank) := by
  by_cases star : host.head? = some '*'
  · obtain ⟨ending, rfl⟩ := List.head?_eq_some_iff.mp star
    have visible : ∀ c ∈ ['*'].getLast?, isBlank c = false := by
      intro c last
      obtain rfl : '*' = c := Option.some.inj last
      decide
    have cut : ('*' :: ending).rdropWhile isBlank = '*' :: ending.rdropWhile isBlank :=
      rdropWhile_append_of_last visible
    rw [cut]
    rfl
  · rw [hostEnding.eq_2 host]
    rintro ending rfl
    exact star rfl

theorem isPath_iff {cs : List Char} :
    isPath cs = true ↔
      cs ≠ [] ∧ fromOn (fun c => decide (c = '/')) (cs.rdropWhile isBlank) = cs := by
  rw [isPath, Bool.and_eq_true, decide_eq_true_iff]
  constructor
  · rintro ⟨slash, visible⟩
    have last : ∀ c ∈ cs.getLast?, isBlank c = false := by
      intro c ending
      rw [Option.mem_def.mp ending] at visible
      simpa using visible
    rw [rdropWhile_of_last last]
    cases cs with
    | nil => cases slash
    | cons c rest =>
        cases slash
        exact ⟨List.cons_ne_nil _ _, rfl⟩
  · rintro ⟨notEmpty, same⟩
    -- Neither of the two cuts has taken anything away.
    have shorter := (List.dropWhile_sublist (fun c => !decide (c = '/'))
      (l := cs.rdropWhile isBlank)).length_le
    rw [fromOn] at same
    rw [same] at shorter
    have whole : cs.rdropWhile isBlank = cs :=
      (List.rdropWhile_prefix isBlank cs).eq_of_length_le shorter
    rw [whole] at same
    constructor
    · obtain ⟨c, rest, rfl⟩ := List.exists_cons_of_ne_nil notEmpty
      have first : c ∈ (fromOn (fun c => decide (c = '/')) (c :: rest)).head? := by
        rw [fromOn, same]
        rfl
      rw [of_decide_eq_true (head?_fromOn first), List.head?_cons]
    · have last := List.rdropWhile_eq_self_iff.mp whole notEmpty
      rw [List.getLast?_eq_some_getLast notEmpty]
      simpa using last

section Data

variable {scheme data data' : String}

theorem data_allows_iff (given : scheme ≠ "") (notEmpty : data ≠ "") {l : Location} {document : Uri}
    {ports : SchemePorts} :
    Source.allows (.uri ⟨scheme, data, none, ""⟩) (.regular l) document ports = true ↔
      Fits ⟨scheme, data, none, ""⟩ l document ports := by
  have notAny : UriPattern.isAny ⟨scheme, data, none, ""⟩ = false := by simp [isAny, given]
  exact allows_iff_fits notEmpty notAny

theorem scheme_not_isWithin_data (given : scheme ≠ "") (lowered : scheme.toLower = scheme)
    (notEmpty : data ≠ "") :
    ¬Source.IsWithin (.uri ⟨scheme, "", none, ""⟩) (.uri ⟨scheme, data, none, ""⟩) := by
  intro within
  let l : Location := ⟨scheme, "", some 0, "", ""⟩
  have allowed := (data_allows_iff given notEmpty).mp
    (within (.regular l) .empty (.singleton scheme none) (scheme_allows given lowered _ _))
  have port := allowed.port
  have entry : SchemePorts.entry? (.singleton scheme none) scheme = some none := by
    rw [SchemePorts.entry?, if_neg given, SortedMap.get?_singleton, if_pos rfl]
  rw [show l.scheme.toLower = scheme from lowered, entry] at port
  simp [portAllows, l] at port

theorem suffix_of_isWithin (given : scheme ≠ "") (lowered : scheme.toLower = scheme)
    (notEmpty : data ≠ "") (loweredData : data'.toLower = data')
    (within : Source.IsWithin (.uri ⟨scheme, data', none, ""⟩) (.uri ⟨scheme, data, none, ""⟩)) :
    hostEnding data.toList <:+ data'.toList := by
  let l : Location := ⟨scheme, data', none, "", ""⟩
  have made : (make l.scheme l.host (l.port.map .number) l.path).allows (.regular l) .empty ∅ =
      true := make_allows given .empty ∅
  rw [make, lowered, loweredData] at made
  have ending := suffix_of_hostAllows
    ((data_allows_iff given notEmpty).mp (within (.regular l) .empty ∅ made)).host
  rwa [loweredData] at ending

theorem path_isWithin (given : scheme ≠ "") (notEmpty : data ≠ "")
    (slash : data'.toList.head? = some '/') (same : hostEnding data.toList = data'.toList) :
    Source.IsWithin (.uri ⟨scheme, data', none, ""⟩) (.uri ⟨scheme, data, none, ""⟩) := by
  intro resource document ports allowed
  have some' : data' ≠ "" := by
    rintro rfl
    cases slash
  obtain ⟨l, rfl⟩ := regular_of_allows allowed
  have inner := (data_allows_iff given some').mp allowed
  have literal : data'.toList.head? ≠ some '*' := by
    rw [slash]
    exact fun star => nomatch star
  have lone : data' = l.host.toLower := (hostAllows_iff_of_literal some' literal).mp inner.host
  exact (data_allows_iff given notEmpty).mpr
    (inner.withHost data (hostAllows_ending (lone ▸ same)))

/-- What is read of written data is within the pattern when the data, after an optional star, are a
path: the star is lost and nothing else. -/
theorem data_isWithin_iff (given : scheme ≠ "") (lowered : scheme.toLower = scheme)
    (notEmpty : data ≠ "") (loweredData : lower data.toList = data.toList) :
    Source.IsWithin
        (.uri ⟨scheme, String.ofList
          (fromOn (fun c => decide (c = '/')) (data.toList.rdropWhile isBlank)), none, ""⟩)
        (.uri ⟨scheme, data, none, ""⟩) ↔
      isPath (hostEnding data.toList) = true := by
  rw [isPath_iff, fromOn_hostEnding]
  have start := fromOn_hostEnding data.toList
  cases read : fromOn (fun c => decide (c = '/')) (data.toList.rdropWhile isBlank) with
  | nil =>
      exact iff_of_false (scheme_not_isWithin_data given lowered notEmpty)
        (fun path => path.1 path.2.symm)
  | cons c rest =>
      constructor
      · intro within
        have loweredRest : (String.ofList (c :: rest)).toLower = String.ofList (c :: rest) := by
          rw [← String.toList_inj, toList_toLower, String.toList_ofList, ← read]
          exact (lower_eq_self_iff _).mpr fun d member =>
            (lower_eq_self_iff _).mp loweredData d
              ((List.rdropWhile_prefix isBlank _).subset (mem_fromOn member))
        have ending := suffix_of_isWithin given lowered notEmpty loweredRest within
        rw [String.toList_ofList] at ending
        -- What was read has to end in what it was cut from, so nothing was cut.
        have shorter : (c :: rest).length ≤ (hostEnding data.toList).length := by
          rw [← read, ← start]
          exact (List.dropWhile_sublist _).length_le.trans
            (List.rdropWhile_prefix isBlank _).length_le
        have same := ending.eq_of_length_le shorter
        exact ⟨by rw [same]; exact List.cons_ne_nil c rest, same.symm⟩
      · rintro ⟨_, same⟩
        have first : c ∈ (fromOn (fun c => decide (c = '/'))
            (data.toList.rdropWhile isBlank)).head? := by
          rw [read]
          rfl
        apply path_isWithin given notEmpty
        · rw [String.toList_ofList, List.head?_cons, of_decide_eq_true (head?_fromOn first)]
        · rw [String.toList_ofList, same]

end Data

/-- Whatever a source allows without a document, it is not within a pattern without a scheme. -/
theorem not_isWithin_of_no_scheme (noScheme : p.scheme = "") (notAny : p.isAny = false) {s : Source}
    {l : Location} {ports : SchemePorts} (allowed : s.allows (.regular l) .empty ports = true) :
    ¬s.IsWithin (.uri p) := by
  intro within
  have inside : p.allows (.regular l) .empty ports = true :=
    within (.regular l) .empty ports allowed
  have any := ((allows_of_no_scheme_iff noScheme (.inr rfl)).mp inside).2
  exact Bool.false_ne_true (notAny.symm.trans any)

end UriPattern

namespace SourceParser

open UriPattern

variable {known : SchemePorts} {host path : String}

theorem isWithin_lone_host_iff (named : known.Named)
    (isHost : Authority.isHostPattern host.toList = true)
    (lowered : lower host.toList = host.toList) :
    ((SourceParser.mk known).read (render ⟨"", host, none, ""⟩)).IsWithin
        (.uri ⟨"", host, none, ""⟩) ↔
      host = "null" ∨ known.contains host = false := by
  rw [read_lone_host named isHost lowered]
  by_cases null : host = "null"
  · rw [if_pos null]
    exact iff_of_true (Source.invalid_isWithin _) (.inl null)
  · rw [if_neg null]
    by_cases isKnown : known.contains host = true
    -- The scheme that is read needs no document.
    · have notEmpty := ne_empty_of_known named isKnown
      have lowered := Scheme.isName_toLower (named host isKnown)
      have notAny : UriPattern.isAny ⟨"", host, none, ""⟩ = false := by
        have unknown : known.contains "*" = false := named.unknown_of_mem '*' (by simp) (by decide)
        have notStar : host ≠ "*" := by
          rintro rfl
          exact Bool.false_ne_true (unknown.symm.trans isKnown)
        simp [isAny, notStar]
      have allowed : Source.allows (.uri ⟨host, "", none, ""⟩) (.regular (.ofScheme host)) .empty ∅ =
          true := scheme_allows notEmpty lowered .empty ∅
      rw [if_pos isKnown]
      refine iff_of_false (not_isWithin_of_no_scheme rfl notAny allowed) ?_
      rintro (isNull | unknown)
      · exact null isNull
      · exact Bool.false_ne_true (unknown.symm.trans isKnown)
    · rw [if_neg isKnown]
      exact iff_of_true (Source.IsWithin.refl _) (.inr (Bool.eq_false_iff.mpr isKnown))

theorem isWithin_host_port_iff (named : known.Named)
    (isHost : Authority.isHostPattern host.toList = true)
    (lowered : lower host.toList = host.toList) (rooted : ∀ c ∈ path.toList.head?, c = '/')
    (port : PortPattern) :
    ((SourceParser.mk known).read (render ⟨"", host, some port, path⟩)).IsWithin
        (.uri ⟨"", host, some port, path⟩) ↔
      Scheme.hasNoSlashes host = false ∨ (port ≠ .any ∧ path = "") ∨
        known.contains host = false := by
  rw [read_host_port named isHost lowered rooted]
  by_cases shadowed : (Scheme.hasNoSlashes host && !(port ≠ .any && path = "")) = true
  · rw [if_pos shadowed, ofReference]
    have noSlashes : Scheme.hasNoSlashes host = true := (Bool.and_eq_true_iff.mp shadowed).1
    have notDigits : ¬(port ≠ .any ∧ path = "") := by
      rintro ⟨number, noPath⟩
      simp [number, noPath] at shadowed
    by_cases isKnown : known.contains host = true
    -- So does the scheme whose data the port and the path are taken for.
    · rw [if_pos isKnown]
      let l : Location :=
        ⟨host, String.ofList (port.render ++ Percent.encodePath path.toList), none, "", ""⟩
      have allowed : Source.allows (.uri (make host l.host none "")) (.regular l) .empty ∅ = true :=
        make_allows (l := l) (ne_empty_of_known named isKnown) .empty ∅
      have notAny : UriPattern.isAny ⟨"", host, some port, path⟩ = false := by simp [isAny]
      refine iff_of_false (not_isWithin_of_no_scheme rfl notAny allowed) ?_
      rintro (slashes | digits | unknown)
      · exact Bool.false_ne_true (slashes.symm.trans noSlashes)
      · exact notDigits digits
      · exact Bool.false_ne_true (unknown.symm.trans isKnown)
    · rw [if_neg isKnown]
      exact iff_of_true (Source.invalid_isWithin _) (.inr (.inr (Bool.eq_false_iff.mpr isKnown)))
  · rw [if_neg shadowed]
    refine iff_of_true (Source.IsWithin.refl _) ?_
    by_cases slashes : Scheme.hasNoSlashes host = true
    · have digits : port ≠ .any ∧ path = "" := by simpa [slashes] using shadowed
      exact .inr (.inl digits)
    · exact .inl (Bool.eq_false_iff.mpr slashes)

theorem isWithin_render_iff (named : known.Named) {p : UriPattern} (readable : p.Readable known) :
    ((SourceParser.mk known).read p.render).IsWithin (.uri p) ↔ p.staysNarrow known = true := by
  cases readable with
  | scheme isKnown =>
      rw [read_scheme named isKnown]
      refine iff_of_true (Source.IsWithin.refl _) ?_
      simp [staysNarrow, isSchemeOnly, ne_empty_of_known named isKnown]
  | @data scheme data isKnown noSlashes notEmpty lowered clear =>
      have given := ne_empty_of_known named isKnown
      rw [read_data named isKnown noSlashes notEmpty lowered clear,
        data_isWithin_iff given (Scheme.isName_toLower (named scheme isKnown)) notEmpty lowered]
      simp [staysNarrow, isSchemeOnly, notEmpty, given, noSlashes]
  | @located scheme host port path isKnown isHost lowered rooted =>
      rcases isKnown with rfl | ⟨isKnown, slashes⟩
      · cases port with
        | none =>
            by_cases noPath : path = ""
            · subst noPath
              rw [isWithin_lone_host_iff named isHost lowered]
              simp [staysNarrow, isSchemeOnly]
            · rw [read_host_path named isHost lowered rooted noPath]
              refine iff_of_true (Source.IsWithin.refl _) ?_
              simp [staysNarrow, isSchemeOnly, noPath]
        | some port =>
            rw [isWithin_host_port_iff named isHost lowered rooted]
            simp [staysNarrow, isSchemeOnly, or_assoc]
      · rw [read_located (p := ⟨scheme, host, port, path⟩) named isKnown slashes isHost lowered
          rooted]
        refine iff_of_true (Source.IsWithin.refl _) ?_
        simp [staysNarrow, isSchemeOnly, ne_empty_of_known named isKnown, slashes]

end SourceParser

def Source.staysNarrow (known : SchemePorts) : Source → Bool
  | .uri p => p.staysNarrow known
  | _ => true

namespace SourceParser

/-- A source that was read from a text, printed and read again allows no resource that it did not
allow before, in these cases and no others. -/
theorem parse_text_isWithin_iff {known : SchemePorts} (named : known.Named) {text : String}
    (valid : ((SourceParser.mk known).parse text).isInvalid = false) :
    ((SourceParser.mk known).parse ((SourceParser.mk known).parse text).text).IsWithin
        ((SourceParser.mk known).parse text) ↔
      ((SourceParser.mk known).parse text).staysNarrow known = true := by
  have same : ∀ s : Source, (SourceParser.mk known).parse s.text =
      (SourceParser.mk known).read s.render := by
    intro s
    rw [parse, Source.text, String.toList_ofList]
  rw [same]
  rcases Source.uri_or_keyword valid with ⟨p, found⟩ | listed
  · rw [found]
    exact isWithin_render_iff named (readable_of_read named found)
  · rw [read_keyword known listed]
    have narrow : ∀ s ∈ Source.keywords, s.staysNarrow known = true := by
      simp [Source.keywords, Source.staysNarrow]
    exact iff_of_true (Source.IsWithin.refl _) (narrow _ listed)

/-- Data that are a path behind a star lose the star, and allow less than before. -/
theorem parse_text_isWithin_path :
    SchemePorts.standard.Named ∧ (standard.parse "data:*/x").isInvalid = false ∧
      (standard.parse (standard.parse "data:*/x").text).IsWithin (standard.parse "data:*/x") := by
  have valid : (standard.parse "data:*/x").isInvalid = false := by decide +kernel
  have narrow : (standard.parse "data:*/x").staysNarrow .standard = true := by decide +kernel
  exact ⟨SchemePorts.standard_named, valid,
    (parse_text_isWithin_iff SchemePorts.standard_named valid).mpr narrow⟩

/-- Data that are no path are lost with what stands before their first slash, and the scheme that is
left allows all data. -/
theorem parse_text_widens_data :
    ¬∀ (text : String) (resource document : Uri) (ports : SchemePorts),
      (standard.parse text).isInvalid = false →
        (standard.parse (standard.parse text).text).allows resource document ports = true →
          (standard.parse text).allows resource document ports = true := by
  intro all
  have inside := all "data:x" (.regular ⟨"data", "y", none, "", ""⟩) .empty .standard
    (by decide +kernel) (by decide +kernel)
  exact absurd inside (by decide +kernel)

end SourceParser

end ContentPolicy
