import Mathlib.Algebra.Order.Monoid.Unbundled.WithTop
import ContentPolicy.Proofs.Source.Written

/-!
Reading the written form of a source. A pattern that was read before comes back as it was, unless
its text means something else: a bare host that is also a known scheme or the word for no URI, a
host and port that look like a scheme with its data, and data that does not start with a slash.
-/

namespace ContentPolicy

open Text

theorem UriPattern.make_of_lowered {scheme host : String} (loweredScheme : scheme.toLower = scheme)
    (lowered : lower host.toList = host.toList) (port : Option PortPattern) (path : String) :
    make scheme host port path = ⟨scheme, host, port, path⟩ := by
  have loweredHost : host.toLower = host := by
    rw [← String.toList_inj, toList_toLower, lowered]
  rw [make, loweredScheme, loweredHost]

namespace SourceParser

theorem not_spells_quoted {cs : List Char} (unquoted : ∀ c ∈ cs.head?, c ≠ '\'') {name : String}
    (quoted : name.toList.head? = some '\'') : spells cs name = false := by
  rw [spells, sameIgnoringCase, beq_eq_false_iff_ne]
  intro same
  have first := congrArg List.head? same
  cases whole : name.toList with
  | nil => simp [whole] at quoted
  | cons d ds =>
      rw [whole] at quoted first
      cases quoted
      cases cs with
      | nil => simp [lower] at first
      | cons c cs =>
          have image : c.toLower = '\'' := Option.some.inj first
          exact unquoted c rfl ((toLower_eq_iff (.inl (by decide))).mp image)

theorem keyword?_none {cs : List Char} (unquoted : ∀ c ∈ cs.head?, c ≠ '\'')
    (notStar : cs ≠ ['*']) : keyword? cs = none := by
  have evaluation : spells cs "'unsafe-eval'" = false := not_spells_quoted unquoted rfl
  have inline : spells cs "'unsafe-inline'" = false := not_spells_quoted unquoted rfl
  have self : spells cs "'self'" = false := not_spells_quoted unquoted rfl
  simp [keyword?, evaluation, inline, self, notStar]

theorem ne_star_of_mem (mark : Char) {cs : List Char} (member : mark ∈ cs) (other : mark ≠ '*') :
    cs ≠ ['*'] := by
  rintro rfl
  exact other (List.mem_singleton.mp member)

def ofReference (p : SourceParser) : Reference → Source
  | .empty | .invalid => .invalid
  | .schemeOnly scheme => .uri (.ofScheme scheme)
  | .withData scheme data =>
      if p.knownSchemes.contains scheme then .uri (.make scheme (String.ofList data) none "")
      else .invalid
  | .located scheme authority path _ =>
      match p.readLocated? scheme authority path with
      | some pattern => .uri pattern
      | none => .invalid

theorem read_of_trimmed (p : SourceParser) {cs : List Char} (trimmed : trim cs = cs)
    (unquoted : ∀ c ∈ cs.head?, c ≠ '\'') (notStar : cs ≠ ['*']) :
    p.read cs = p.ofReference (Reference.ofText p.knownSchemes Authority.ofSource? cs) := by
  rw [read, trimmed, keyword?_none unquoted notStar]
  rfl

theorem read_of_trim (p : SourceParser) {text cs : List Char} (cut : trim text = cs)
    (trimmed : trim cs = cs) : p.read text = p.read cs := by
  simp only [read, Reference.ofText, cut, trimmed]

theorem ofReference_located {known : SchemePorts} {scheme : Option String} {p : UriPattern}
    (given : scheme = none ∧ p.scheme = "" ∨
      scheme = some p.scheme ∧ known.contains p.scheme = true)
    (loweredScheme : p.scheme.toLower = p.scheme) (lowered : lower p.host.toList = p.host.toList)
    (isHost : Authority.isHostPattern p.host.toList = true) (name : String) :
    (SourceParser.mk known).ofReference
      (Reference.refer Authority.ofSource? scheme
        ⟨name, p.host.toList ++ UriPattern.renderPort p.port, Percent.encodePath p.path.toList,
          []⟩) =
      .uri p := by
  have made : UriPattern.make p.scheme p.host p.port p.path = p :=
    UriPattern.make_of_lowered loweredScheme lowered p.port p.path
  rw [Reference.refer, Authority.ofSource?_written isHost]
  rcases given with ⟨rfl, empty⟩ | ⟨rfl, isKnown⟩
  · rw [empty] at made
    simp only [ofReference, readLocated?_none, lowered, readPort?_render, Percent.decode_encodePath,
      Option.bind_some, String.ofList_toList, made]
  · simp only [ofReference, readLocated?_some, isKnown, if_true, lowered, readPort?_render,
      Percent.decode_encodePath, Option.bind_some, String.ofList_toList, made]

end SourceParser

namespace UriPattern

/-- Whether the written form of a pattern that was read means the pattern again. -/
def isUnambiguous (known : SchemePorts) (p : UriPattern) : Bool :=
  if p.isSchemeOnly then true
  else if p.scheme ≠ "" then !Scheme.hasNoSlashes p.scheme || p.host.toList.head? = some '/'
  else
    match p.port with
    | none => p.path ≠ "" || (p.host ≠ "null" && !known.contains p.host)
    | some port => !Scheme.hasNoSlashes p.host || (port ≠ .any && p.path = "")

end UriPattern

namespace SourceParser

open UriPattern

theorem read_scheme_marks {known : SchemePorts} (named : known.Named) {name : String}
    (isKnown : known.contains name = true) {slashes : List Char}
    (marks : slashes = [] ∨ slashes = ['/', '/']) :
    (SourceParser.mk known).read (name.toList ++ ':' :: slashes) = .uri ⟨name, "", none, ""⟩ := by
  have isName := named name isKnown
  have token := scheme_isToken isName fun mark inside =>
    (Reference.isToken_marks marks).2 mark (List.mem_cons_of_mem ':' inside)
  have notStar : name.toList ++ ':' :: slashes ≠ ['*'] :=
    ne_star_of_mem ':' (by simp) (by decide)
  rw [read_of_trimmed _ token.1.trim_eq token.2 notStar,
    Reference.ofText_scheme named _ isKnown marks, ofReference, ofScheme_eq isName]

theorem read_scheme {known : SchemePorts} (named : known.Named) {name : String}
    (isKnown : known.contains name = true) :
    (SourceParser.mk known).read (render ⟨name, "", none, ""⟩) = .uri ⟨name, "", none, ""⟩ := by
  rw [render_of_scheme (ne_empty_of_known named isKnown)]
  exact read_scheme_marks named isKnown (.inl rfl)

theorem trim_data {scheme : String} (isName : Scheme.isName scheme = true) (data : List Char) :
    trim (scheme.toList ++ ':' :: '/' :: '/' :: data) =
      scheme.toList ++ ':' :: '/' :: '/' :: data.rdropWhile isBlank := by
  have marks : IsToken [':', '/', '/'] := by decide
  have front : ∀ c ∈ scheme.toList ++ [':', '/', '/'], isBlank c = false := by
    intro c member
    rcases List.mem_append.mp member with inside | mark
    · exact (isSchemeChar_clear (Scheme.isName_chars isName c inside).1).1
    · exact (marks.2 c mark).1
  have whole : trim ((scheme.toList ++ [':', '/', '/']) ++ data) =
      (scheme.toList ++ [':', '/', '/']) ++ data.rdropWhile isBlank :=
    trim_append_of_visible (by simp) front
  rw [List.append_assoc, List.append_assoc] at whole
  exact whole

theorem read_data_text {known : SchemePorts} (named : known.Named) {scheme : String}
    {data : List Char} (isKnown : known.contains scheme = true)
    (noSlashes : Scheme.hasNoSlashes scheme = true) (lowered : lower data = data)
    (clear : ∀ c ∈ data, c ≠ '?' ∧ c ≠ '#') (last : ∀ c ∈ data.getLast?, isBlank c = false) :
    (SourceParser.mk known).read (scheme.toList ++ ':' :: '/' :: '/' :: data) =
      .uri ⟨scheme, String.ofList (fromOn (fun c => decide (c = '/')) data), none, ""⟩ := by
  by_cases noData : data = []
  · subst noData
    exact read_scheme_marks named isKnown (.inr rfl)
  have isName := named scheme isKnown
  have chars := Scheme.isName_chars isName
  have trimmed := trim_data isName data
  rw [rdropWhile_of_last last] at trimmed
  have notStar : scheme.toList ++ ':' :: '/' :: '/' :: data ≠ ['*'] :=
    ne_star_of_mem ':' (by simp) (by decide)
  have notBare : Reference.bareScheme? known (scheme.toList ++ ':' :: '/' :: '/' :: data) = none :=
    Reference.bareScheme?_of_colon named
      (fun c member => Scheme.isSchemeChar_ne_colon (chars c member).1) (by simp) (by simpa)
  have cut : UriParts.cutScheme (scheme.toList ++ ':' :: '/' :: '/' :: data) =
      (scheme, '/' :: '/' :: data) := by
    rw [UriParts.cutScheme_written (Scheme.isName_ne_empty isName)
      (fun c member => (chars c member).1) rfl, Scheme.isName_lower isName, String.ofList_toList]
  have path : (UriParts.ofText (scheme.toList ++ ':' :: '/' :: '/' :: data)).path =
      fromOn (fun c => decide (c = '/')) data := by
    rw [UriParts.ofText_path, cut, UriParts.pathAfter_data noSlashes]
    -- Up to their first slash the data are now an authority, which is dropped.
    have authority : (UriParts.cutAuthority ('/' :: '/' :: data)).2 =
        fromOn UriParts.endsAuthority data := rfl
    rw [authority, fromOn_endsAuthority clear]
    exact UriParts.pathOf_clear fun c member => clear c (mem_fromOn member)
  have given : (UriParts.ofText (scheme.toList ++ ':' :: '/' :: '/' :: data)).scheme = scheme := by
    rw [UriParts.ofText_scheme, cut]
  rw [read_of_trimmed _ trimmed (head?_scheme isName _) notStar,
    Reference.ofText_of_parts _ trimmed (by simp) Reference.not_null_of_colon notBare,
    given, path, if_pos noSlashes, ofReference, if_pos isKnown, UriPattern.make,
    Scheme.isName_toLower isName]
  congr 2
  rw [← String.toList_inj, toList_toLower, String.toList_ofList]
  exact (lower_eq_self_iff _).mpr fun c member =>
    (lower_eq_self_iff _).mp lowered c (mem_fromOn member)

/-- Of the data of a pattern, what is left after reading its written form starts at the first slash
and ends before the blanks at the end. -/
theorem read_data {known : SchemePorts} (named : known.Named) {scheme data : String}
    (isKnown : known.contains scheme = true) (noSlashes : Scheme.hasNoSlashes scheme = true)
    (notEmpty : data ≠ "") (lowered : lower data.toList = data.toList)
    (clear : ∀ c ∈ data.toList, c ≠ '?' ∧ c ≠ '#') :
    (SourceParser.mk known).read (render ⟨scheme, data, none, ""⟩) =
      .uri ⟨scheme, String.ofList
        (fromOn (fun c => decide (c = '/')) (data.toList.rdropWhile isBlank)), none, ""⟩ := by
  have isName := named scheme isKnown
  have written : render ⟨scheme, data, none, ""⟩ =
      scheme.toList ++ ':' :: '/' :: '/' :: data.toList := by
    rw [render_of_host notEmpty, renderScheme_eq (ne_empty_of_known named isKnown)]
    simp [renderPort, Percent.encodePath]
  have kept : ∀ c ∈ data.toList.rdropWhile isBlank, c ∈ data.toList :=
    fun c member => (List.rdropWhile_prefix isBlank _).subset member
  have last : ∀ c ∈ (data.toList.rdropWhile isBlank).getLast?, isBlank c = false := by
    intro c ending
    obtain ⟨rest, rfl⟩ := List.mem_getLast?_eq_getLast ending
    exact Bool.eq_false_iff.mpr (List.rdropWhile_last_not isBlank data.toList rest)
  rw [written, read_of_trim _ (trim_data isName data.toList) ?_]
  · refine read_data_text named isKnown noSlashes ?_ (fun c member => clear c (kept c member)) last
    exact (lower_eq_self_iff _).mpr fun c member =>
      (lower_eq_self_iff _).mp lowered c (kept c member)
  · rw [trim_data isName, List.rdropWhile_idempotent]

theorem read_located {known : SchemePorts} (named : known.Named) {p : UriPattern}
    (isKnown : known.contains p.scheme = true) (slashes : Scheme.hasNoSlashes p.scheme = false)
    (isHost : Authority.isHostPattern p.host.toList = true)
    (lowered : lower p.host.toList = p.host.toList)
    (rooted : ∀ c ∈ p.path.toList.head?, c = '/') :
    (SourceParser.mk known).read p.render = .uri p := by
  have isName := named p.scheme isKnown
  have whole := render_isToken named (.located (.inr ⟨isKnown, slashes⟩) isHost lowered rooted :
    Readable known ⟨p.scheme, p.host, p.port, p.path⟩) (hostIsToken_of_isHost isHost)
  rw [render_of_host (ne_empty_of_isHost isHost),
    renderScheme_eq (ne_empty_of_known named isKnown)] at whole ⊢
  have notStar : p.scheme.toList ++ ':' :: '/' :: '/' ::
      ((p.host.toList ++ renderPort p.port) ++ Percent.encodePath p.path.toList) ≠ ['*'] :=
    ne_star_of_mem ':' (by simp) (by decide)
  have notEmpty : p.host.toList ++ renderPort p.port ≠ [] := by
    simp [Authority.isHostPattern_ne_nil isHost]
  rw [read_of_trimmed _ whole.1.trim_eq whole.2 notStar,
    Reference.ofText_of_scheme named _ isName slashes notEmpty
      (fun c member => (mem_authority isHost member).2.2)
      (Percent.encodePath_rooted rooted) (fun c member => ?_) whole.1.trim_eq]
  · exact ofReference_located (.inr ⟨rfl, isKnown⟩) (Scheme.isName_toLower isName) lowered isHost _
  · have clear := Percent.encodePath_clear member
    exact ⟨clear.2.1, clear.2.2.2⟩

theorem read_any (known : SchemePorts) :
    (SourceParser.mk known).read ['*'] = .uri UriPattern.any := by
  have found : keyword? (trim ['*']) = some Source.any := rfl
  rw [read, found]
  rfl

variable {known : SchemePorts} {host path : String}

theorem read_of_host_text (known : SchemePorts) (port : Option PortPattern)
    (isHost : Authority.isHostPattern host.toList = true)
    (lowered : lower host.toList = host.toList)
    (rooted : ∀ c ∈ path.toList.head?, c = '/')
    (notStar : (host.toList ++ renderPort port) ++ Percent.encodePath path.toList ≠ ['*'])
    (notNull : spells ((host.toList ++ renderPort port) ++ Percent.encodePath path.toList) "null" =
      false)
    (notBare : Reference.bareScheme? known
      ((host.toList ++ renderPort port) ++ Percent.encodePath path.toList) = none)
    (slashes : Scheme.hasNoSlashes (UriParts.ofText
      ((host.toList ++ renderPort port) ++ Percent.encodePath path.toList)).scheme = false)
    (noAuthority : (UriParts.ofText
      ((host.toList ++ renderPort port) ++ Percent.encodePath path.toList)).authority = []) :
    (SourceParser.mk known).read
        ((host.toList ++ renderPort port) ++ Percent.encodePath path.toList) =
      .uri ⟨"", host, port, path⟩ := by
  have token := located_isToken isHost port path.toList
  have notEmpty : host.toList ++ renderPort port ≠ [] := by
    simp [Authority.isHostPattern_ne_nil isHost]
  have ends : ∀ c ∈ (Percent.encodePath path.toList).head?, UriParts.endsAuthority c = true :=
    fun c first => Percent.encodePath_rooted rooted c first ▸ rfl
  have clear : ∀ c ∈ Percent.encodePath path.toList, c ≠ ';' ∧ c ≠ '?' ∧ c ≠ '#' := by
    intro c member
    have clear := Percent.encodePath_clear member
    exact ⟨clear.2.1, clear.2.2.2⟩
  obtain ⟨keptPath, keptQuery⟩ := UriParts.pathAfter_clear clear "http"
  rw [read_of_trimmed _ token.1.trim_eq token.2 notStar,
    Reference.ofText_of_host _ notEmpty (fun c member => (mem_authority isHost member).2.2) ends
      token.1.trim_eq notNull notBare slashes noAuthority, keptPath, keptQuery]
  exact ofReference_located (p := ⟨"", host, port, path⟩) (.inl ⟨rfl, rfl⟩) toLower_empty lowered
    isHost _

theorem render_lone_host (isHost : Authority.isHostPattern host.toList = true) :
    render ⟨"", host, none, ""⟩ = host.toList := by
  rw [render_of_host (p := ⟨"", host, none, ""⟩) (ne_empty_of_isHost isHost)]
  simp [renderScheme, renderPort, Percent.encodePath]

theorem bareScheme?_host_iff (named : known.Named)
    (isHost : Authority.isHostPattern host.toList = true) (lowered : lower host.toList = host.toList)
    {name : String} :
    Reference.bareScheme? known host.toList = some name ↔
      known.contains name = true ∧ host = name := by
  rw [Reference.bareScheme?_of_no_colon named (host_no_colon isHost), lowered, String.toList_inj]

theorem spells_null (lowered : lower host.toList = host.toList) :
    spells host.toList "null" = decide (host = "null") := by
  have word : lower "null".toList = "null".toList := by decide
  rw [spells, sameIgnoringCase, lowered, word, Bool.eq_iff_iff, beq_iff_eq, decide_eq_true_eq,
    String.toList_inj]

/-- A host that stands alone is the star, the word for no URI, a known scheme, or a host. -/
theorem read_lone_host (named : known.Named) (isHost : Authority.isHostPattern host.toList = true)
    (lowered : lower host.toList = host.toList) :
    (SourceParser.mk known).read (render ⟨"", host, none, ""⟩) =
      if host = "null" then .invalid
      else if known.contains host then .uri ⟨host, "", none, ""⟩
      else .uri ⟨"", host, none, ""⟩ := by
  have text : (host.toList ++ renderPort none) ++ Percent.encodePath "".toList = host.toList := by
    simp [renderPort, Percent.encodePath]
  have token := located_isToken isHost none "".toList
  have spelled := spells_null lowered
  rw [text] at token
  rw [render_lone_host isHost]
  by_cases star : host = "*"
  -- Keywords come first, and the star is one.
  · subst star
    have unknown : known.contains "*" = false :=
      named.unknown_of_mem '*' (by simp) (by decide)
    rw [unknown, if_neg (by decide), if_neg Bool.false_ne_true, ← any_eq]
    exact read_any known
  · have notStar : host.toList ≠ ['*'] := fun same => star (String.toList_inj.mp same)
    have refers := read_of_trimmed (SourceParser.mk known) token.1.trim_eq token.2 notStar
    by_cases null : host = "null"
    · rw [if_pos null, refers, Reference.ofText_null _ token.1 (by simpa [spelled] using null)]
      rfl
    · have notNull : spells host.toList "null" = false := by simpa [spelled] using null
      rw [if_neg null]
      by_cases isKnown : known.contains host = true
      · have bare := (bareScheme?_host_iff named isHost lowered).mpr ⟨isKnown, rfl⟩
        rw [if_pos isKnown, refers, Reference.ofText_of_bare _ token.1 notNull bare, ofReference,
          ofScheme_eq (named host isKnown)]
      · have notBare : Reference.bareScheme? known host.toList = none := by
          rw [Option.eq_none_iff_forall_ne_some]
          rintro name found
          obtain ⟨named, rfl⟩ := (bareScheme?_host_iff named isHost lowered).mp found
          exact isKnown named
        obtain ⟨noScheme, noAuthority⟩ := parts_of_host isHost "".toList
        have noPath : host.toList ++ Percent.encodePath "".toList = host.toList := by
          simp [Percent.encodePath]
        rw [noPath] at noScheme noAuthority
        have unrooted : ∀ c ∈ "".toList.head?, c = '/' := by
          intro c absent
          cases absent
        have whole := read_of_host_text known none isHost lowered unrooted
        rw [text] at whole
        rw [if_neg isKnown]
        exact whole notStar notNull notBare (by rw [noScheme]; rfl) noAuthority

theorem read_host_path (named : known.Named) (isHost : Authority.isHostPattern host.toList = true)
    (lowered : lower host.toList = host.toList) (rooted : ∀ c ∈ path.toList.head?, c = '/')
    (notEmpty : path ≠ "") :
    (SourceParser.mk known).read (render ⟨"", host, none, path⟩) = .uri ⟨"", host, none, path⟩ := by
  have written : render ⟨"", host, none, path⟩ =
      (host.toList ++ renderPort none) ++ Percent.encodePath path.toList :=
    render_of_host (p := ⟨"", host, none, path⟩) (ne_empty_of_isHost isHost)
  obtain ⟨rest, slash⟩ : ∃ rest, path.toList = '/' :: rest := by
    cases whole : path.toList with
    | nil => exact absurd (String.toList_eq_nil_iff.mp whole) notEmpty
    | cons c rest => exact ⟨rest, congrArg (· :: rest) (rooted c (by rw [whole]; rfl))⟩
  have text : (host.toList ++ renderPort none) ++ Percent.encodePath path.toList =
      host.toList ++ '/' :: Percent.encodePath rest := by
    rw [slash, Percent.encodePath_slash]
    simp [renderPort]
  obtain ⟨noScheme, noAuthority⟩ := parts_of_host isHost path.toList
  rw [slash, Percent.encodePath_slash] at noScheme noAuthority
  have whole := read_of_host_text known none isHost lowered rooted
  rw [written]
  rw [text] at whole ⊢
  have notStar : host.toList ++ '/' :: Percent.encodePath rest ≠ ['*'] :=
    ne_star_of_mem '/' (by simp) (by decide)
  have notBare : Reference.bareScheme? known (host.toList ++ '/' :: Percent.encodePath rest) =
      none := by
    rw [Option.eq_none_iff_forall_ne_some]
    intro name found
    have clear := host_path_no_colon isHost ('/' :: rest)
    rw [Percent.encodePath_slash] at clear
    obtain ⟨isKnown, same⟩ := (Reference.bareScheme?_of_no_colon named clear).mp found
    have member : '/' ∈ name.toList := by
      rw [← same]
      exact List.mem_map.mpr ⟨'/', by simp, rfl⟩
    exact Bool.false_ne_true ((named.unknown_of_mem '/' member (by decide)).symm.trans isKnown)
  exact whole notStar Reference.not_null_of_slash notBare (by rw [noScheme]; rfl) noAuthority

/-- A host with a port is read as it was written, unless the host is taken for a scheme and the rest
for its data. -/
theorem read_host_port (named : known.Named) (isHost : Authority.isHostPattern host.toList = true)
    (lowered : lower host.toList = host.toList) (rooted : ∀ c ∈ path.toList.head?, c = '/')
    (port : PortPattern) :
    (SourceParser.mk known).read (render ⟨"", host, some port, path⟩) =
      if Scheme.hasNoSlashes host && !(port ≠ .any && path = "") then
        (SourceParser.mk known).ofReference
          (.withData host (port.render ++ Percent.encodePath path.toList))
      else .uri ⟨"", host, some port, path⟩ := by
  have written : render ⟨"", host, some port, path⟩ =
      (host.toList ++ renderPort (some port)) ++ Percent.encodePath path.toList :=
    render_of_host (p := ⟨"", host, some port, path⟩) (ne_empty_of_isHost isHost)
  have text := host_port_append host.toList (Percent.encodePath path.toList) port
  have token := located_isToken isHost (some port) path.toList
  have notStar : host.toList ++ ':' :: (port.render ++ Percent.encodePath path.toList) ≠ ['*'] :=
    ne_star_of_mem ':' (by simp) (by decide)
  have notBare : Reference.bareScheme? known
      (host.toList ++ ':' :: (port.render ++ Percent.encodePath path.toList)) = none := by
    refine Reference.bareScheme?_of_colon named (host_no_colon isHost)
      (by simp [port.render_ne_nil]) fun same => ?_
    exact head?_port port (Percent.encodePath path.toList) '/' (by rw [same]; rfl) rfl
  have slashes := hasNoSlashes_port port isHost lowered rooted
  rw [written]
  cases shadowed : Scheme.hasNoSlashes host && !(port ≠ .any && path = "") with
  | false =>
      have whole := read_of_host_text known (some port) isHost lowered rooted
      rw [shadowed] at slashes
      rw [text] at whole ⊢
      exact whole notStar Reference.not_null_of_colon notBare slashes
        (authority_of_port isHost port _)
  -- The host has the name of a scheme, and more than a port follows it.
  | true =>
      rw [shadowed] at slashes
      rw [text] at token ⊢
      rw [read_of_trimmed _ token.1.trim_eq token.2 notStar,
        Reference.ofText_of_parts _ token.1.trim_eq token.1.1 Reference.not_null_of_colon notBare,
        if_pos slashes, if_pos rfl]
      obtain ⟨scheme, data⟩ := data_of_port isHost lowered slashes
      rw [scheme, data]

theorem read_host_of_unambiguous (named : known.Named) {port : Option PortPattern}
    (isHost : Authority.isHostPattern host.toList = true)
    (lowered : lower host.toList = host.toList) (rooted : ∀ c ∈ path.toList.head?, c = '/')
    (unambiguous : isUnambiguous known ⟨"", host, port, path⟩ = true) :
    (SourceParser.mk known).read (render ⟨"", host, port, path⟩) = .uri ⟨"", host, port, path⟩ := by
  cases port with
  | none =>
      by_cases noPath : path = ""
      · subst noPath
        have holds : host ≠ "null" ∧ known.contains host = false := by
          simpa [isUnambiguous, isSchemeOnly] using unambiguous
        rw [read_lone_host named isHost lowered, if_neg holds.1, holds.2, if_neg Bool.false_ne_true]
      · exact read_host_path named isHost lowered rooted noPath
  | some port =>
      have holds : (Scheme.hasNoSlashes host && !(port ≠ .any && path = "")) = false := by
        have clear : (!Scheme.hasNoSlashes host || (port ≠ .any && path = "")) = true := unambiguous
        rw [← Bool.not_not (Scheme.hasNoSlashes host && _), Bool.not_and, Bool.not_not, clear]
        rfl
      rw [read_host_port named isHost lowered rooted port, holds, if_neg Bool.false_ne_true]

end SourceParser

def UriPattern.weight (p : UriPattern) : WithTop ℕ :=
  if p.scheme = "" then ⊤ else p.host.toList.length

namespace SourceParser

open UriPattern

theorem weight_of_scheme {p : UriPattern} (hasScheme : p.scheme ≠ "") :
    p.weight = p.host.toList.length := if_neg hasScheme

theorem weight_lt_of_no_scheme {p q : UriPattern} (noScheme : p.scheme = "")
    (hasScheme : q.scheme ≠ "") :
    q.weight < p.weight := by
  rw [weight_of_scheme hasScheme, weight, if_pos noScheme]
  exact WithTop.coe_lt_top _

/-- An unambiguous pattern comes back from its written form. -/
theorem read_render {known : SchemePorts} (named : known.Named) {p : UriPattern}
    (readable : p.Readable known) (token : p.HostIsToken)
    (unambiguous : p.isUnambiguous known = true) :
    (SourceParser.mk known).read p.render = .uri p := by
  cases readable with
  | scheme isKnown => exact read_scheme named isKnown
  | @data scheme data isKnown noSlashes notEmpty lowered clear =>
      have given := ne_empty_of_known named isKnown
      have slash : data.toList.head? = some '/' := by
        simpa [isUnambiguous, isSchemeOnly, notEmpty, given, noSlashes] using unambiguous
      have visible := rdropWhile_of_last fun c last => (token c (List.mem_of_mem_getLast? last)).1
      have kept : fromOn (fun c => decide (c = '/')) data.toList = data.toList := by
        cases whole : data.toList with
        | nil => rfl
        | cons c rest =>
            rw [whole] at slash
            cases slash
            rfl
      rw [read_data named isKnown noSlashes notEmpty lowered clear, visible, kept,
        String.ofList_toList]
  | @located scheme host port path isKnown isHost lowered rooted =>
      rcases isKnown with rfl | ⟨isKnown, slashes⟩
      · exact read_host_of_unambiguous named isHost lowered rooted unambiguous
      · exact read_located named isKnown slashes isHost lowered rooted

/-- An ambiguous pattern does not: its written form is no source, or one of lower weight. -/
theorem read_render_ambiguous {known : SchemePorts} (named : known.Named) {p : UriPattern}
    (readable : p.Readable known) (token : p.HostIsToken)
    (ambiguous : p.isUnambiguous known = false) :
    (SourceParser.mk known).read p.render = .invalid ∨
      ∃ q, (SourceParser.mk known).read p.render = .uri q ∧ q.weight < p.weight := by
  cases readable with
  | scheme isKnown =>
      have given := ne_empty_of_known named isKnown
      simp [isUnambiguous, isSchemeOnly, given] at ambiguous
  | @data scheme data isKnown noSlashes notEmpty lowered clear =>
      have given := ne_empty_of_known named isKnown
      have noSlash : data.toList.head? ≠ some '/' := by
        simpa [isUnambiguous, isSchemeOnly, notEmpty, given, noSlashes] using ambiguous
      have shorter : (fromOn (· = '/') data.toList).length < data.toList.length := by
        cases whole : data.toList with
        | nil => exact absurd (String.toList_eq_nil_iff.mp whole) notEmpty
        | cons c rest =>
            have first : c ≠ '/' := fun same => noSlash (by rw [whole, same]; rfl)
            have shorter :=
              (List.dropWhile_sublist (fun c => !decide (c = '/')) (l := rest)).length_le
            simpa [fromOn, first, Nat.lt_succ_iff] using shorter
      have visible := rdropWhile_of_last fun c last => (token c (List.mem_of_mem_getLast? last)).1
      refine .inr ⟨_, read_data named isKnown noSlashes notEmpty lowered clear, ?_⟩
      rw [weight_of_scheme given, weight_of_scheme given, String.toList_ofList, visible]
      exact WithTop.coe_lt_coe.mpr shorter
  | @located scheme host port path isKnown isHost lowered rooted =>
      have notEmpty := ne_empty_of_isHost isHost
      rcases isKnown with rfl | ⟨isKnown, slashes⟩
      · cases port with
        | none =>
            have holds : path = "" ∧ (host ≠ "null" → known.contains host = true) := by
              simpa [isUnambiguous, isSchemeOnly] using ambiguous
            obtain ⟨rfl, isKnown⟩ := holds
            -- What is read has a scheme, which puts its weight below that of any bare host.
            have whole := read_lone_host named isHost lowered
            by_cases null : host = "null"
            · exact .inl (whole.trans (if_pos null))
            · rw [if_neg null, if_pos (isKnown null)] at whole
              exact .inr ⟨_, whole, weight_lt_of_no_scheme rfl notEmpty⟩
        | some port =>
            have clear : (!Scheme.hasNoSlashes host || (port ≠ .any && path = "")) = false :=
              ambiguous
            rw [Bool.or_eq_false_iff, Bool.not_eq_false'] at clear
            have whole := read_host_port named isHost lowered rooted port
            rw [clear.1, clear.2, Bool.not_false, Bool.and_self, if_pos rfl, ofReference] at whole
            split at whole
            · refine .inr ⟨_, whole, weight_lt_of_no_scheme rfl fun empty => ?_⟩
              have length := congrArg (fun s : String => s.toList.length) empty
              simp [UriPattern.make, toList_toLower, length_lower, notEmpty] at length
            · exact .inl whole
      · have given := ne_empty_of_known named isKnown
        simp [isUnambiguous, isSchemeOnly, given, slashes] at ambiguous

end SourceParser

namespace Source

def isUnambiguous (known : SchemePorts) : Source → Bool
  | .uri p => p.isUnambiguous known
  | _ => true

theorem render_isToken {known : SchemePorts} (named : known.Named) {s : Source}
    (readable : s.Readable known) : IsToken s.render := by
  rcases uri_or_keyword readable.valid with ⟨p, rfl⟩ | listed
  · exact (UriPattern.render_isToken named readable.1 readable.2).1
  · have all : ∀ s ∈ keywords, IsToken s.render := by decide
    exact all s listed

end Source

namespace SourceParser

theorem read_keyword (known : SchemePorts) {s : Source} (listed : s ∈ Source.keywords) :
    (SourceParser.mk known).read s.render = s := by
  have all : ∀ s ∈ Source.keywords, keyword? (trim s.render) = some s := by decide
  rw [read, all s listed]

theorem read_render_source {known : SchemePorts} (named : known.Named) {s : Source}
    (readable : s.Readable known) (unambiguous : s.isUnambiguous known = true) :
    (SourceParser.mk known).read s.render = s := by
  rcases Source.uri_or_keyword readable.valid with ⟨p, rfl⟩ | listed
  · exact read_render named readable.1 readable.2 unambiguous
  · exact read_keyword known listed

end SourceParser

end ContentPolicy
