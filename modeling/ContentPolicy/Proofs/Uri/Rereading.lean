import ContentPolicy.Proofs.Percent.Segments
import ContentPolicy.Proofs.Uri.Reading

/-!
Reading the written form of a URI. What a reader fills in it fills in once: a location that it gave
has a scheme, and a port if the reader adds one, so its written form is cut into the same parts
again. Data of a scheme without slashes are left out here; they are not escaped when they are
written.
-/

namespace ContentPolicy

open Text

namespace Authority

theorem isName_clear {name : List Char} (named : isName name = true) {c : Char}
    (member : c ∈ name) :
    isBlank c = false ∧ c ≠ ':' ∧ c ≠ '@' ∧ UriParts.endsAuthority c = false := by
  rw [isName, Bool.and_eq_true] at named
  have holds := List.all_eq_true.mp named.2 c member
  have clear := isNameChar_clear (.inl holds)
  refine ⟨clear.1, clear.2.2.1, ?_, clear.2.2.2⟩
  rintro rfl
  exact absurd holds (by decide)

theorem isName_ne_nil {name : List Char} (named : isName name = true) : name ≠ [] := by
  rintro rfl
  exact Bool.false_ne_true named

theorem isName_port_clear {name ending : List Char} (named : isName name = true)
    (port : ∀ c ∈ ending, c = ':' ∨ c.isDigit = true) {c : Char} (member : c ∈ name ++ ending) :
    isBlank c = false ∧ c ≠ '@' ∧ UriParts.endsAuthority c = false := by
  rcases List.mem_append.mp member with inside | inside
  · have clear := isName_clear named inside
    exact ⟨clear.1, clear.2.2⟩
  · rcases port c inside with rfl | digit
    · decide
    · have clear := isNameChar_clear (.inl (isNameChar_of_isDigit digit))
      refine ⟨clear.1, ?_, clear.2.2.2⟩
      rintro rfl
      exact absurd digit (by decide)

end Authority

namespace Location

theorem mem_renderPort {port : Option Port} {c : Char} (member : c ∈ renderPort port) :
    c = ':' ∨ c.isDigit = true := by
  cases port with
  | none => cases member
  | some port =>
      rcases List.mem_cons.mp member with colon | digit
      · exact .inl colon
      · exact .inr (Port.isDigit_of_mem_toDigits digit)

theorem mem_renderQuery {query : String} {c : Char} (member : c ∈ renderQuery query) :
    c = '?' ∨ c ∈ query.toList := by
  rw [renderQuery] at member
  split at member
  · cases member
  · exact List.mem_cons.mp member

theorem head?_path_query {path query : String} (rooted : ∀ c ∈ path.toList.head?, c = '/') :
    ∀ c ∈ (Percent.encodePath path.toList ++ renderQuery query).head?,
      UriParts.endsAuthority c = true := by
  intro c first
  rw [List.head?_append] at first
  rcases Option.or_eq_some_iff.mp first with inPath | ⟨_, inQuery⟩
  · rw [Percent.encodePath_rooted rooted c inPath]
    decide
  · rw [renderQuery] at inQuery
    split at inQuery
    · cases inQuery
    · cases inQuery
      decide

theorem mem_authority {host : List Char} (named : Authority.isName host = true)
    {port : Option Port} {c : Char} (member : c ∈ host ++ renderPort port) :
    isBlank c = false ∧ c ≠ '@' ∧ UriParts.endsAuthority c = false :=
  Authority.isName_port_clear named (fun _ => mem_renderPort) member

end Location

theorem Authority.ofUri?_written {host : List Char} (named : isName host = true)
    (port : Option Port) :
    ofUri? (host ++ Location.renderPort port) = some ⟨host, port.map Port.toDigits⟩ := by
  have noUser : cut? (fun c => decide (c = '@')) (host ++ Location.renderPort port) = none :=
    cut?_none fun c member => decide_eq_false (Location.mem_authority named member).2.1
  have clear : ∀ c ∈ host, c ≠ ':' := fun c member => (isName_clear named member).2.1
  rw [ofUri?, noUser]
  cases port with
  | none =>
      rw [Location.renderPort, List.append_nil]
      exact hostAndPort?_host named clear
  | some port => exact hostAndPort?_port named clear port.toDigits_isDigits

namespace UriParts

theorem cutQuery_written {path : List Char} (clear : ∀ c ∈ path, c ≠ '?') (query : String) :
    cutQuery (path ++ Location.renderQuery query) = (path, query.toList) := by
  rw [Location.renderQuery]
  by_cases absent : query = ""
  · subst absent
    rw [if_pos rfl, List.append_nil]
    exact cutQuery_clear clear
  · have cut : cut? (fun c => decide (c = '?')) (path ++ '?' :: query.toList) =
        some (path, query.toList) :=
      cut?_append (fun c member => decide_eq_false (clear c member)) (by decide)
    rw [if_neg absent, cutQuery, cut]
    rfl

end UriParts

namespace UriParser

variable {p : UriParser}

/-- What a reader must be like for its answers to come back: it fills in schemes that stand before
slashes, and its table has all schemes that stand without them. -/
structure FillsScheme (p : UriParser) : Prop where
  addScheme : p.addScheme = true
  decode : p.decode = true
  named : p.schemePorts.Named
  dataKnown : ∀ scheme, Scheme.hasNoSlashes scheme = true → p.schemePorts.contains scheme = true
  inferred : ∀ port, Scheme.isName (p.inferredScheme port) = true ∧
    Scheme.hasNoSlashes (p.inferredScheme port) = false

structure Filled (p : UriParser) (l : Location) : Prop where
  isScheme : Scheme.isName l.scheme = true
  slashes : Scheme.hasNoSlashes l.scheme = false
  isHost : Authority.isName l.host.toList = true
  lowered : lower l.host.toList = l.host.toList
  port : p.fillPort (some l.scheme) l.port = l.port
  rooted : ∀ c ∈ l.path.toList.head?, c = '/'
  noFragment : ∀ c ∈ l.query.toList, c ≠ '#'

inductive Answer (p : UriParser) : Uri → Prop
  | empty : Answer p .empty
  | invalid : Answer p .invalid
  | scheme {name : String} (isKnown : p.schemePorts.contains name = true) :
      Answer p (.ofScheme name)
  | data {scheme data : String} (noSlashes : Scheme.hasNoSlashes scheme = true)
      (notEmpty : data ≠ "") : Answer p (.regular { Location.ofScheme scheme with host := data })
  | located {l : Location} (filled : p.Filled l) : Answer p (.regular l)

theorem fillPort_fillPort (scheme : Option String) (port : Option Port) :
    p.fillPort scheme (p.fillPort scheme port) = p.fillPort scheme port := by
  cases filled : p.fillPort scheme port with
  | some given => rfl
  | none =>
      cases port with
      | some given => cases filled
      | none => exact filled

theorem readLocated?_filled (fills : p.FillsScheme) {scheme : Option String} {a : Authority}
    {path query : List Char} {l : Location}
    (names : ∀ name ∈ scheme, Scheme.isName name = true ∧ Scheme.hasNoSlashes name = false)
    (isHost : Authority.isName a.host = true) (lowered : lower a.host = a.host)
    (rooted : ∀ c ∈ path.head?, c = '/') (noFragment : ∀ c ∈ query, c ≠ '#')
    (found : p.readLocated? scheme a path query = some l) : p.Filled l := by
  obtain ⟨port, decoded, _, pathRead, rfl⟩ := readLocated?_cases found
  rw [decodePath?, if_pos fills.decode] at pathRead
  -- Whether it was written or filled in, there is a scheme now.
  obtain ⟨name, given, isName, slashes⟩ : ∃ name, p.fillScheme scheme port = some name ∧
      Scheme.isName name = true ∧ Scheme.hasNoSlashes name = false := by
    cases scheme with
    | some name => exact ⟨name, rfl, names name rfl⟩
    | none => exact ⟨p.inferredScheme port, if_pos fills.addScheme, fills.inferred port⟩
  simp only [given, Option.getD_some]
  constructor
  · exact isName
  · exact slashes
  · simpa using isHost
  · simpa using lowered
  · exact fillPort_fillPort (some name) port
  · exact Percent.decode_rooted pathRead rooted
  · simpa using noFragment

end UriParser

namespace Reference

theorem query_of_ofText {known : SchemePorts} {authority? : List Char → Option Authority}
    {text : List Char} {scheme : Option String} {a : Authority} {path query : List Char}
    (refers : ofText known authority? text = .located scheme a path query) :
    ∀ c ∈ query, c ≠ '#' := by
  have ofParts : ∀ {given : Option String} {cs : List Char},
      refer authority? given (.ofText cs) = .located scheme a path query →
        ∀ c ∈ query, c ≠ '#' := by
    intro given cs referred c member
    rw [refer] at referred
    split at referred
    · cases referred
    · cases referred
      exact (UriParts.cutsInto_ofText cs).mem_query member
  by_cases blank : ((trim text).isEmpty || spells (trim text) "null") = true
  · rw [ofText, if_pos blank] at refers
    cases refers
  · rw [ofText] at refers
    simp only [blank, Bool.false_eq_true, if_false] at refers
    split at refers
    · cases refers
    · split at refers
      · cases refers
      · by_cases host : (UriParts.ofText (trim text)).authority.isEmpty = true
        · simp only [hostParts, if_pos host] at refers
          exact ofParts refers
        · simp only [hostParts, host, Bool.false_eq_true, if_false] at refers
          exact ofParts refers

end Reference

namespace UriParser

variable {p : UriParser}

theorem read_answer (fills : p.FillsScheme) (text : List Char) : p.Answer (p.read text) := by
  have sound := Reference.ofText_sound p.schemePorts Authority.ofUri?_nil text
  rw [read]
  cases refers : Reference.ofText p.schemePorts Authority.ofUri? text with
  | empty => exact .empty
  | invalid => exact .invalid
  | schemeOnly scheme =>
      rw [refers] at sound
      exact .scheme sound
  | withData scheme data =>
      rw [refers] at sound
      by_cases noData : data = []
      · subst noData
        exact .scheme (fills.dataKnown scheme sound.1)
      · exact .data sound.1 (by simpa using noData)
  | located scheme a path query =>
      rw [refers] at sound
      obtain ⟨names, ⟨_, written, isUri, rfl⟩, rooted⟩ := sound
      cases found : p.readLocated? scheme { written with host := lower written.host } path query with
      | none =>
          simp only [found]
          exact .invalid
      | some l =>
          have isHost := (Authority.isName_lower written.host).trans (Authority.ofUri?_isName isUri)
          simp only [found]
          exact .located (readLocated?_filled fills names isHost (lower_lower _) rooted
            (Reference.query_of_ofText refers) found)

/-- The written form of a located URI, with the parts that the cuts find marked off. -/
theorem Filled.render {l : Location} (filled : p.Filled l) :
    l.render = l.scheme.toList ++ ':' :: '/' :: '/' ::
      ((l.host.toList ++ Location.renderPort l.port) ++
        (Percent.encodePath l.path.toList ++ Location.renderQuery l.query)) := by
  have host : l.host ≠ "" := fun empty =>
    Authority.isName_ne_nil filled.isHost (String.toList_eq_nil_iff.mpr empty)
  have scheme := Scheme.ne_empty_of_isName filled.isScheme
  have located : l.isSchemeOnly = false := by simp [Location.isSchemeOnly, host]
  rw [Location.render, located, if_neg Bool.false_ne_true, Location.renderScheme, if_neg scheme,
    filled.slashes, if_neg Bool.false_ne_true]
  simp only [List.append_assoc, List.cons_append, List.nil_append]

theorem Filled.mem_written {l : Location} (filled : p.Filled l) {c : Char}
    (member : c ∈ l.scheme.toList ++ ':' :: '/' :: '/' ::
      ((l.host.toList ++ Location.renderPort l.port) ++ Percent.encodePath l.path.toList)) :
    isBlank c = false := by
  rcases List.mem_append.mp member with inside | later
  · exact (isSchemeChar_clear (Scheme.isName_chars filled.isScheme c inside).1).1
  · simp only [List.mem_cons] at later
    rcases later with rfl | rfl | rfl | written
    · decide
    · decide
    · decide
    · rcases List.mem_append.mp written with inside | inside
      · exact (Location.mem_authority filled.isHost inside).1
      · exact (Percent.encodePath_clear inside).1

/-- Only the query can end in a blank, since it is written as it is. -/
theorem Filled.trim_render {l : Location} (filled : p.Filled l)
    (unspaced : ∀ c ∈ l.query.toList.getLast?, isBlank c = false) : trim l.render = l.render := by
  have ending : ∀ c ∈ (Location.renderQuery l.query).getLast?, isBlank c = false := by
    rw [Location.renderQuery]
    split
    · exact fun c absent => nomatch absent
    · have mark : IsToken ['?'] := by decide
      exact getLast?_append_of_forall (fun c inside => (mark.2 c inside).1) unspaced
  have whole : l.render = (l.scheme.toList ++ ':' :: '/' :: '/' ::
      ((l.host.toList ++ Location.renderPort l.port) ++ Percent.encodePath l.path.toList)) ++
        Location.renderQuery l.query := by
    rw [filled.render]
    simp only [List.append_assoc, List.cons_append]
  rw [whole]
  apply trim_eq_self
  · exact head?_append_of_forall (by simp) (fun c member => filled.mem_written member) _
  · exact getLast?_append_of_forall (fun c member => filled.mem_written member) ending

theorem Filled.ofText_render {l : Location} (filled : p.Filled l) :
    UriParts.ofText l.render =
      ⟨l.scheme, l.host.toList ++ Location.renderPort l.port, Percent.encodePath l.path.toList,
        l.query.toList⟩ := by
  have chars := Scheme.isName_chars filled.isScheme
  have noQuery : ∀ c ∈ Percent.encodePath l.path.toList, c ≠ '?' := fun c member =>
    (Percent.encodePath_clear member).2.2.2.1
  have lowered : String.ofList (lower l.scheme.toList) = l.scheme := by
    rw [Scheme.isName_lower filled.isScheme, String.ofList_toList]
  have noFragment : ∀ c ∈ Percent.encodePath l.path.toList ++ Location.renderQuery l.query,
      c ≠ '#' := by
    intro c member
    rcases List.mem_append.mp member with inside | inside
    · exact (Percent.encodePath_clear inside).2.2.2.2
    · rcases Location.mem_renderQuery inside with rfl | written
      · decide
      · exact filled.noFragment c written
  obtain ⟨keptPath, keptQuery⟩ :=
    UriParts.pathAfter_written noFragment (UriParts.cutQuery_written noQuery l.query)
      (fun c member => (Percent.encodePath_clear member).2.1) l.scheme
  calc
    UriParts.ofText l.render =
        UriParts.ofText (l.scheme.toList ++ ':' :: '/' :: '/' ::
          ((l.host.toList ++ Location.renderPort l.port) ++
            (Percent.encodePath l.path.toList ++ Location.renderQuery l.query))) := by
      rw [filled.render]
    _ = ⟨String.ofList (lower l.scheme.toList), l.host.toList ++ Location.renderPort l.port,
          UriParts.pathAfter (String.ofList (lower l.scheme.toList))
            (Percent.encodePath l.path.toList ++ Location.renderQuery l.query),
          UriParts.queryOf (Percent.encodePath l.path.toList ++ Location.renderQuery l.query)⟩ := by
      apply UriParts.ofText_located
      · exact Scheme.isName_ne_empty filled.isScheme
      · exact fun c member => (chars c member).1
      · exact fun c member => (Location.mem_authority filled.isHost member).2.2
      · exact Location.head?_path_query filled.rooted
    _ = ⟨l.scheme, l.host.toList ++ Location.renderPort l.port, Percent.encodePath l.path.toList,
          l.query.toList⟩ := by rw [lowered, keptPath, keptQuery]

theorem Filled.read_render (fills : p.FillsScheme) {l : Location} (filled : p.Filled l)
    (unspaced : ∀ c ∈ l.query.toList.getLast?, isBlank c = false) :
    p.read l.render = .regular l := by
  have notEmpty : l.host.toList ++ Location.renderPort l.port ≠ [] := by
    simp [Authority.isName_ne_nil filled.isHost]
  have refers : Reference.ofText p.schemePorts Authority.ofUri? l.render =
      .located (some l.scheme) ⟨l.host.toList, l.port.map Port.toDigits⟩
        (Percent.encodePath l.path.toList) l.query.toList := by
    have trimmed := filled.trim_render unspaced
    have parts := filled.ofText_render
    rw [filled.render] at trimmed parts ⊢
    rw [Reference.ofText_of_cut fills.named _
        (fun c member => (Scheme.isName_chars filled.isScheme c member).1)
        (List.append_ne_nil_of_left_ne_nil notEmpty _) trimmed parts
        (Scheme.ne_empty_of_isName filled.isScheme) filled.slashes notEmpty]
    simp only [Reference.refer, Authority.ofUri?_written filled.isHost, filled.lowered]
  have port : readPort? (l.port.map Port.toDigits) = some l.port := by
    cases l.port with
    | none => rfl
    | some port => simp [readPort?, Port.ofDigits?_toDigits]
  have path : p.decodePath? (Percent.encodePath l.path.toList) = some l.path := by
    rw [decodePath?, if_pos fills.decode, Percent.decode_encodePath]
  rw [read, refers]
  simp only [readLocated?, port, path, Option.bind_eq_bind, Option.bind_some, fillScheme,
    filled.port, Option.getD_some, String.ofList_toList, Option.pure_def]

theorem read_scheme (named : p.schemePorts.Named) {name : String}
    (isKnown : p.schemePorts.contains name = true) :
    p.read (Uri.ofScheme name).render = .ofScheme name := by
  have notEmpty := Scheme.ne_empty_of_isName (named name isKnown)
  have only : (Location.ofScheme name).isSchemeOnly = true := by
    simp [Location.isSchemeOnly, Location.ofScheme, Location.blank, notEmpty]
  have written : (Uri.ofScheme name).render = name.toList ++ [':'] := if_pos only
  rw [written, read, Reference.ofText_scheme named _ isKnown (.inl rfl)]

theorem read_invalid (named : p.schemePorts.Named) : p.read Uri.invalid.render = .invalid := by
  have notBare : Reference.bareScheme? p.schemePorts Uri.invalid.render = none := by
    rw [Option.eq_none_iff_forall_ne_some]
    intro name found
    have noColon : ':' ∉ Uri.invalid.render := by decide
    obtain ⟨isKnown, same⟩ := (Reference.bareScheme?_of_no_colon named
      fun c member colon => noColon (colon ▸ member)).mp found
    have bracket : '[' ∈ name.toList := by
      rw [← same]
      decide
    exact Bool.false_ne_true ((named.unknown_of_mem '[' bracket (by decide)).symm.trans isKnown)
  have refers : Reference.ofText p.schemePorts Authority.ofUri? Uri.invalid.render = .invalid := by
    rw [Reference.ofText_of_parts _ (by decide) (by decide) (by decide) notBare]
    rfl
  rw [read, refers]

/-- An answer of the reader comes back from its written form, unless it is data or ends in a
blank. -/
theorem Answer.read_render (fills : p.FillsScheme) {u : Uri} (answer : p.Answer u)
    (noData : Scheme.hasNoSlashes u.location.scheme = true → u.location.host = "")
    (unspaced : ∀ c ∈ u.location.query.toList.getLast?, isBlank c = false) :
    p.read u.render = u := by
  cases answer with
  | empty => rfl
  | invalid => exact read_invalid fills.named
  | scheme isKnown => exact read_scheme fills.named isKnown
  | data noSlashes notEmpty => exact absurd (noData noSlashes) notEmpty
  | located filled => exact filled.read_render fills unspaced

theorem standard_fillsScheme (addPort : Bool) (defaultPort : Port) :
    FillsScheme { standard with addPort, defaultPort } where
  addScheme := rfl
  decode := rfl
  named := SchemePorts.standard_named
  dataKnown := fun _ noSlashes => SchemePorts.standard_contains noSlashes
  inferred := by
    have all : ∀ s ∈ "http" :: PortSchemes.standard.values,
        Scheme.isName s = true ∧ Scheme.hasNoSlashes s = false := by decide +kernel
    intro port
    apply all
    change (port.bind PortSchemes.standard.get?).getD "http" ∈ _
    cases found : port.bind PortSchemes.standard.get? with
    | none => exact List.mem_cons_self
    | some scheme =>
        obtain ⟨given, _, listed⟩ := Option.bind_eq_some_iff.mp found
        have entry := (SortedMap.get?_eq_some_iff _ given scheme).mp listed
        exact List.mem_cons_of_mem _ (List.mem_map_of_mem entry)

/-- What the standard reader gives for a text, it gives again for the written form of that, the
outcomes for texts that name no URI included. Data of a scheme without slashes are excepted, and
queries that end in a blank. -/
theorem parse_text_of_answer (addPort : Bool) (defaultPort : Port) (text : String) :
    let p : UriParser := { standard with addPort, defaultPort }
    let u := p.parse text
    (Scheme.hasNoSlashes u.location.scheme = true → u.location.host = "") →
      (∀ c ∈ u.location.query.toList.getLast?, isBlank c = false) → p.parse u.text = u := by
  intro p u noData unspaced
  have fills : p.FillsScheme := standard_fillsScheme addPort defaultPort
  rw [parse, Uri.text, String.toList_ofList]
  exact (read_answer fills text.toList).read_render fills noData unspaced

/-- The user, the parameters and the fragment go, the port comes, and the query keeps its blank. -/
theorem parse_text_of_answer_query :
    let p : UriParser := { standard with addPort := true, defaultPort := 8080 }
    let u := p.parse " HTTPS://me:pw@Example.org/a%20%C3%A9/b;v=1?q=%3B 1#top "
    u = .regular ⟨"https", "example.org", some 443, "/a é/b", "q=%3B 1"⟩ ∧
      (Scheme.hasNoSlashes u.location.scheme = true → u.location.host = "") ∧
      (∀ c ∈ u.location.query.toList.getLast?, isBlank c = false) ∧ p.parse u.text = u := by
  intro p u
  have found : u = .regular ⟨"https", "example.org", some 443, "/a é/b", "q=%3B 1"⟩ := by
    decide +kernel
  have noData : Scheme.hasNoSlashes u.location.scheme = true → u.location.host = "" := by
    rw [found]
    decide
  have unspaced : ∀ c ∈ u.location.query.toList.getLast?, isBlank c = false := by
    rw [found]
    intro c last
    obtain rfl : '1' = c := Option.some.inj last
    decide
  exact ⟨found, noData, unspaced, parse_text_of_answer true 8080 _ noData unspaced⟩

end UriParser

end ContentPolicy
