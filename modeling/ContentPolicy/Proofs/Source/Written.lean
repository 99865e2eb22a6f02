import ContentPolicy.Proofs.Source.Reading

/-!
Written forms of sources: one word of a policy each, and the parts that the word is cut into again.
A host before a port is also the start of a URI whose scheme has the name of the host.
-/

namespace ContentPolicy

open Text

namespace UriPattern

theorem mem_renderPort {port : Option PortPattern} {c : Char} (member : c ∈ renderPort port) :
    c = ':' ∨ Authority.isNameChar c = true ∨ c = '*' := by
  cases port with
  | none => cases member
  | some port =>
      rcases List.mem_cons.mp member with colon | inside
      · exact .inl colon
      · rcases PortPattern.mem_render inside with digit | star
        · exact .inr (.inl (Authority.isNameChar_of_isDigit digit))
        · exact .inr (.inr star)

theorem mem_authority {host : List Char} (isHost : Authority.isHostPattern host = true)
    {port : Option PortPattern} {c : Char} (member : c ∈ host ++ renderPort port) :
    isBlank c = false ∧ c ≠ ';' ∧ UriParts.endsAuthority c = false := by
  have inHost : Authority.isNameChar c = true ∨ c = '*' →
      isBlank c = false ∧ c ≠ ';' ∧ UriParts.endsAuthority c = false := by
    intro holds
    have clear := Authority.isNameChar_clear holds
    exact ⟨clear.1, clear.2.1, clear.2.2.2⟩
  rcases List.mem_append.mp member with inside | inside
  · exact inHost (Authority.mem_isHostPattern isHost inside)
  · rcases mem_renderPort inside with rfl | holds
    · decide
    · exact inHost holds

theorem render_of_host {p : UriPattern} (notEmpty : p.host ≠ "") :
    p.render = renderScheme p.scheme ++
      ((p.host.toList ++ renderPort p.port) ++ Percent.encodePath p.path.toList) := by
  have located : p.isSchemeOnly = false := by simp [isSchemeOnly, notEmpty]
  rw [render, located, if_neg Bool.false_ne_true]
  simp only [List.append_assoc]

theorem render_of_scheme {name : String} (notEmpty : name ≠ "") :
    render ⟨name, "", none, ""⟩ = name.toList ++ [':'] := by
  simp [render, isSchemeOnly, notEmpty]

theorem renderScheme_eq {scheme : String} (notEmpty : scheme ≠ "") (rest : List Char) :
    renderScheme scheme ++ rest = scheme.toList ++ ':' :: '/' :: '/' :: rest := by
  simp [renderScheme, notEmpty]

theorem ne_empty_of_known {known : SchemePorts} (named : known.Named) {name : String}
    (isKnown : known.contains name = true) : name ≠ "" :=
  Scheme.ne_empty_of_isName (named name isKnown)

theorem ne_empty_of_isHost {host : String} (isHost : Authority.isHostPattern host.toList = true) :
    host ≠ "" := fun empty =>
  Authority.isHostPattern_ne_nil isHost (String.toList_eq_nil_iff.mpr empty)

theorem head?_scheme {scheme : String} (isName : Scheme.isName scheme = true) (rest : List Char) :
    ∀ c ∈ (scheme.toList ++ rest).head?, c ≠ '\'' :=
  head?_append_of_forall (Scheme.isName_ne_empty isName)
    (fun c inside => (isSchemeChar_clear (Scheme.isName_chars isName c inside).1).2.2.1) rest

theorem scheme_isToken {scheme : String} (isName : Scheme.isName scheme = true) {rest : List Char}
    (clear : ∀ c ∈ rest, isBlank c = false ∧ c ≠ ';') :
    IsToken (scheme.toList ++ ':' :: rest) ∧
      ∀ c ∈ (scheme.toList ++ ':' :: rest).head?, c ≠ '\'' := by
  have chars := Scheme.isName_chars isName
  refine ⟨⟨by simp, fun c member => ?_⟩, head?_scheme isName _⟩
  rcases List.mem_append.mp member with inside | later
  · have holds := isSchemeChar_clear (chars c inside).1
    exact ⟨holds.1, holds.2.1⟩
  · rcases List.mem_cons.mp later with rfl | inside
    · decide
    · exact clear c inside

theorem head?_host {host : List Char} (isHost : Authority.isHostPattern host = true) (mark : Char)
    (noHost : ¬(Authority.isNameChar mark = true ∨ mark = '*')) (rest : List Char) :
    ∀ c ∈ (host ++ rest).head?, c ≠ mark := by
  refine head?_append_of_forall (Authority.isHostPattern_ne_nil isHost) ?_ rest
  rintro c member rfl
  exact noHost (Authority.mem_isHostPattern isHost member)

theorem located_isToken {host : List Char} (isHost : Authority.isHostPattern host = true)
    (port : Option PortPattern) (path : List Char) :
    IsToken ((host ++ renderPort port) ++ Percent.encodePath path) ∧
      ∀ c ∈ ((host ++ renderPort port) ++ Percent.encodePath path).head?, c ≠ '\'' := by
  have notEmpty := Authority.isHostPattern_ne_nil isHost
  refine ⟨⟨by simp [notEmpty], fun c member => ?_⟩, ?_⟩
  · rcases List.mem_append.mp member with inside | inside
    · have clear := mem_authority isHost inside
      exact ⟨clear.1, clear.2.1⟩
    · have clear := Percent.encodePath_clear inside
      exact ⟨clear.1, clear.2.1⟩
  · rw [List.append_assoc]
    exact head?_host isHost '\'' (by decide) _

theorem render_isToken {known : SchemePorts} (named : known.Named) {p : UriPattern}
    (readable : p.Readable known) (token : p.HostIsToken) :
    IsToken p.render ∧ ∀ c ∈ p.render.head?, c ≠ '\'' := by
  cases readable with
  | scheme isKnown =>
      rw [render_of_scheme (ne_empty_of_known named isKnown)]
      exact scheme_isToken (named _ isKnown) fun c absent => nomatch absent
  | @data scheme data isKnown noSlashes notEmpty lowered clear =>
      rw [render_of_host notEmpty, renderScheme_eq (ne_empty_of_known named isKnown)]
      refine scheme_isToken (named _ isKnown) fun c member => ?_
      have inside : c = '/' ∨ c ∈ data.toList := by
        simpa [renderPort, Percent.encodePath] using member
      rcases inside with rfl | inside
      · decide
      · exact token c inside
  | @located scheme host port path isKnown isHost lowered rooted =>
      have authority := located_isToken isHost port path.toList
      rw [render_of_host (ne_empty_of_isHost isHost)]
      rcases isKnown with rfl | ⟨isKnown, _⟩
      · exact authority
      · rw [renderScheme_eq (ne_empty_of_known named isKnown)]
        refine scheme_isToken (named _ isKnown) fun c member => ?_
        rcases List.mem_cons.mp member with rfl | later
        · decide
        · rcases List.mem_cons.mp later with rfl | inside
          · decide
          · exact authority.1.2 c inside

theorem host_no_colon {host : List Char} (isHost : Authority.isHostPattern host = true) :
    ∀ c ∈ host, c ≠ ':' := fun _ member =>
  (Authority.isNameChar_clear (Authority.mem_isHostPattern isHost member)).2.2.1

theorem host_path_no_colon {host : List Char} (isHost : Authority.isHostPattern host = true)
    (path : List Char) : ∀ c ∈ host ++ Percent.encodePath path, c ≠ ':' := by
  intro c member
  rcases List.mem_append.mp member with inside | inside
  · exact host_no_colon isHost c inside
  · exact (Percent.encodePath_clear inside).2.2.1

theorem host_port_append (host rest : List Char) (port : PortPattern) :
    (host ++ renderPort (some port)) ++ rest = host ++ ':' :: (port.render ++ rest) := by
  simp [renderPort]

theorem cut?_host {host : List Char} (isHost : Authority.isHostPattern host = true)
    (path : List Char) :
    cut? (fun c => decide (c = ':')) (host ++ Percent.encodePath path) = none :=
  cut?_none fun c member => decide_eq_false (host_path_no_colon isHost path c member)

theorem cut?_host_port {host : List Char} (isHost : Authority.isHostPattern host = true)
    (after : List Char) :
    cut? (fun c => decide (c = ':')) (host ++ ':' :: after) = some (host, after) :=
  cut?_append (fun c member => decide_eq_false (host_no_colon isHost c member)) (by decide)

theorem parts_of_host {host : List Char} (isHost : Authority.isHostPattern host = true)
    (path : List Char) :
    (UriParts.ofText (host ++ Percent.encodePath path)).scheme = "" ∧
      (UriParts.ofText (host ++ Percent.encodePath path)).authority = [] := by
  have cut : UriParts.cutScheme (host ++ Percent.encodePath path) =
      ("", host ++ Percent.encodePath path) := by
    rw [UriParts.cutScheme, cut?_host isHost]
  rw [UriParts.ofText_scheme, UriParts.ofText_authority, cut,
    UriParts.cutAuthority_of_no_slash (head?_host isHost '/' (by decide) _)]
  exact ⟨rfl, rfl⟩

theorem head?_port (port : PortPattern) (rest : List Char) :
    ∀ c ∈ (port.render ++ rest).head?, c ≠ '/' := by
  refine head?_append_of_forall port.render_ne_nil ?_ rest
  rintro c member rfl
  exact absurd (PortPattern.mem_render member) (by decide)

/-- The host before a port counts as a scheme unless the port is all that follows. -/
theorem cutScheme_port {host : List Char} (isHost : Authority.isHostPattern host = true)
    (after : List Char) :
    UriParts.cutScheme (host ++ ':' :: after) =
      if UriParts.isSchemeBefore host after then (String.ofList (lower host), after)
      else ("", host ++ ':' :: after) :=
  UriParts.cutScheme_colon (host_no_colon isHost) after

theorem authority_of_port {host : List Char} (isHost : Authority.isHostPattern host = true)
    (port : PortPattern) (rest : List Char) :
    (UriParts.ofText (host ++ ':' :: (port.render ++ rest))).authority = [] := by
  rw [UriParts.ofText_authority, cutScheme_port isHost]
  split
  · rw [UriParts.cutAuthority_of_no_slash (head?_port port rest)]
  · rw [UriParts.cutAuthority_of_no_slash (head?_host isHost '/' (by decide) _)]

theorem isDigits_port {port : PortPattern} {path : String}
    (rooted : ∀ c ∈ path.toList.head?, c = '/') :
    isDigits (port.render ++ Percent.encodePath path.toList) = (port ≠ .any && path = "") := by
  cases written : path.toList with
  | nil =>
      obtain rfl : path = "" := String.toList_eq_nil_iff.mp written
      cases port with
      | any => decide
      | number p => simp [Percent.encodePath, PortPattern.render, Port.toDigits_isDigits]
  | cons c rest =>
      obtain rfl : c = '/' := rooted c (by rw [written]; rfl)
      have hasPath : path ≠ "" := by
        rintro rfl
        cases written
      rw [Percent.encodePath_slash, isDigits, List.all_append, List.all_cons]
      simp [hasPath]

/-- A host that stands without slashes hides behind its own name where more than a port follows. -/
theorem hasNoSlashes_port (port : PortPattern) {host path : String}
    (isHost : Authority.isHostPattern host.toList = true)
    (lowered : lower host.toList = host.toList)
    (rooted : ∀ c ∈ path.toList.head?, c = '/') :
    Scheme.hasNoSlashes (UriParts.ofText
        (host.toList ++ ':' :: (port.render ++ Percent.encodePath path.toList))).scheme =
      (Scheme.hasNoSlashes host && !(port ≠ .any && path = "")) := by
  rw [UriParts.ofText_scheme, cutScheme_port isHost, UriParts.isSchemeBefore, isDigits_port rooted,
    lowered, String.ofList_toList]
  -- All these schemes are made of scheme characters, so digits alone decide.
  by_cases listed : Scheme.hasNoSlashes host = true
  · have all : ∀ s ∈ Scheme.withoutSlashes, s.toList ≠ "http".toList ∧ s.toList.isEmpty = false ∧
        s.toList.all UriParts.isSchemeChar = true := by decide
    obtain ⟨notHttp, notEmpty, chars⟩ := all host (Scheme.hasNoSlashes_iff.mp listed)
    rw [listed, notEmpty, chars, decide_eq_false notHttp]
    cases (port ≠ .any && path = "" : Bool)
    · exact listed
    · rfl
  · rw [Bool.not_eq_true] at listed
    rw [listed, Bool.false_and]
    split
    · exact listed
    · rfl

theorem fromOn_endsAuthority {cs : List Char} (clear : ∀ c ∈ cs, c ≠ '?' ∧ c ≠ '#') :
    fromOn UriParts.endsAuthority cs = fromOn (fun c => decide (c = '/')) cs := by
  induction cs with
  | nil => rfl
  | cons c cs ih =>
      have first := clear c List.mem_cons_self
      have later := ih fun d member => clear d (List.mem_cons_of_mem c member)
      have same : UriParts.endsAuthority c = decide (c = '/') := by
        simp [UriParts.endsAuthority, first.1, first.2]
      simp only [fromOn] at later
      simp only [fromOn, List.dropWhile_cons, same, later]

theorem data_of_port {host path : String} (isHost : Authority.isHostPattern host.toList = true)
    (lowered : lower host.toList = host.toList) {port : PortPattern}
    (slashes : Scheme.hasNoSlashes (UriParts.ofText
      (host.toList ++ ':' :: (port.render ++ Percent.encodePath path.toList))).scheme = true) :
    (UriParts.ofText
        (host.toList ++ ':' :: (port.render ++ Percent.encodePath path.toList))).scheme = host ∧
      (UriParts.ofText
        (host.toList ++ ':' :: (port.render ++ Percent.encodePath path.toList))).path =
        port.render ++ Percent.encodePath path.toList := by
  have cut := cutScheme_port isHost (port.render ++ Percent.encodePath path.toList)
  rw [UriParts.ofText_scheme, UriParts.ofText_path]
  rw [UriParts.ofText_scheme] at slashes
  split at cut
  · rw [cut, lowered, String.ofList_toList] at slashes ⊢
    refine ⟨rfl, ?_⟩
    rw [UriParts.pathAfter_data slashes, UriParts.cutAuthority_of_no_slash (head?_port port _)]
    refine UriParts.pathOf_clear fun c member => ?_
    rcases List.mem_append.mp member with inside | inside
    · have holds := PortPattern.mem_render inside
      constructor
      · rintro rfl
        exact absurd holds (by decide)
      · rintro rfl
        exact absurd holds (by decide)
    · exact (Percent.encodePath_clear inside).2.2.2
  · rw [cut] at slashes
    exact absurd (show Scheme.hasNoSlashes "" = true from slashes) (by decide)

end UriPattern

end ContentPolicy
