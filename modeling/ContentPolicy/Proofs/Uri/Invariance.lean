import ContentPolicy.Proofs.Uri.Grammar

/-!
Texts that are read alike. Behind a scheme and two slashes, neither the user in front of the host
nor the fragment has a part in what is read. A text that starts with its host refers to what it
refers to with `http://` in front, without the scheme; this takes a host that is not itself read as
a scheme or as the word for no URI.
-/

namespace ContentPolicy

open Text

namespace Authority

inductive PortDigits : List Char → Prop
  | absent : PortDigits []
  | written {digits : List Char} (isPort : isDigits digits = true) : PortDigits (':' :: digits)

variable {user host : List Char} {port : Option (List Char)} {c : Char}

theorem PortDigits.exists_port {ending : List Char} (isPort : PortDigits ending) :
    ∃ port, (∀ digits ∈ port, isDigits digits = true) ∧ ending = portEnding port := by
  cases isPort with
  | absent => exact ⟨none, nofun, rfl⟩
  | @written digits isPort =>
      refine ⟨some digits, ?_, rfl⟩
      rintro _ ⟨⟩
      exact isPort

theorem ofUri?_user (isUser : UserPart FoldedLetter user) (named : isName host = true)
    (isPort : ∀ digits ∈ port, isDigits digits = true) :
    ofUri? (user ++ (host ++ portEnding port)) = some ⟨host, port⟩ :=
  ofUri?_eq_some_iff.mpr ⟨user, isUser, named, isPort, rfl⟩

def endsHost (c : Char) : Bool := c = ':' || UriParts.endsAuthority c

theorem endsHost_of_isName (named : isName host = true) (member : c ∈ host) :
    endsHost c = false := by
  have clear := isName_clear named member
  rw [endsHost, clear.2.2.2, Bool.or_false]
  exact decide_eq_false clear.2.1

theorem endsHost_of_isSchemeChar (holds : UriParts.isSchemeChar c = true) : endsHost c = false := by
  have marks : ':'.toNat = 58 ∧ '/'.toNat = 47 ∧ '?'.toNat = 63 ∧ '#'.toNat = 35 := by decide
  rw [isSchemeChar_iff, isAlphanum_iff] at holds
  simp only [endsHost, UriParts.endsAuthority, Bool.or_eq_false_iff, decide_eq_false_iff_not,
    eq_iff_toNat]
  omega

theorem endsHost_toLower (c : Char) : endsHost c.toLower = endsHost c := by
  have caseless (mark : Char) (noLetter : mark.isAlphanum = false) :
      decide (c.toLower = mark) = decide (c = mark) :=
    decide_eq_decide.mpr (toLower_eq_iff (.inl noLetter))
  simp only [endsHost, UriParts.endsAuthority]
  rw [caseless ':' (by decide), caseless '/' (by decide), caseless '?' (by decide),
    caseless '#' (by decide)]

theorem endsHost_head? {rest : List Char}
    (ends : ∀ c ∈ rest.head?, UriParts.endsAuthority c = true) (port : Option (List Char)) :
    ∀ c ∈ (portEnding port ++ rest).head?, endsHost c = true := by
  intro c first
  cases port with
  | none => rw [endsHost, ends c first, Bool.or_true]
  | some digits =>
      cases first
      decide

theorem lower_host_eq {rest name marks : List Char} (named : isName host = true)
    (ends : ∀ c ∈ rest.head?, endsHost c = true) (clear : ∀ c ∈ name, endsHost c = false)
    (marked : ∀ c ∈ marks.head?, endsHost c = true) (same : lower (host ++ rest) = name ++ marks) :
    lower host = name := by
  have clearHost : ∀ c ∈ lower host, endsHost c = false := by
    intro c member
    obtain ⟨d, inside, rfl⟩ := List.mem_map.mp member
    rw [endsHost_toLower, endsHost_of_isName named inside]
  have endsLower : ∀ c ∈ (lower rest).head?, endsHost c = true := by
    intro c first
    rw [lower, List.head?_map] at first
    obtain ⟨d, inside, rfl⟩ := Option.map_eq_some_iff.mp first
    rw [endsHost_toLower, ends d inside]
  rw [lower_append] at same
  exact (eq_of_append_eq clearHost endsLower clear marked same).1

end Authority

namespace Reference

open Authority

variable {known : SchemePorts} {scheme user host rest : List Char} {port : Option (List Char)}

theorem trim_located (notEmpty : scheme ≠ []) (chars : ∀ c ∈ scheme, UriParts.isSchemeChar c = true)
    (isHost : isName host = true) (isPort : ∀ digits ∈ port, isDigits digits = true) :
    trim (scheme ++ ':' :: '/' :: '/' :: ((user ++ (host ++ portEnding port)) ++ rest)) =
      scheme ++ ':' :: '/' :: '/' ::
        ((user ++ (host ++ portEnding port)) ++ rest.rdropWhile isBlank) := by
  have first : ∀ c ∈ ((scheme ++ [':', '/', '/'] ++ user) ++ (host ++ portEnding port)).head?,
      isBlank c = false := by
    rw [List.append_assoc, List.append_assoc]
    exact head?_append_of_forall notEmpty
      (fun c member => (isSchemeChar_clear (chars c member)).1) _
  have last : ∀ c ∈ ((scheme ++ [':', '/', '/'] ++ user) ++ (host ++ portEnding port)).getLast?,
      isBlank c = false := by
    intro c ending
    have notEmpty : host ++ portEnding port ≠ [] := by simp [isName_ne_nil isHost]
    rw [List.getLast?_append_of_ne_nil _ notEmpty] at ending
    exact (mem_hostAndPort isHost isPort (List.mem_of_getLast? ending)).1
  have whole := trim_append (by simp [notEmpty]) first last rest
  simpa using whole

/-- A text with a scheme refers to its host and port, with the path and the query behind them; the
user in front of the host is dropped. -/
theorem ofText_of_user (named : known.Named) (notEmpty : scheme ≠ [])
    (chars : ∀ c ∈ scheme, UriParts.isSchemeChar c = true)
    (slashes : Scheme.hasNoSlashes (String.ofList (lower scheme)) = false)
    (isUser : UserPart FoldedLetter user) (userClear : ∀ c ∈ user, UriParts.endsAuthority c = false)
    (isHost : isName host = true) (isPort : ∀ digits ∈ port, isDigits digits = true)
    (ends : ∀ c ∈ rest.head?, UriParts.endsAuthority c = true) :
    ofText known ofUri?
        (scheme ++ ':' :: '/' :: '/' :: ((user ++ (host ++ portEnding port)) ++ rest)) =
      .located (some (String.ofList (lower scheme))) ⟨lower host, port⟩
        (UriParts.pathAfter (String.ofList (lower scheme)) (rest.rdropWhile isBlank))
        (UriParts.queryOf (rest.rdropWhile isBlank)) := by
  have given : user ++ (host ++ portEnding port) ≠ [] := by simp [isName_ne_nil isHost]
  have clear : ∀ c ∈ user ++ (host ++ portEnding port), UriParts.endsAuthority c = false := by
    intro c member
    rcases List.mem_append.mp member with inside | inside
    · exact userClear c inside
    · exact (mem_hostAndPort isHost isPort inside).2.2
  rw [ofText_of_located named ofUri? notEmpty chars slashes given clear
    (fun c first => ends c (head?_rdropWhile first)) (trim_located notEmpty chars isHost isPort)]
  simp only [refer, ofUri?_user isUser isHost isPort]

theorem ofText_user_fragment {tail fragment : List Char} (named : known.Named)
    (notEmpty : scheme ≠ [])
    (chars : ∀ c ∈ scheme, UriParts.isSchemeChar c = true)
    (slashes : Scheme.hasNoSlashes (String.ofList (lower scheme)) = false)
    (isUser : UserPart FoldedLetter user) (userClear : ∀ c ∈ user, UriParts.endsAuthority c = false)
    (isHost : isName host = true) (isPort : ∀ digits ∈ port, isDigits digits = true)
    (tailEnds : ∀ c ∈ tail.head?, UriParts.endsAuthority c = true)
    (tailClear : ∀ c ∈ tail, c ≠ '#') (unspaced : ∀ c ∈ tail.getLast?, isBlank c = false)
    (fragmentStarts : ∀ c ∈ fragment.head?, c = '#') :
    ofText known ofUri?
        (scheme ++ ':' :: '/' :: '/' ::
          ((user ++ (host ++ portEnding port)) ++ (tail ++ fragment))) =
      ofText known ofUri?
        (scheme ++ ':' :: '/' :: '/' :: (([] ++ (host ++ portEnding port)) ++ tail)) := by
  have ends : ∀ c ∈ (tail ++ fragment).head?, UriParts.endsAuthority c = true := by
    intro c first
    rw [List.head?_append] at first
    rcases Option.or_eq_some_iff.mp first with inTail | ⟨_, inFragment⟩
    · exact tailEnds c inTail
    · rw [fragmentStarts c inFragment]
      rfl
  have keptStarts : ∀ c ∈ (fragment.rdropWhile isBlank).head?, c = '#' :=
    fun c first => fragmentStarts c (head?_rdropWhile first)
  have nobodyClear : ∀ c ∈ ([] : List Char), UriParts.endsAuthority c = false :=
    List.forall_mem_nil _
  rw [ofText_of_user named notEmpty chars slashes isUser userClear isHost isPort ends,
    ofText_of_user named notEmpty chars slashes .nobody nobodyClear isHost isPort tailEnds,
    rdropWhile_append_of_last unspaced, rdropWhile_of_last unspaced,
    UriParts.pathAfter_fragment _ tailClear keptStarts,
    UriParts.queryOf_fragment tailClear keptStarts]

/-- The part before the first colon is a scheme only if it is the host, and then its port is not all
that follows. -/
theorem cutScheme_host (isHost : isName host = true)
    (ends : ∀ c ∈ rest.head?, UriParts.endsAuthority c = true) (port : Option (List Char)) :
    UriParts.cutScheme (host ++ (portEnding port ++ rest)) =
        ("", host ++ (portEnding port ++ rest)) ∨
      ∃ digits, port = some digits ∧
        UriParts.cutScheme (host ++ (portEnding port ++ rest)) =
          (String.ofList (lower host), digits ++ rest) := by
  rcases UriParts.cutScheme_cases (host ++ (portEnding port ++ rest)) with absent | present
  · exact .inl absent
  · obtain ⟨candidate, after, whole, isScheme, found⟩ := present
    have clear : ∀ c ∈ candidate, endsHost c = false := fun c member =>
      endsHost_of_isSchemeChar (isScheme.2.1 c member)
    have colon : ∀ c ∈ (':' :: after).head?, endsHost c = true := by
      rintro _ ⟨⟩
      decide
    obtain ⟨rfl, behind⟩ := eq_of_append_eq (fun c member => endsHost_of_isName isHost member)
      (endsHost_head? ends port) clear colon whole
    cases port with
    | none =>
        -- What follows a host without a port starts with no colon.
        rw [portEnding, List.nil_append] at behind
        have mark := ends ':' (by rw [behind]; rfl)
        exact absurd mark (by decide)
    | some digits =>
        obtain rfl : digits ++ rest = after := by
          rw [portEnding, List.cons_append] at behind
          exact (List.cons.inj behind).2
        exact .inr ⟨digits, rfl, found⟩

theorem authority_of_host (isHost : isName host = true)
    (isPort : ∀ digits ∈ port, isDigits digits = true)
    (ends : ∀ c ∈ rest.head?, UriParts.endsAuthority c = true) :
    (UriParts.ofText (host ++ (portEnding port ++ rest))).authority = [] := by
  rw [UriParts.ofText_authority]
  rcases cutScheme_host isHost ends port with absent | ⟨digits, rfl, present⟩
  · have noSlash : ∀ c ∈ (host ++ (portEnding port ++ rest)).head?, c ≠ '/' := by
      refine head?_append_of_forall (isName_ne_nil isHost) ?_ _
      rintro c member rfl
      exact absurd (isName_clear isHost member).2.2.2 (by decide)
    rw [absent, UriParts.cutAuthority_of_no_slash noSlash]
  · have run := isPort digits rfl
    rw [isDigits, Bool.and_eq_true, Bool.not_eq_true', List.isEmpty_eq_false_iff] at run
    have noSlash : ∀ c ∈ (digits ++ rest).head?, c ≠ '/' := by
      refine head?_append_of_forall run.1 ?_ rest
      rintro c member rfl
      exact absurd (List.all_eq_true.mp run.2 '/' member) (by decide)
    rw [present, UriParts.cutAuthority_of_no_slash noSlash]

/-- A text that starts with a host and a port refers to them, unless it is read as something else
that has no host. -/
theorem ofText_of_host_port (isHost : isName host = true)
    (isPort : ∀ digits ∈ port, isDigits digits = true)
    (ends : ∀ c ∈ rest.head?, UriParts.endsAuthority c = true)
    (notNull : spells (host ++ (portEnding port ++ rest.rdropWhile isBlank)) "null" = false)
    (notBare : bareScheme? known (host ++ (portEnding port ++ rest.rdropWhile isBlank)) = none)
    (slashes : Scheme.hasNoSlashes
      (UriParts.ofText (host ++ (portEnding port ++ rest.rdropWhile isBlank))).scheme = false) :
    ofText known ofUri? (host ++ (portEnding port ++ rest)) =
      .located none ⟨lower host, port⟩ (UriParts.pathAfter "http" (rest.rdropWhile isBlank))
        (UriParts.queryOf (rest.rdropWhile isBlank)) := by
  have notEmpty : host ++ portEnding port ≠ [] := by simp [isName_ne_nil isHost]
  have endsKept : ∀ c ∈ (rest.rdropWhile isBlank).head?, UriParts.endsAuthority c = true :=
    fun c first => ends c (head?_rdropWhile first)
  have noAuthority := authority_of_host isHost isPort endsKept
  have cut : trim ((host ++ portEnding port) ++ rest) =
      (host ++ portEnding port) ++ rest.rdropWhile isBlank :=
    trim_append_of_visible notEmpty fun c member => (mem_hostAndPort isHost isPort member).1
  rw [← List.append_assoc] at notNull notBare slashes noAuthority ⊢
  rw [ofText_of_host ofUri? notEmpty (fun c member => (mem_hostAndPort isHost isPort member).2.2)
    endsKept
    cut notNull notBare slashes noAuthority]
  have written := ofUri?_user .nobody isHost isPort
  rw [List.nil_append] at written
  simp only [refer, written]

theorem ofText_of_plain_host (named : known.Named) (isHost : isName host = true)
    (isPort : ∀ digits ∈ port, isDigits digits = true)
    (ends : ∀ c ∈ rest.head?, UriParts.endsAuthority c = true)
    (notNull : lower host ≠ "null".toList)
    (unknown : known.contains (String.ofList (lower host)) = false)
    (slashes : Scheme.hasNoSlashes (String.ofList (lower host)) = false) :
    ofText known ofUri? (host ++ (portEnding port ++ rest)) =
      .located none ⟨lower host, port⟩ (UriParts.pathAfter "http" (rest.rdropWhile isBlank))
        (UriParts.queryOf (rest.rdropWhile isBlank)) := by
  have endsKept : ∀ c ∈ (rest.rdropWhile isBlank).head?, UriParts.endsAuthority c = true :=
    fun c first => ends c (head?_rdropWhile first)
  have behind := endsHost_head? endsKept port
  apply ofText_of_host_port isHost isPort ends
  · rw [spells, sameIgnoringCase, beq_eq_false_iff_ne]
    intro same
    have clear : ∀ c ∈ "null".toList, endsHost c = false := fun c member =>
      endsHost_of_isName (show isName "null".toList = true by decide) member
    apply notNull
    have noMark : ∀ c ∈ ([] : List Char).head?, endsHost c = true := by
      intro c first
      cases first
    apply lower_host_eq isHost behind clear noMark
    rw [same, List.append_nil]
    decide
  · rw [Option.eq_none_iff_forall_ne_some]
    intro name found
    obtain ⟨isKnown, marks, isMark, same⟩ := (bareScheme?_eq_some_iff named).mp found
    have clear : ∀ c ∈ name.toList, endsHost c = false := fun c member =>
      endsHost_of_isSchemeChar (Scheme.isName_chars (named name isKnown) c member).1
    have marked : ∀ c ∈ marks.head?, endsHost c = true := by
      intro c first
      simp only [schemeMarks, List.mem_cons, List.not_mem_nil, or_false] at isMark
      rcases isMark with rfl | rfl | rfl
      · cases first
      · cases first
        decide
      · cases first
        decide
    rw [lower_host_eq isHost behind clear marked same, String.ofList_toList, isKnown] at unknown
    cases unknown
  · rw [UriParts.ofText_scheme]
    rcases cutScheme_host isHost endsKept port with absent | ⟨_, _, present⟩
    · rw [absent]
      rfl
    · rw [present]
      exact slashes

end Reference

namespace UriParser

open Authority

variable {p : UriParser}

theorem read_congr {text text' : List Char}
    (same : Reference.ofText p.schemePorts ofUri? text =
      Reference.ofText p.schemePorts ofUri? text') : p.read text = p.read text' := by
  simp only [read, same]

theorem ofList_lower (s : String) : String.ofList (lower s.toList) = s.toLower := by
  rw [← String.toList_inj, String.toList_ofList, toList_toLower]

/-- Reading a text with a scheme sees neither the user in it nor the fragment; either may be
missing. -/
theorem parse_user_fragment (named : p.schemePorts.Named)
    {scheme user host ending tail fragment : String} (notEmpty : scheme ≠ "")
    (chars : ∀ c ∈ scheme.toList, UriParts.isSchemeChar c = true)
    (slashes : Scheme.hasNoSlashes scheme.toLower = false)
    (isUser : UserPart FoldedLetter user.toList)
    (userClear : ∀ c ∈ user.toList, UriParts.endsAuthority c = false)
    (isHost : isName host.toList = true) (isPort : PortDigits ending.toList)
    (tailStarts : ∀ c ∈ tail.toList.head?, c = '/' ∨ c = '?')
    (tailClear : ∀ c ∈ tail.toList, c ≠ '#')
    (unspaced : ∀ c ∈ tail.toList.getLast?, isBlank c = false)
    (fragmentStarts : ∀ c ∈ fragment.toList.head?, c = '#') :
    p.parse (scheme ++ "://" ++ user ++ host ++ ending ++ tail ++ fragment) =
      p.parse (scheme ++ "://" ++ host ++ ending ++ tail) := by
  obtain ⟨port, digits, written⟩ := isPort.exists_port
  have whole : (scheme ++ "://" ++ user ++ host ++ ending ++ tail ++ fragment).toList =
      scheme.toList ++ ':' :: '/' :: '/' ::
        ((user.toList ++ (host.toList ++ portEnding port)) ++ (tail.toList ++ fragment.toList)) := by
    simp [written]
  have bare : (scheme ++ "://" ++ host ++ ending ++ tail).toList =
      scheme.toList ++ ':' :: '/' :: '/' ::
        (([] ++ (host.toList ++ portEnding port)) ++ tail.toList) := by
    simp [written]
  have ends : ∀ c ∈ tail.toList.head?, UriParts.endsAuthority c = true := by
    intro c first
    rcases tailStarts c first with rfl | rfl
    · rfl
    · rfl
  have given : scheme.toList ≠ [] := fun empty => notEmpty (String.toList_eq_nil_iff.mp empty)
  rw [← ofList_lower] at slashes
  rw [parse, parse, whole, bare]
  apply read_congr
  exact Reference.ofText_user_fragment named given chars slashes isUser userClear isHost digits ends
    tailClear unspaced fragmentStarts

/-- The password and the fragment hold other delimiters, and the fragment ends in a blank. -/
theorem parse_user_fragment_delimiters :
    let p := UriParser.standard
    let read : Uri := .regular ⟨"https", "d.org", some 80, "/a", "q"⟩
    (p.schemePorts.Named ∧ UserPart FoldedLetter "me:p;*w@".toList ∧ PortDigits ":080".toList) ∧
      p.parse ("Https" ++ "://" ++ "D.org" ++ ":080" ++ "/a;v=1?q") = read ∧
      p.parse ("Https" ++ "://" ++ "me:p;*w@" ++ "D.org" ++ ":080" ++ "/a;v=1?q" ++ "#/?@:// ") =
        read := by
  intro p read
  have named : p.schemePorts.Named := SchemePorts.standard_named
  have isUser : UserPart FoldedLetter "me:p;*w@".toList := by
    have word (cs : List Char) (holds : isUserWord cs = true) := (isUserWord_iff cs).mp holds
    exact .password (word "me".toList (by decide)) (word "p;*w".toList (by decide))
  have isPort : PortDigits ":080".toList := .written (show isDigits "080".toList = true by decide)
  have bare : p.parse ("Https" ++ "://" ++ "D.org" ++ ":080" ++ "/a;v=1?q") = read := by
    decide +kernel
  have starts : ∀ c ∈ "/a;v=1?q".toList.head?, c = '/' ∨ c = '?' := by
    rintro _ ⟨⟩
    exact .inl rfl
  have unspaced : ∀ c ∈ "/a;v=1?q".toList.getLast?, isBlank c = false := by
    rintro _ ⟨⟩
    rfl
  have marked : ∀ c ∈ "#/?@:// ".toList.head?, c = '#' := by
    rintro _ ⟨⟩
    rfl
  refine ⟨⟨named, isUser, isPort⟩, bare, ?_⟩
  rw [← bare]
  exact parse_user_fragment named (by decide) (List.all_eq_true.mp (by decide))
    (by decide +kernel) isUser (by simp [UriParts.endsAuthority]) (by decide) isPort starts
    (by simp) unspaced marked

section Schemeless

variable {a : Authority} {path query : List Char}

theorem readLocated?_scheme (noPort : p.addPort = false) (scheme : String) :
    p.readLocated? (some scheme) a path query =
      (p.readLocated? none a path query).map fun l => { l with scheme } := by
  have asWritten (given : Option String) (port : Option Port) : p.fillPort given port = port := by
    cases port with
    | none => simp [fillPort, noPort]
    | some port => rfl
  cases port : readPort? a.port with
  | none => simp [readLocated?, port]
  | some written =>
      cases decoded : p.decodePath? path with
      | none => simp [readLocated?, port, decoded]
      | some kept => simp [readLocated?, port, decoded, asWritten, fillScheme]

theorem scheme_of_readLocated?_none (noScheme : p.addScheme = false) {l : Location}
    (found : p.readLocated? none a path query = some l) : l.scheme = "" := by
  obtain ⟨port, decoded, _, _, rfl⟩ := readLocated?_cases found
  simp [fillScheme, noScheme]

/-- A text that starts with a host, and the same with `http://` in front, are both no URI or are
read as one location, without the scheme and with it. -/
theorem parse_behind_http (table : p.schemePorts = .standard) (noScheme : p.addScheme = false)
    (noPort : p.addPort = false) {host ending tail : String} (isHost : isName host.toList = true)
    (notNull : host.toLower ≠ "null") (unknown : SchemePorts.standard.contains host.toLower = false)
    (isPort : PortDigits ending.toList)
    (ends : ∀ c ∈ tail.toList.head?, UriParts.endsAuthority c = true) :
    let text := host ++ ending ++ tail
    p.parse text = .invalid ∧ p.parse ("http://" ++ text) = .invalid ∨
      ∃ l, l.scheme = "" ∧ p.parse text = .regular l ∧
        p.parse ("http://" ++ text) = .regular { l with scheme := "http" } := by
  intro text
  obtain ⟨port, digits, written⟩ := isPort.exists_port
  have named : p.schemePorts.Named := table ▸ SchemePorts.standard_named
  have whole : text.toList = host.toList ++ (portEnding port ++ tail.toList) := by
    simp [text, written]
  have prefixed : ("http://" ++ text).toList =
      "http".toList ++ ':' :: '/' :: '/' ::
        (([] ++ (host.toList ++ portEnding port)) ++ tail.toList) := by
    simp [text, written]
  have slashes : Scheme.hasNoSlashes host.toLower = false := by
    rw [Bool.eq_false_iff]
    intro noSlashes
    exact Bool.false_ne_true (unknown.symm.trans (SchemePorts.standard_contains noSlashes))
  have lowered : lower host.toList ≠ "null".toList := by
    rw [← toList_toLower]
    exact fun same => notNull (String.toList_inj.mp same)
  rw [← table, ← ofList_lower] at unknown
  rw [← ofList_lower] at slashes
  have plain := Reference.ofText_of_plain_host named isHost digits ends lowered unknown slashes
  have http : ∀ c ∈ "http".toList, UriParts.isSchemeChar c = true := List.all_eq_true.mp (by decide)
  have located := Reference.ofText_of_user named (by decide) http (by decide) .nobody
    (List.forall_mem_nil _) isHost digits ends
  have spelled : String.ofList (lower "http".toList) = "http" := by decide
  rw [spelled] at located
  rw [parse, parse, whole, prefixed, read, read, plain, located]
  dsimp only
  rw [readLocated?_scheme noPort]
  cases found : p.readLocated? none ⟨lower host.toList, port⟩
      (UriParts.pathAfter "http" (tail.toList.rdropWhile isBlank))
      (UriParts.queryOf (tail.toList.rdropWhile isBlank)) with
  | none => exact .inl ⟨rfl, rfl⟩
  | some l => exact .inr ⟨l, scheme_of_readLocated?_none noScheme found, rfl, rfl⟩

/-- Without a scheme in front, the host and its colon could be one. -/
theorem parse_behind_http_port :
    let p : UriParser := { UriParser.standard with addScheme := false }
    let text := "Example.org" ++ ":8080" ++ "/a:b//c;d?e:f#/g "
    let read : Location := ⟨"", "example.org", some 8080, "/a:b//c", "e:f"⟩
    p.parse text = .regular read ∧
      p.parse ("http://" ++ text) = .regular { read with scheme := "http" } := by
  intro p text read
  have plain : p.parse text = .regular read := by decide +kernel
  have isPort : PortDigits ":8080".toList := .written (show isDigits "8080".toList = true by decide)
  have unknown : SchemePorts.standard.contains "Example.org".toLower = false := by decide +kernel
  have ends : ∀ c ∈ "/a:b//c;d?e:f#/g ".toList.head?, UriParts.endsAuthority c = true := by
    rintro _ ⟨⟩
    rfl
  have both := @parse_behind_http p rfl rfl rfl "Example.org" ":8080" "/a:b//c;d?e:f#/g "
    (by decide) (by decide +kernel) unknown isPort ends
  rcases both with ⟨invalid, _⟩ | ⟨l, _, found, prefixed⟩
  · rw [plain] at invalid
    cases invalid
  · rw [plain] at found
    cases found
    exact ⟨plain, prefixed⟩

end Schemeless

end UriParser

end ContentPolicy
