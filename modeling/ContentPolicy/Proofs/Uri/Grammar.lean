import ContentPolicy.Proofs.Uri.Rereading

/-!
The grammar of authorities, said apart from the readers: which texts stand between two slashes and a
path, and what host and port they write. It is said for any class of letters. The readers decide it
for the letters of ASCII and their two case variants; the texts of the grammar over ASCII are those
among them that hold neither variant.
-/

namespace ContentPolicy

open Text

namespace Authority

def AsciiLetter (c : Char) : Prop := c.isAlpha = true

instance : DecidablePred AsciiLetter := fun c => inferInstanceAs (Decidable (c.isAlpha = true))

/-- The letters of ASCII, and what differs from one of them in case alone. -/
def FoldedLetter (c : Char) : Prop := c.isAlpha = true ∨ isCaseVariant c = true

def nameMarks : List Char := ['.', '_', '-']

def userMarks : List Char := "`~!#$%^&*()_+=\x7b\x7d[]\\|;\"<>,./?-".toList

def IsWord (Letter : Char → Prop) (marks cs : List Char) : Prop :=
  cs ≠ [] ∧ ∀ c ∈ cs, Letter c ∨ c.isDigit = true ∨ c ∈ marks

section Grammar

variable (Letter : Char → Prop)

inductive UserPart : List Char → Prop
  | nobody : UserPart []
  | user {user : List Char} (isUser : IsWord Letter userMarks user) : UserPart (user ++ ['@'])
  | password {user password : List Char} (isUser : IsWord Letter userMarks user)
      (isPassword : IsWord Letter userMarks password) :
      UserPart ((user ++ ':' :: password) ++ ['@'])

inductive PortPart : List Char → Option Port → Prop
  | absent : PortPart [] none
  | digits {digits : List Char} {port : Port} (given : digits ≠ [])
      (all : ∀ c ∈ digits, c.isDigit = true) (value : decimalValue digits = port.toNat) :
      PortPart (':' :: digits) (some port)

inductive HostPattern : List Char → Prop
  | star : HostPattern ['*']
  | name {name : List Char} (isName : IsWord Letter nameMarks name) : HostPattern name
  | below {name : List Char} (isName : IsWord Letter nameMarks name) :
      HostPattern ('*' :: '.' :: name)

inductive PortPatternPart : List Char → Option PortPattern → Prop
  | any : PortPatternPart [':', '*'] (some .any)
  | port {ending : List Char} {port : Option Port} (part : PortPart ending port) :
      PortPatternPart ending (port.map .number)

/-- The authority of a URI, with the host and the port that it writes:
`[user[:password]@]name[:digits]`. -/
inductive WritesUri : List Char → List Char → Option Port → Prop
  | intro {start host ending : List Char} {port : Option Port} (user : UserPart Letter start)
      (isName : IsWord Letter nameMarks host) (part : PortPart ending port) :
      WritesUri (start ++ (host ++ ending)) host port

inductive WritesSource : List Char → List Char → Option PortPattern → Prop
  | intro {host ending : List Char} {port : Option PortPattern} (pattern : HostPattern Letter host)
      (part : PortPatternPart ending port) : WritesSource (host ++ ending) host port

end Grammar

theorem isNameChar_iff_class (c : Char) :
    isNameChar c = true ↔ FoldedLetter c ∨ c.isDigit = true ∨ c ∈ nameMarks := by
  simp only [isNameChar, Char.isAlphanum, FoldedLetter, nameMarks, Bool.or_eq_true,
    decide_eq_true_eq, List.mem_cons, List.not_mem_nil]
  grind

theorem isUserChar_iff_class (c : Char) :
    isUserChar c = true ↔ FoldedLetter c ∨ c.isDigit = true ∨ c ∈ userMarks := by
  have spelled : isUserChar c = (c.isAlphanum || isCaseVariant c || userMarks.contains c) := rfl
  rw [spelled, Bool.or_eq_true, Bool.or_eq_true, List.contains_iff_mem]
  simp only [Char.isAlphanum, FoldedLetter, Bool.or_eq_true]
  grind

theorem isName_iff (cs : List Char) : isName cs = true ↔ IsWord FoldedLetter nameMarks cs := by
  simp [isName, IsWord, isNameChar_iff_class]

theorem isUserWord_iff (cs : List Char) :
    isUserWord cs = true ↔ IsWord FoldedLetter userMarks cs := by
  simp [isUserWord, IsWord, isUserChar_iff_class]

theorem isUserWord_clear {cs : List Char} (isWord : isUserWord cs = true) {c : Char}
    (member : c ∈ cs) : c ≠ ':' ∧ c ≠ '@' := by
  rw [isUserWord, Bool.and_eq_true] at isWord
  have holds := List.all_eq_true.mp isWord.2 c member
  constructor
  · rintro rfl
    exact absurd holds (by decide)
  · rintro rfl
    exact absurd holds (by decide)

theorem isUserInfo_clear {info : List Char} (isInfo : isUserInfo info = true) :
    ∀ c ∈ info, c ≠ '@' := by
  rw [isUserInfo] at isInfo
  intro c member
  split at isInfo
  · exact (isUserWord_clear isInfo member).2
  · rename_i user password cut
    rw [Bool.and_eq_true] at isInfo
    obtain ⟨mark, colon, rfl, _⟩ := cut?_eq_some cut
    rcases List.mem_append.mp member with inside | later
    · exact (isUserWord_clear isInfo.1 inside).2
    · rcases List.mem_cons.mp later with rfl | inside
      · obtain rfl : c = ':' := of_decide_eq_true colon
        decide
      · exact (isUserWord_clear isInfo.2 inside).2

theorem userPart_of_isUserInfo {info : List Char} (isInfo : isUserInfo info = true) :
    UserPart FoldedLetter (info ++ ['@']) := by
  rw [isUserInfo] at isInfo
  split at isInfo
  · exact .user ((isUserWord_iff _).mp isInfo)
  · rename_i user password cut
    rw [Bool.and_eq_true] at isInfo
    obtain ⟨mark, colon, rfl, _⟩ := cut?_eq_some cut
    obtain rfl : mark = ':' := of_decide_eq_true colon
    exact .password ((isUserWord_iff _).mp isInfo.1) ((isUserWord_iff _).mp isInfo.2)

theorem UserPart.cases {start : List Char} (part : UserPart FoldedLetter start) :
    start = [] ∨ ∃ info, start = info ++ ['@'] ∧ isUserInfo info = true := by
  cases part with
  | nobody => exact .inl rfl
  | @user user isUser =>
      have isWord := (isUserWord_iff user).mpr isUser
      have uncut : cut? (fun c => decide (c = ':')) user = none :=
        cut?_none fun c member => decide_eq_false (isUserWord_clear isWord member).1
      refine .inr ⟨user, rfl, ?_⟩
      rw [isUserInfo, uncut]
      exact isWord
  | @password user password isUser isPassword =>
      have isWord := (isUserWord_iff user).mpr isUser
      have cut : cut? (fun c => decide (c = ':')) (user ++ ':' :: password) =
          some (user, password) :=
        cut?_append (fun c member => decide_eq_false (isUserWord_clear isWord member).1) (by decide)
      refine .inr ⟨user ++ ':' :: password, rfl, ?_⟩
      rw [isUserInfo, cut]
      exact Bool.and_eq_true_iff.mpr ⟨isWord, (isUserWord_iff password).mpr isPassword⟩

def portEnding : Option (List Char) → List Char
  | none => []
  | some port => ':' :: port

theorem hostAndPort?_eq_some_iff {isHost isPort : List Char → Bool}
    (clear : ∀ host, isHost host = true → ∀ c ∈ host, c ≠ ':') {cs : List Char} {a : Authority} :
    hostAndPort? isHost isPort cs = some a ↔
      isHost a.host = true ∧ (∀ port ∈ a.port, isPort port = true) ∧
        cs = a.host ++ portEnding a.port := by
  constructor
  · intro found
    rw [hostAndPort?] at found
    split at found
    · split at found
      · rename_i holds
        cases found
        refine ⟨holds, fun port written => ?_, (List.append_nil cs).symm⟩
        cases written
      · cases found
    · rename_i host port cut
      split at found
      · rename_i both
        cases found
        rw [Bool.and_eq_true] at both
        obtain ⟨mark, colon, whole, _⟩ := cut?_eq_some cut
        obtain rfl : mark = ':' := of_decide_eq_true colon
        refine ⟨both.1, fun written given => ?_, whole⟩
        exact Option.some.inj given ▸ both.2
      · cases found
  · obtain ⟨host, port⟩ := a
    rintro ⟨holds, isPort, rfl⟩
    cases port with
    | none =>
        rw [portEnding, List.append_nil]
        exact hostAndPort?_host holds (clear host holds)
    | some port => exact hostAndPort?_port holds (clear host holds) (isPort port rfl)

theorem mem_portEnding {port : Option (List Char)} (isPort : ∀ digits ∈ port, isDigits digits = true)
    {c : Char} (member : c ∈ portEnding port) : c = ':' ∨ c.isDigit = true := by
  cases port with
  | none => cases member
  | some digits =>
      have run := isPort digits rfl
      rw [isDigits, Bool.and_eq_true] at run
      rcases List.mem_cons.mp member with colon | inside
      · exact .inl colon
      · exact .inr (List.all_eq_true.mp run.2 c inside)

theorem mem_hostAndPort {host : List Char} {port : Option (List Char)} (named : isName host = true)
    (isPort : ∀ digits ∈ port, isDigits digits = true) {c : Char}
    (member : c ∈ host ++ portEnding port) :
    isBlank c = false ∧ c ≠ '@' ∧ UriParts.endsAuthority c = false :=
  isName_port_clear named (fun _ => mem_portEnding isPort) member

theorem ofUri?_eq_some_iff {cs : List Char} {a : Authority} :
    ofUri? cs = some a ↔
      ∃ start, UserPart FoldedLetter start ∧ isName a.host = true ∧
        (∀ port ∈ a.port, isDigits port = true) ∧
          cs = start ++ (a.host ++ portEnding a.port) := by
  have clear : ∀ host, isName host = true → ∀ c ∈ host, c ≠ ':' :=
    fun host named c member => (isName_clear named member).2.1
  constructor
  · intro found
    rw [ofUri?] at found
    split at found
    · obtain ⟨named, isPort, whole⟩ := (hostAndPort?_eq_some_iff clear).mp found
      exact ⟨[], .nobody, named, isPort, whole⟩
    · rename_i info rest cut
      split at found
      · rename_i isInfo
        obtain ⟨named, isPort, rfl⟩ := (hostAndPort?_eq_some_iff clear).mp found
        obtain ⟨mark, sign, whole, _⟩ := cut?_eq_some cut
        obtain rfl : mark = '@' := of_decide_eq_true sign
        exact ⟨info ++ ['@'], userPart_of_isUserInfo isInfo, named, isPort, by simp [whole]⟩
      · cases found
  · rintro ⟨start, user, named, isPort, rfl⟩
    have written := (hostAndPort?_eq_some_iff clear).mpr ⟨named, isPort, rfl⟩
    rcases user.cases with rfl | ⟨info, rfl, isInfo⟩
    -- Neither a name nor a port holds the sign that would set off a user.
    · have noUser : cut? (fun c => decide (c = '@')) (a.host ++ portEnding a.port) = none := by
        exact cut?_none fun c member => decide_eq_false (mem_hostAndPort named isPort member).2.1
      rw [List.nil_append, ofUri?, noUser]
      exact written
    · have cut : cut? (fun c => decide (c = '@'))
          ((info ++ ['@']) ++ (a.host ++ portEnding a.port)) =
            some (info, a.host ++ portEnding a.port) := by
        rw [List.append_assoc]
        exact cut?_append (fun c member => decide_eq_false (isUserInfo_clear isInfo c member))
          (by decide)
      rw [ofUri?, cut]
      simp only [isInfo, if_true]
      exact written

theorem ofDigits?_eq_some_iff {digits : List Char} {port : Port} :
    Port.ofDigits? digits = some port ↔ decimalValue digits = port.toNat := by
  simp only [Port.ofDigits?]
  constructor
  · intro found
    split at found
    · rename_i small
      rw [← Option.some.inj found, UInt16.toNat_ofNat_of_lt' small]
    · cases found
  · intro value
    rw [value, if_pos port.toNat_lt, UInt16.ofNat_toNat]

theorem portPart_iff {ending : List Char} {port : Option Port} :
    PortPart ending port ↔
      ∃ written, ending = portEnding written ∧ (∀ digits ∈ written, isDigits digits = true) ∧
        UriParser.readPort? written = some port := by
  constructor
  · rintro (_ | ⟨given, all, value⟩)
    · exact ⟨none, rfl, nofun, rfl⟩
    · rename_i digits port
      refine ⟨some digits, rfl, ?_, ?_⟩
      · rintro _ ⟨⟩
        simpa [isDigits, given] using all
      · rw [UriParser.readPort?, ofDigits?_eq_some_iff.mpr value]
        rfl
  · rintro ⟨written, rfl, isPort, read⟩
    cases written with
    | none =>
        cases read
        exact .absent
    | some digits =>
        obtain ⟨port, value, rfl⟩ := Option.map_eq_some_iff.mp read
        have run := isPort digits rfl
        simp only [isDigits, Bool.and_eq_true, Bool.not_eq_true', List.isEmpty_eq_false_iff,
          List.all_eq_true] at run
        exact .digits run.1 run.2 (ofDigits?_eq_some_iff.mp value)

/-- The readers of URIs accept the authorities of the grammar over folded letters, and give the host
and the port that these write. -/
theorem writesUri_folded_iff {cs host : List Char} {port : Option Port} :
    WritesUri FoldedLetter cs host port ↔
      ∃ a, ofUri? cs = some a ∧ a.host = host ∧ UriParser.readPort? a.port = some port := by
  constructor
  · rintro ⟨user, named, part⟩
    obtain ⟨written, rfl, isPort, read⟩ := portPart_iff.mp part
    have isName := (isName_iff host).mpr named
    exact ⟨⟨host, written⟩, ofUri?_eq_some_iff.mpr ⟨_, user, isName, isPort, rfl⟩, rfl, read⟩
  · rintro ⟨a, found, rfl, read⟩
    obtain ⟨start, user, named, isPort, rfl⟩ := ofUri?_eq_some_iff.mp found
    exact .intro user ((isName_iff a.host).mp named) (portPart_iff.mpr ⟨_, rfl, isPort, read⟩)

theorem isHostPattern_iff (cs : List Char) :
    isHostPattern cs = true ↔ HostPattern FoldedLetter cs := by
  constructor
  · intro holds
    rcases isHostPattern_cases holds with rfl | ⟨name, rfl, named⟩ | named
    · exact .star
    · exact .below ((isName_iff name).mp named)
    · exact .name ((isName_iff cs).mp named)
  · rintro (_ | named | named)
    · rfl
    · exact isHostPattern_of_isName ((isName_iff _).mpr named)
    · exact (isName_iff _).mpr named

theorem readPort?_of_isDigits {written : Option (List Char)}
    (isPort : ∀ digits ∈ written, isDigits digits = true) :
    SourceParser.readPort? written =
      (UriParser.readPort? written).map (Option.map PortPattern.number) := by
  cases written with
  | none => rfl
  | some digits =>
      have notStar : digits ≠ ['*'] := by
        rintro rfl
        exact absurd (isPort ['*'] rfl) (by decide)
      simp only [SourceParser.readPort?, UriParser.readPort?, Option.map_map]
      rfl

theorem portPatternPart_iff {ending : List Char} {port : Option PortPattern} :
    PortPatternPart ending port ↔
      ∃ written, ending = portEnding written ∧ (∀ port ∈ written, isPortPattern port = true) ∧
        SourceParser.readPort? written = some port := by
  constructor
  · rintro (_ | part)
    · refine ⟨some ['*'], rfl, ?_, rfl⟩
      rintro _ ⟨⟩
      rfl
    · obtain ⟨written, rfl, isPort, read⟩ := portPart_iff.mp part
      refine ⟨written, rfl, fun digits given => ?_, ?_⟩
      · rw [isPortPattern, isPort digits given, Bool.or_true]
      · rw [readPort?_of_isDigits isPort, read]
        rfl
  · rintro ⟨written, rfl, isPort, read⟩
    by_cases star : written = some ['*']
    · subst star
      cases read
      exact .any
    · have digits : ∀ digits ∈ written, isDigits digits = true := by
        intro digits given
        have either := isPort digits given
        rw [isPortPattern, Bool.or_eq_true, decide_eq_true_eq] at either
        exact either.resolve_left fun same => star (same ▸ given)
      rw [readPort?_of_isDigits digits] at read
      obtain ⟨port, asUri, rfl⟩ := Option.map_eq_some_iff.mp read
      exact .port (portPart_iff.mpr ⟨written, rfl, digits, asUri⟩)

theorem writesSource_folded_iff {cs host : List Char} {port : Option PortPattern} :
    WritesSource FoldedLetter cs host port ↔
      ∃ a, ofSource? cs = some a ∧ a.host = host ∧ SourceParser.readPort? a.port = some port := by
  have clear : ∀ host, isHostPattern host = true → ∀ c ∈ host, c ≠ ':' :=
    fun host holds c member => (isNameChar_clear (mem_isHostPattern holds member)).2.2.1
  constructor
  · rintro ⟨pattern, part⟩
    obtain ⟨written, rfl, isPort, read⟩ := portPatternPart_iff.mp part
    have isHost := (isHostPattern_iff host).mpr pattern
    exact ⟨⟨host, written⟩, (hostAndPort?_eq_some_iff clear).mpr ⟨isHost, isPort, rfl⟩, rfl, read⟩
  · rintro ⟨a, found, rfl, read⟩
    obtain ⟨holds, isPort, rfl⟩ := (hostAndPort?_eq_some_iff clear).mp found
    exact .intro ((isHostPattern_iff a.host).mp holds)
      (portPatternPart_iff.mpr ⟨_, rfl, isPort, read⟩)

section Letters

variable {Letter Letter' : Char → Prop} {cs host ending marks start : List Char} {c : Char}

theorem IsWord.imp (wider : ∀ c ∈ cs, Letter c → Letter' c) (isWord : IsWord Letter marks cs) :
    IsWord Letter' marks cs :=
  ⟨isWord.1, fun c member => (isWord.2 c member).imp_left (wider c member)⟩

theorem UserPart.imp (wider : ∀ c ∈ start, Letter c → Letter' c) (part : UserPart Letter start) :
    UserPart Letter' start := by
  cases part with
  | nobody => exact .nobody
  | user isUser => exact .user (isUser.imp fun c member => wider c (by simp [member]))
  | password isUser isPassword =>
      exact .password (isUser.imp fun c member => wider c (by simp [member]))
        (isPassword.imp fun c member => wider c (by simp [member]))

theorem HostPattern.imp (wider : ∀ c ∈ host, Letter c → Letter' c)
    (pattern : HostPattern Letter host) : HostPattern Letter' host := by
  cases pattern with
  | star => exact .star
  | name isName => exact .name (isName.imp wider)
  | below isName => exact .below (isName.imp fun c member => wider c (by simp [member]))

theorem WritesUri.imp {port : Option Port} (wider : ∀ c ∈ cs, Letter c → Letter' c)
    (writes : WritesUri Letter cs host port) : WritesUri Letter' cs host port := by
  obtain ⟨user, isName, part⟩ := writes
  exact .intro (user.imp fun c member => wider c (by simp [member]))
    (isName.imp fun c member => wider c (by simp [member])) part

theorem WritesSource.imp {port : Option PortPattern} (wider : ∀ c ∈ cs, Letter c → Letter' c)
    (writes : WritesSource Letter cs host port) : WritesSource Letter' cs host port := by
  obtain ⟨pattern, part⟩ := writes
  exact .intro (pattern.imp fun c member => wider c (by simp [member])) part

theorem isCaseVariant_iff : isCaseVariant c = true ↔ c = '\u017F' ∨ c = '\u212A' := by
  rw [isCaseVariant, Bool.or_eq_true, decide_eq_true_eq, decide_eq_true_eq]

theorem not_isCaseVariant {holds : Char → Bool} (long : holds '\u017F' = false)
    (kelvin : holds '\u212A' = false) (inClass : holds c = true) : isCaseVariant c = false := by
  refine Bool.eq_false_iff.mpr fun variant => ?_
  rcases isCaseVariant_iff.mp variant with rfl | rfl
  · exact Bool.false_ne_true (long.symm.trans inClass)
  · exact Bool.false_ne_true (kelvin.symm.trans inClass)

theorem not_isCaseVariant_of_isDigit (digit : c.isDigit = true) : isCaseVariant c = false :=
  not_isCaseVariant (by decide) (by decide) digit

theorem AsciiLetter.not_isCaseVariant (letter : AsciiLetter c) : isCaseVariant c = false :=
  Authority.not_isCaseVariant (by decide) (by decide) letter

theorem nameMarks_plain : ∀ c ∈ nameMarks, isCaseVariant c = false := fun _ mark =>
  not_isCaseVariant (by decide) (by decide) (List.contains_iff_mem.mpr mark)

theorem userMarks_plain : ∀ c ∈ userMarks, isCaseVariant c = false := fun _ mark =>
  not_isCaseVariant (by decide) (by decide) (List.contains_iff_mem.mpr mark)

theorem IsWord.mem (plain : ∀ c ∈ marks, isCaseVariant c = false)
    (isWord : IsWord Letter marks cs) (member : c ∈ cs) : Letter c ∨ isCaseVariant c = false := by
  rcases isWord.2 c member with letter | digit | mark
  · exact .inl letter
  · exact .inr (not_isCaseVariant_of_isDigit digit)
  · exact .inr (plain c mark)

theorem UserPart.mem (part : UserPart Letter start) (member : c ∈ start) :
    Letter c ∨ isCaseVariant c = false := by
  cases part with
  | nobody => cases member
  | user isUser =>
      rcases List.mem_append.mp member with inside | sign
      · exact isUser.mem userMarks_plain inside
      · cases List.mem_singleton.mp sign
        exact .inr (by decide)
  | password isUser isPassword =>
      simp only [List.mem_append, List.mem_cons, List.not_mem_nil, or_false] at member
      rcases member with (inside | rfl | inside) | rfl
      · exact isUser.mem userMarks_plain inside
      · exact .inr (by decide)
      · exact isPassword.mem userMarks_plain inside
      · exact .inr (by decide)

theorem PortPart.mem {port : Option Port} (part : PortPart ending port) (member : c ∈ ending) :
    isCaseVariant c = false := by
  cases part with
  | absent => cases member
  | digits given all value =>
      rcases List.mem_cons.mp member with rfl | inside
      · decide
      · exact not_isCaseVariant_of_isDigit (all c inside)

theorem PortPatternPart.mem {port : Option PortPattern} (part : PortPatternPart ending port)
    (member : c ∈ ending) : isCaseVariant c = false := by
  cases part with
  | any =>
      simp only [List.mem_cons, List.not_mem_nil, or_false] at member
      rcases member with rfl | rfl
      · decide
      · decide
  | port part => exact part.mem member

theorem HostPattern.mem (pattern : HostPattern Letter host) (member : c ∈ host) :
    Letter c ∨ isCaseVariant c = false := by
  cases pattern with
  | star =>
      cases List.mem_singleton.mp member
      exact .inr (by decide)
  | name isName => exact isName.mem nameMarks_plain member
  | below isName =>
      simp only [List.mem_cons] at member
      rcases member with rfl | rfl | inside
      · exact .inr (by decide)
      · exact .inr (by decide)
      · exact isName.mem nameMarks_plain inside

theorem WritesUri.mem {port : Option Port} (writes : WritesUri Letter cs host port)
    (member : c ∈ cs) : Letter c ∨ isCaseVariant c = false := by
  obtain ⟨user, isName, part⟩ := writes
  rcases List.mem_append.mp member with inside | later
  · exact user.mem inside
  · rcases List.mem_append.mp later with inside | inside
    · exact isName.mem nameMarks_plain inside
    · exact .inr (part.mem inside)

theorem WritesSource.mem {port : Option PortPattern} (writes : WritesSource Letter cs host port)
    (member : c ∈ cs) : Letter c ∨ isCaseVariant c = false := by
  obtain ⟨pattern, part⟩ := writes
  rcases List.mem_append.mp member with inside | inside
  · exact pattern.mem inside
  · exact .inr (part.mem inside)

/-- Of what folded letters write, ASCII letters write what holds no case variant. -/
theorem ascii_iff_folded {Writes : (Char → Prop) → Prop}
    (imp : ∀ {L L' : Char → Prop}, (∀ c ∈ cs, L c → L' c) → Writes L → Writes L')
    (mem : ∀ {L : Char → Prop}, Writes L → ∀ c ∈ cs, L c ∨ isCaseVariant c = false) :
    Writes AsciiLetter ↔ Writes FoldedLetter ∧ ∀ c ∈ cs, isCaseVariant c = false := by
  constructor
  · intro writes
    refine ⟨imp (fun c _ letter => .inl letter) writes, fun c member => ?_⟩
    exact (mem writes c member).elim AsciiLetter.not_isCaseVariant id
  · rintro ⟨writes, plain⟩
    exact imp (fun c member letter =>
      letter.resolve_right (Bool.eq_false_iff.mp (plain c member))) writes

theorem writesUri_ascii_iff {port : Option Port} :
    WritesUri AsciiLetter cs host port ↔
      WritesUri FoldedLetter cs host port ∧ ∀ c ∈ cs, isCaseVariant c = false :=
  ascii_iff_folded WritesUri.imp fun writes _ member => writes.mem member

theorem writesSource_ascii_iff {port : Option PortPattern} :
    WritesSource AsciiLetter cs host port ↔
      WritesSource FoldedLetter cs host port ∧ ∀ c ∈ cs, isCaseVariant c = false :=
  ascii_iff_folded WritesSource.imp fun writes _ member => writes.mem member

end Letters

end Authority

end ContentPolicy
