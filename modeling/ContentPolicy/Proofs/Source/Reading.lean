import ContentPolicy.Proofs.Percent.Segments
import ContentPolicy.Proofs.Uri.Authority
import ContentPolicy.Proofs.Uri.Reference

/-!
The patterns that reading a source gives: a known scheme, the data of a scheme without slashes, or a
host with what stands around it. No other pattern is ever read.
-/

namespace ContentPolicy

namespace UriPattern

/-- The patterns that reading gives when the given schemes are known. -/
inductive Readable (known : SchemePorts) : UriPattern → Prop
  | scheme {name : String} (isKnown : known.contains name = true) :
      Readable known ⟨name, "", none, ""⟩
  | data {scheme data : String} (isKnown : known.contains scheme = true)
      (noSlashes : Scheme.hasNoSlashes scheme = true) (notEmpty : data ≠ "")
      (lowered : Text.lower data.toList = data.toList)
      (clear : ∀ c ∈ data.toList, c ≠ '?' ∧ c ≠ '#') :
      Readable known ⟨scheme, data, none, ""⟩
  | located {scheme host : String} {port : Option PortPattern} {path : String}
      (isKnown : scheme = "" ∨
        known.contains scheme = true ∧ Scheme.hasNoSlashes scheme = false)
      (isHost : Authority.isHostPattern host.toList = true)
      (lowered : Text.lower host.toList = host.toList)
      (rooted : ∀ c ∈ path.toList.head?, c = '/') :
      Readable known ⟨scheme, host, port, path⟩

theorem any_eq : any = ⟨"", "*", none, ""⟩ := by decide +kernel

theorem readable_any (known : SchemePorts) : Readable known any :=
  any_eq ▸ .located (.inl rfl) rfl rfl (fun _ absent => nomatch absent)

/-- The host of a pattern holds nothing that cuts a policy. -/
def HostIsToken (p : UriPattern) : Prop :=
  ∀ c ∈ p.host.toList, Text.isBlank c = false ∧ c ≠ ';'

theorem hostIsToken_of_isHost {p : UriPattern}
    (isHost : Authority.isHostPattern p.host.toList = true) : p.HostIsToken := by
  intro c member
  have clear := Authority.isNameChar_clear (Authority.mem_isHostPattern isHost member)
  exact ⟨clear.1, clear.2.1⟩

end UriPattern

namespace SourceParser

open UriPattern

theorem keyword?_pattern {word : List Char} {p : UriPattern}
    (found : keyword? word = some (.uri p)) : p = UriPattern.any := by
  rw [keyword?] at found
  split at found
  · cases found
  · split at found
    · cases found
    · split at found
      · cases found
      · split at found
        · cases found
          rfl
        · cases found

theorem toLower_empty : "".toLower = "" := by decide +kernel

theorem ofScheme_eq {name : String} (named : Scheme.isName name = true) :
    UriPattern.ofScheme name = ⟨name, "", none, ""⟩ := by
  rw [UriPattern.ofScheme, UriPattern.make, Scheme.isName_toLower named, toLower_empty]

theorem make_readable_data {known : SchemePorts} (named : known.Named) {scheme data : String}
    (isKnown : known.contains scheme = true) (noSlashes : Scheme.hasNoSlashes scheme = true)
    (clear : ∀ c ∈ data.toList, c ≠ '?' ∧ c ≠ '#') :
    Readable known (UriPattern.make scheme data none "") := by
  have lowered := Scheme.isName_toLower (named scheme isKnown)
  rw [UriPattern.make, lowered]
  by_cases empty : data = ""
  · subst empty
    rw [toLower_empty]
    exact .scheme isKnown
  · have written := Text.toList_toLower data
    refine .data isKnown noSlashes ?_ ?_ ?_
    · exact mt Text.toLower_eq_empty_iff.mp empty
    · rw [written, Text.lower_lower]
    · intro c member
      rw [written] at member
      obtain ⟨d, inside, rfl⟩ := List.mem_map.mp member
      have kept := clear d inside
      exact ⟨mt (Text.toLower_eq_iff (.inl (by decide))).mp kept.1,
        mt (Text.toLower_eq_iff (.inl (by decide))).mp kept.2⟩

theorem readLocated?_none (known : SchemePorts) (a : Authority) (path : List Char) :
    (SourceParser.mk known).readLocated? none a path =
      (readPort? a.port).bind fun port => (Percent.decode (String.ofList path)).bind fun decoded =>
        some (UriPattern.make "" (String.ofList a.host) port decoded) := rfl

theorem readLocated?_some (known : SchemePorts) (name : String) (a : Authority)
    (path : List Char) :
    (SourceParser.mk known).readLocated? (some name) a path =
      if known.contains name then
        (readPort? a.port).bind fun port =>
          (Percent.decode (String.ofList path)).bind fun decoded =>
          some (UriPattern.make name (String.ofList a.host) port decoded)
      else none := by
  by_cases isKnown : known.contains name = true
  · simp [readLocated?, isKnown]
  · simp [readLocated?, isKnown]

theorem readLocated?_cases {known : SchemePorts} {scheme : Option String} {a : Authority}
    {path : List Char} {p : UriPattern}
    (found : (SourceParser.mk known).readLocated? scheme a path = some p) :
    ∃ given port decoded,
      (scheme = none ∧ given = "" ∨ scheme = some given ∧ known.contains given = true) ∧
        Percent.decode (String.ofList path) = some decoded ∧
        p = UriPattern.make given (String.ofList a.host) port decoded := by
  cases scheme with
  | none =>
      rw [readLocated?_none] at found
      obtain ⟨port, _, rest⟩ := Option.bind_eq_some_iff.mp found
      obtain ⟨decoded, pathRead, made⟩ := Option.bind_eq_some_iff.mp rest
      exact ⟨"", port, decoded, .inl ⟨rfl, rfl⟩, pathRead, (Option.some.inj made).symm⟩
  | some name =>
      rw [readLocated?_some] at found
      split at found
      · rename_i isKnown
        obtain ⟨port, _, rest⟩ := Option.bind_eq_some_iff.mp found
        obtain ⟨decoded, pathRead, made⟩ := Option.bind_eq_some_iff.mp rest
        exact ⟨name, port, decoded, .inr ⟨rfl, isKnown⟩, pathRead, (Option.some.inj made).symm⟩
      · cases found

theorem readLocated?_readable {known : SchemePorts} (named : known.Named)
    {scheme : Option String} {a : Authority} {path : List Char} {p : UriPattern}
    (found : (SourceParser.mk known).readLocated? scheme a path = some p)
    (slashes : ∀ n ∈ scheme, Scheme.hasNoSlashes n = false)
    (isHost : Authority.isHostPattern a.host = true) (rooted : ∀ c ∈ path.head?, c = '/') :
    Readable known p := by
  obtain ⟨given, port, decoded, origin, pathRead, rfl⟩ := readLocated?_cases found
  have known_or : given = "" ∨ known.contains given = true ∧ Scheme.hasNoSlashes given = false := by
    rcases origin with ⟨_, absent⟩ | ⟨whole, isKnown⟩
    · exact .inl absent
    · exact .inr ⟨isKnown, slashes given whole⟩
  have lowered : given.toLower = given := by
    rcases known_or with rfl | ⟨isKnown, _⟩
    · exact toLower_empty
    · exact Scheme.isName_toLower (named given isKnown)
  rw [UriPattern.make, lowered]
  refine .located known_or ?_ ?_ (Percent.decode_rooted pathRead rooted)
  · rw [Text.toList_toLower, String.toList_ofList]
    exact Authority.isHostPattern_lower isHost
  · rw [Text.toList_toLower, Text.lower_lower]

/-- What reading gives is a pattern of one of the three forms, and a host that is no name stems from
the text. -/
theorem read_pattern {known : SchemePorts} (named : known.Named) {text : List Char}
    {p : UriPattern} (found : (SourceParser.mk known).read text = .uri p) :
    Readable known p ∧
      (Authority.isHostPattern p.host.toList = true ∨
        ∀ c ∈ p.host.toList, ∃ d ∈ text, d.toLower = c) := by
  have sound := Reference.ofText_sound known Authority.ofSource?_nil text
  rw [read] at found
  split at found
  · rename_i keyword
    subst found
    obtain rfl := keyword?_pattern keyword
    exact ⟨readable_any known, .inl (any_eq ▸ rfl)⟩
  · split at found
    · cases found
    · cases found
    · rename_i scheme refers
      rw [refers] at sound
      cases found
      rw [ofScheme_eq (named scheme sound)]
      exact ⟨.scheme sound, .inr fun c absent => nomatch absent⟩
    -- Only data can be a host that is no name, and they are a part of the text.
    · rename_i scheme data refers
      rw [refers] at sound
      split at found
      · rename_i isKnown
        cases found
        refine ⟨make_readable_data named isKnown sound.1 ?_, .inr ?_⟩
        · intro c member
          rw [String.toList_ofList] at member
          exact (sound.2 c member).2
        · intro c member
          rw [UriPattern.make, Text.toList_toLower, String.toList_ofList] at member
          obtain ⟨d, inside, image⟩ := List.mem_map.mp member
          exact ⟨d, (sound.2 d inside).1, image⟩
      · cases found
    · rename_i scheme a path query refers
      rw [refers] at sound
      obtain ⟨names, ⟨_, written, isSource, rfl⟩, rooted⟩ := sound
      have isHost := Authority.isHostPattern_lower (Authority.ofSource?_isHost isSource)
      split at found
      · rename_i located
        cases found
        refine ⟨
          readLocated?_readable named located (fun n given => (names n given).2) isHost rooted,
          .inl ?_⟩
        obtain ⟨_, _, _, _, _, rfl⟩ := readLocated?_cases located
        rw [UriPattern.make, Text.toList_toLower, String.toList_ofList]
        exact Authority.isHostPattern_lower isHost
      · cases found

theorem readable_of_read {known : SchemePorts} (named : known.Named) {text : List Char}
    {p : UriPattern} (found : (SourceParser.mk known).read text = .uri p) : Readable known p :=
  (read_pattern named found).1

theorem hostIsToken_of_read {known : SchemePorts} (named : known.Named) {text : List Char}
    {p : UriPattern} (token : Text.IsToken text)
    (found : (SourceParser.mk known).read text = .uri p) : p.HostIsToken := by
  rcases (read_pattern named found).2 with isHost | stems
  · exact hostIsToken_of_isHost isHost
  · intro c member
    obtain ⟨d, inside, rfl⟩ := stems c member
    have clear := token.2 d inside
    exact ⟨(Text.isBlank_toLower d).trans clear.1,
      mt (Text.toLower_eq_iff (.inl (by decide))).mp clear.2⟩

end SourceParser

def Source.Readable (known : SchemePorts) : Source → Prop
  | .uri p => p.Readable known ∧ p.HostIsToken
  | .invalid => False
  | _ => True

namespace Source

def keywords : List Source := [.self, .unsafeInline, .unsafeEval]

theorem uri_or_keyword {s : Source} (valid : s.isInvalid = false) :
    (∃ p, s = .uri p) ∨ s ∈ keywords := by
  cases s with
  | uri p => exact .inl ⟨p, rfl⟩
  | self => exact .inr (by decide)
  | unsafeInline => exact .inr (by decide)
  | unsafeEval => exact .inr (by decide)
  | invalid => cases valid

theorem Readable.valid {known : SchemePorts} {s : Source} (readable : s.Readable known) :
    s.isInvalid = false := by
  cases s with
  | invalid => exact readable.elim
  | uri p => rfl
  | self => rfl
  | unsafeInline => rfl
  | unsafeEval => rfl

end Source

theorem SourceParser.read_readable {known : SchemePorts} (named : known.Named) {word : List Char}
    (token : Text.IsToken word) (valid : ((SourceParser.mk known).read word).isInvalid = false) :
    ((SourceParser.mk known).read word).Readable known := by
  cases found : (SourceParser.mk known).read word with
  | uri p => exact ⟨readable_of_read named found, hostIsToken_of_read named token found⟩
  | self => trivial
  | unsafeInline => trivial
  | unsafeEval => trivial
  | invalid =>
      rw [found] at valid
      cases valid

end ContentPolicy
