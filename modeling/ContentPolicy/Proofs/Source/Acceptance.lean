import ContentPolicy.Proofs.Source.Matching
import ContentPolicy.Proofs.Source.Rereading
import ContentPolicy.Proofs.Uri.Grammar

/-!
What the readers accept after a scheme and two slashes: the authorities of the grammar over folded
letters, and nothing else. So the readers keep to the grammar over ASCII wherever a text that they
accept holds neither of the two case variants, and there alone.
-/

namespace ContentPolicy

open Text Authority

/-- Whether the reader takes an authority for what the grammar over the given letters says that it
writes, and rejects what the grammar does not have. -/
def UriParser.FollowsGrammar (p : UriParser) (Letter : Char → Prop) (scheme authority : String) :
    Prop :=
  ∀ u, u.isRegular = true →
    (p.parse (scheme ++ "://" ++ authority) = u ↔
      ∃ host port, WritesUri Letter authority.toList host port ∧
        u = .regular ⟨scheme, String.ofList (lower host), port, "", ""⟩)

def SourceParser.FollowsGrammar (p : SourceParser) (Letter : Char → Prop)
    (scheme authority : String) : Prop :=
  ∀ s, s.isInvalid = false →
    (p.parse (scheme ++ "://" ++ authority) = s ↔
      ∃ host port, WritesSource Letter authority.toList host port ∧
        s = .uri ⟨scheme, String.ofList (lower host), port, ""⟩)

/-- A reader that accepts what a wide grammar writes accepts what a narrower one does exactly when
the narrower one has whatever is accepted. -/
theorem accepts_narrow_iff {Result Port : Type} {Accepted : Result → Prop}
    {Wide Narrow : List Char → Port → Prop} {made : List Char → Port → Result} {Plain : Prop}
    {result : Result} (narrow : ∀ host port, Narrow host port ↔ Wide host port ∧ Plain)
    (wide : ∀ r, Accepted r → (result = r ↔ ∃ host port, Wide host port ∧ r = made host port)) :
    (∀ r, Accepted r → (result = r ↔ ∃ host port, Narrow host port ∧ r = made host port)) ↔
      (Accepted result → Plain) := by
  simp only [narrow]
  constructor
  · intro narrowly accepted
    obtain ⟨_, _, ⟨_, plain⟩, _⟩ := (narrowly result accepted).mp rfl
    exact plain
  · intro plain r accepted
    rw [wide r accepted]
    constructor
    · rintro ⟨host, port, writes, rfl⟩
      have same := (wide _ accepted).mpr ⟨host, port, writes, rfl⟩
      exact ⟨host, port, ⟨writes, plain (same ▸ accepted)⟩, rfl⟩
    · rintro ⟨host, port, ⟨writes, _⟩, rfl⟩
      exact ⟨host, port, writes, rfl⟩

section Authorities

variable {known : SchemePorts} {scheme : String} {cs : List Char}

theorem Reference.ofText_of_authority (named : known.Named)
    (authority? : List Char → Option Authority) (isName : Scheme.isName scheme = true)
    (slashes : Scheme.hasNoSlashes scheme = false) (notEmpty : cs ≠ [])
    (clear : ∀ c ∈ cs, UriParts.endsAuthority c = false)
    (last : ∀ c ∈ cs.getLast?, isBlank c = false) :
    ofText known authority? (scheme.toList ++ ':' :: '/' :: '/' :: cs) =
      refer authority? (some scheme) ⟨scheme, cs, [], []⟩ := by
  have trimmed := SourceParser.trim_data isName cs
  rw [rdropWhile_of_last last] at trimmed
  have refers : ofText known authority? (scheme.toList ++ ':' :: '/' :: '/' :: (cs ++ [])) =
      refer authority? (some scheme) ⟨scheme, cs, [], []⟩ :=
    ofText_of_scheme named authority? isName slashes notEmpty clear nofun nofun
      (by rw [List.append_nil, trimmed])
  rwa [List.append_nil] at refers

theorem UriParser.read_authority_iff {p : UriParser} (named : p.schemePorts.Named)
    (isName : Scheme.isName scheme = true) (slashes : Scheme.hasNoSlashes scheme = false)
    (notEmpty : cs ≠ []) (clear : ∀ c ∈ cs, UriParts.endsAuthority c = false)
    (last : ∀ c ∈ cs.getLast?, isBlank c = false) {l : Location} :
    p.read (scheme.toList ++ ':' :: '/' :: '/' :: cs) = .regular l ↔
      ∃ host port, WritesUri FoldedLetter cs host port ∧
        l = ⟨scheme, String.ofList (lower host), p.fillPort (some scheme) port, "", ""⟩ := by
  have noPath : p.decodePath? [] = some "" := by
    rw [decodePath?]
    exact ite_eq_left_iff.mpr fun _ => rfl
  rw [read, Reference.ofText_of_authority named _ isName slashes notEmpty clear last,
    Reference.refer]
  simp only [writesUri_folded_iff]
  cases written : ofUri? cs with
  | none => simp
  | some a =>
      cases port : readPort? a.port with
      | none => simp [readLocated?, port]
      | some port' => simp [readLocated?, port, noPath, fillScheme, eq_comm]

theorem SourceParser.read_authority_iff (named : known.Named)
    (isKnown : known.contains scheme = true) (slashes : Scheme.hasNoSlashes scheme = false)
    (notEmpty : cs ≠ []) (clear : ∀ c ∈ cs, UriParts.endsAuthority c = false)
    (last : ∀ c ∈ cs.getLast?, isBlank c = false) {s : Source} (valid : s.isInvalid = false) :
    (SourceParser.mk known).read (scheme.toList ++ ':' :: '/' :: '/' :: cs) = s ↔
      ∃ host port, WritesSource FoldedLetter cs host port ∧
        s = .uri ⟨scheme, String.ofList (lower host), port, ""⟩ := by
  have isName := named scheme isKnown
  have trimmed := trim_data isName cs
  rw [rdropWhile_of_last last] at trimmed
  have notInvalid : Source.invalid ≠ s := by
    rintro rfl
    cases valid
  have decoded : Percent.decode "" = some "" := rfl
  have made (host : List Char) (port : Option PortPattern) :
      UriPattern.make scheme (String.ofList (lower host)) port "" =
        ⟨scheme, String.ofList (lower host), port, ""⟩ :=
    UriPattern.make_of_lowered (Scheme.isName_toLower isName) (by simp [lower_lower]) port ""
  rw [read_of_trimmed _ trimmed (UriPattern.head?_scheme isName _)
      (ne_star_of_mem ':' (by simp) (by decide)),
    Reference.ofText_of_authority named _ isName slashes notEmpty clear last, Reference.refer]
  simp only [writesSource_folded_iff]
  cases written : ofSource? cs with
  | none => simpa [ofReference] using notInvalid
  | some a =>
      cases port : readPort? a.port with
      | none => simpa [ofReference, readLocated?_some, port, isKnown] using notInvalid
      | some port' =>
          simp [ofReference, readLocated?_some, port, isKnown, decoded, made, eq_comm]

theorem toList_authority (scheme text : String) :
    (scheme ++ "://" ++ text).toList = scheme.toList ++ ':' :: '/' :: '/' :: text.toList := by
  simp

theorem endsAuthority_clear {c : Char} (clear : c ≠ '/' ∧ c ≠ '?' ∧ c ≠ '#') :
    UriParts.endsAuthority c = false := by
  simp [UriParts.endsAuthority, clear]

theorem UriParser.followsGrammar_folded {p : UriParser} (named : p.schemePorts.Named)
    (asWritten : p.addPort = false) (isName : Scheme.isName scheme = true)
    (slashes : Scheme.hasNoSlashes scheme = false) {text : String} (notEmpty : text ≠ "")
    (clear : ∀ c ∈ text.toList, c ≠ '/' ∧ c ≠ '?' ∧ c ≠ '#')
    (last : ∀ c ∈ text.toList.getLast?, isBlank c = false) :
    p.FollowsGrammar FoldedLetter scheme text := by
  have filled (port : Option Port) : p.fillPort (some scheme) port = port := by
    cases port with
    | none => rw [fillPort, asWritten, if_neg Bool.false_ne_true]
    | some port => rfl
  intro u regular
  obtain ⟨l, rfl⟩ := Uri.isRegular_iff.mp regular
  rw [parse, toList_authority, read_authority_iff named isName slashes (by simpa using notEmpty)
    (fun c member => endsAuthority_clear (clear c member)) last]
  simp only [filled, Uri.regular.injEq]

theorem SourceParser.followsGrammar_folded (named : known.Named)
    (isKnown : known.contains scheme = true) (slashes : Scheme.hasNoSlashes scheme = false)
    {text : String} (notEmpty : text ≠ "")
    (clear : ∀ c ∈ text.toList, c ≠ '/' ∧ c ≠ '?' ∧ c ≠ '#')
    (last : ∀ c ∈ text.toList.getLast?, isBlank c = false) :
    (SourceParser.mk known).FollowsGrammar FoldedLetter scheme text := by
  intro s valid
  rw [parse, toList_authority]
  exact read_authority_iff named isKnown slashes (by simpa using notEmpty)
    (fun c member => endsAuthority_clear (clear c member)) last valid

theorem UriParser.followsGrammar_ascii_iff {p : UriParser} {text : String}
    (folded : p.FollowsGrammar FoldedLetter scheme text) :
    p.FollowsGrammar AsciiLetter scheme text ↔
      ((p.parse (scheme ++ "://" ++ text)).isRegular = true →
        ∀ c ∈ text.toList, isCaseVariant c = false) :=
  accepts_narrow_iff (fun _ _ => writesUri_ascii_iff) folded

theorem SourceParser.followsGrammar_ascii_iff {p : SourceParser} {text : String}
    (folded : p.FollowsGrammar FoldedLetter scheme text) :
    p.FollowsGrammar AsciiLetter scheme text ↔
      ((p.parse (scheme ++ "://" ++ text)).isInvalid = false →
        ∀ c ∈ text.toList, isCaseVariant c = false) :=
  accepts_narrow_iff (fun _ _ => writesSource_ascii_iff) folded

end Authorities

/-- The standard readers follow the grammar over folded letters. They follow that over ASCII just
where what they accept holds no case variant. -/
theorem followsGrammar_iff {text : String} (notEmpty : text ≠ "")
    (clear : ∀ c ∈ text.toList, c ≠ '/' ∧ c ≠ '?' ∧ c ≠ '#')
    (last : ∀ c ∈ text.toList.getLast?, isBlank c = false) :
    (UriParser.standard.FollowsGrammar FoldedLetter "http" text ∧
      SourceParser.standard.FollowsGrammar FoldedLetter "https" text) ∧
    (UriParser.standard.FollowsGrammar AsciiLetter "http" text ↔
      ((UriParser.standard.parse ("http://" ++ text)).isRegular = true →
        ∀ c ∈ text.toList, isCaseVariant c = false)) ∧
    (SourceParser.standard.FollowsGrammar AsciiLetter "https" text ↔
      ((SourceParser.standard.parse ("https://" ++ text)).isInvalid = false →
        ∀ c ∈ text.toList, isCaseVariant c = false)) := by
  have uri : UriParser.standard.FollowsGrammar FoldedLetter "http" text :=
    UriParser.followsGrammar_folded SchemePorts.standard_named rfl (by decide) (by decide) notEmpty
      clear last
  have source : SourceParser.standard.FollowsGrammar FoldedLetter "https" text :=
    SourceParser.followsGrammar_folded SchemePorts.standard_named (by decide +kernel) (by decide)
      notEmpty clear last
  exact ⟨⟨uri, source⟩, UriParser.followsGrammar_ascii_iff uri,
    SourceParser.followsGrammar_ascii_iff source⟩

theorem followsGrammar_padded_port :
    UriParser.standard.parse "http://Example.org:080" =
      .regular ⟨"http", "example.org", some 80, "", ""⟩ ∧
    SourceParser.standard.parse "https://Example.org:080" =
      .uri ⟨"https", "example.org", some (.number 80), ""⟩ ∧
    UriParser.standard.FollowsGrammar AsciiLetter "http" "Example.org:080" ∧
    SourceParser.standard.FollowsGrammar AsciiLetter "https" "Example.org:080" := by
  have plain : ∀ c ∈ "Example.org:080".toList, isCaseVariant c = false := by simp [isCaseVariant]
  have clear : ∀ c ∈ "Example.org:080".toList, c ≠ '/' ∧ c ≠ '?' ∧ c ≠ '#' := by simp
  have last : ∀ c ∈ "Example.org:080".toList.getLast?, isBlank c = false := by
    simpa using (by decide : isBlank '0' = false)
  have parsed : UriParser.standard.parse "http://Example.org:080" =
        .regular ⟨"http", "example.org", some 80, "", ""⟩ ∧
      SourceParser.standard.parse "https://Example.org:080" =
        .uri ⟨"https", "example.org", some (.number 80), ""⟩ := by decide +kernel
  obtain ⟨_, uri, source⟩ := followsGrammar_iff (by decide) clear last
  exact ⟨parsed.1, parsed.2, uri.mpr fun _ => plain, source.mpr fun _ => plain⟩

/-- The long s differs in case alone from a letter of ASCII and is taken for one. -/
theorem not_followsGrammar_long_s :
    ("\u017F" ≠ "" ∧ (∀ c ∈ "\u017F".toList, c ≠ '/' ∧ c ≠ '?' ∧ c ≠ '#') ∧
      ∀ c ∈ "\u017F".toList.getLast?, isBlank c = false) ∧
    ¬UriParser.standard.FollowsGrammar AsciiLetter "http" "\u017F" ∧
    ¬SourceParser.standard.FollowsGrammar AsciiLetter "https" "\u017F" := by
  have variant : ¬∀ c ∈ "\u017F".toList, isCaseVariant c = false := by simp [isCaseVariant]
  have last : ∀ c ∈ "\u017F".toList.getLast?, isBlank c = false := by
    simpa using (by decide : isBlank '\u017F' = false)
  obtain ⟨asUri, asSource⟩ : UriParser.standard.parse ("http" ++ "://" ++ "\u017F") =
        .regular ⟨"http", "\u017F", none, "", ""⟩ ∧
      SourceParser.standard.parse ("https" ++ "://" ++ "\u017F") =
        .uri ⟨"https", "\u017F", none, ""⟩ := by decide +kernel
  refine ⟨⟨by decide, by simp, last⟩, fun follows => ?_, fun follows => ?_⟩
  · obtain ⟨_, _, writes, _⟩ := (follows _ rfl).mp asUri
    exact variant (writesUri_ascii_iff.mp writes).2
  · obtain ⟨_, _, writes, _⟩ := (follows _ rfl).mp asSource
    exact variant (writesSource_ascii_iff.mp writes).2

end ContentPolicy
