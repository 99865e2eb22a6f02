import ContentPolicy.Proofs.Uri.Authority
import ContentPolicy.Proofs.Uri.Reference
import ContentPolicy.Uri.Parser

/-!
What a reader of URIs gives for a text that is one: a scheme of scheme characters, and a host that
is a name unless it is the data of a scheme without slashes.
-/

namespace ContentPolicy

structure Location.Readable (l : Location) : Prop where
  scheme : ∀ c ∈ l.scheme.toList, UriParts.isSchemeChar c = true
  host : Scheme.hasNoSlashes l.scheme = true ∨ l.host = "" ∨ Authority.isName l.host.toList = true

namespace UriParser

theorem isSchemeChar_of_hasNoSlashes {scheme : String}
    (noSlashes : Scheme.hasNoSlashes scheme = true) :
    ∀ c ∈ scheme.toList, UriParts.isSchemeChar c = true := by
  have all : ∀ s ∈ Scheme.withoutSlashes, s.toList.all UriParts.isSchemeChar = true := by
    decide
  exact List.all_eq_true.mp (all scheme (Scheme.hasNoSlashes_iff.mp noSlashes))

theorem readLocated?_cases {p : UriParser} {scheme : Option String} {a : Authority}
    {path query : List Char} {l : Location} (found : p.readLocated? scheme a path query = some l) :
    ∃ port decoded, readPort? a.port = some port ∧ p.decodePath? path = some decoded ∧
      l = ⟨(p.fillScheme scheme port).getD "", String.ofList a.host,
        p.fillPort (p.fillScheme scheme port) port, decoded, String.ofList query⟩ := by
  obtain ⟨port, portRead, rest⟩ := Option.bind_eq_some_iff.mp found
  obtain ⟨decoded, pathRead, made⟩ := Option.bind_eq_some_iff.mp rest
  exact ⟨port, decoded, portRead, pathRead, (Option.some.inj made).symm⟩

theorem readLocated?_readable {p : UriParser} (noScheme : p.addScheme = false)
    {scheme : Option String} {a : Authority} {path query : List Char} {l : Location}
    (names : ∀ name ∈ scheme, Scheme.isName name = true) (isName : Authority.isName a.host = true)
    (found : p.readLocated? scheme a path query = some l) : l.Readable := by
  obtain ⟨port, decoded, _, _, rfl⟩ := readLocated?_cases found
  refine ⟨?_, .inr (.inr (by simpa using isName))⟩
  cases scheme with
  | none =>
      simp only [fillScheme, noScheme]
      intro c absent
      cases absent
  | some name => exact fun c member => (Scheme.isName_chars (names name rfl) c member).1

theorem read_readable {p : UriParser} (named : p.schemePorts.Named) (noScheme : p.addScheme = false)
    {text : List Char} {l : Location} (found : p.read text = .regular l) : l.Readable := by
  have sound := Reference.ofText_sound p.schemePorts Authority.ofUri?_nil text
  rw [read] at found
  split at found
  · cases found
  · cases found
  · rename_i scheme refers
    rw [refers] at sound
    cases found
    exact ⟨fun c member => (Scheme.isName_chars (named scheme sound) c member).1, .inr (.inl rfl)⟩
  · rename_i scheme data refers
    rw [refers] at sound
    cases found
    exact ⟨isSchemeChar_of_hasNoSlashes sound.1, .inl sound.1⟩
  · rename_i scheme a path query refers
    rw [refers] at sound
    obtain ⟨names, ⟨_, written, isUri, rfl⟩, _⟩ := sound
    split at found
    · rename_i located
      cases found
      have isName := (Authority.isName_lower written.host).trans (Authority.ofUri?_isName isUri)
      exact readLocated?_readable noScheme (fun name given => (names name given).1) isName located
    · cases found

end UriParser

end ContentPolicy
