import ContentPolicy.Proofs.Source.Written

/-!
Different sources have different written forms. A reader may take the written form of a pattern for
another pattern, but the form itself leaves no doubt: it says whether a scheme, a scheme with data,
or a host was written, and all components can be found in it.
-/

namespace ContentPolicy

open Text

namespace UriPattern

def ofHostText (scheme : String) (cs : List Char) : UriPattern :=
  match Authority.ofSource? (upTo UriParts.endsAuthority cs) with
  | none => ⟨scheme, "", none, ""⟩
  | some a =>
      { scheme, host := String.ofList a.host, port := (SourceParser.readPort? a.port).join,
        path := (Percent.decode (String.ofList (fromOn UriParts.endsAuthority cs))).getD "" }

/-- The pattern that a text is the written form of. What precedes the first colon is a scheme only
where nothing or two slashes follow. -/
def ofWritten (cs : List Char) : UriPattern :=
  match cut? (· = ':') cs with
  | some (scheme, []) => ⟨String.ofList scheme, "", none, ""⟩
  | some (scheme, '/' :: '/' :: rest) =>
      if Scheme.hasNoSlashes (String.ofList scheme) then
        ⟨String.ofList scheme, String.ofList rest, none, ""⟩
      else ofHostText (String.ofList scheme) rest
  | _ => ofHostText "" cs

variable {known : SchemePorts}

theorem ofHostText_written (scheme : String) {host path : String} (port : Option PortPattern)
    (isHost : Authority.isHostPattern host.toList = true)
    (rooted : ∀ c ∈ path.toList.head?, c = '/') :
    ofHostText scheme ((host.toList ++ renderPort port) ++ Percent.encodePath path.toList) =
      ⟨scheme, host, port, path⟩ := by
  have clear : ∀ c ∈ host.toList ++ renderPort port, UriParts.endsAuthority c = false :=
    fun c member => (mem_authority isHost member).2.2
  have stop : ∀ c ∈ (Percent.encodePath path.toList).head?, UriParts.endsAuthority c = true := by
    intro c first
    rw [Percent.encodePath_rooted rooted c first]
    decide
  rw [ofHostText, upTo_append clear stop, fromOn_append clear stop,
    Authority.ofSource?_written isHost]
  simp only [SourceParser.readPort?_render, Percent.decode_encodePath, String.ofList_toList,
    Option.join_some, Option.getD_some]

/-- A host that no scheme precedes is no scheme itself: what follows its colon is a port. -/
theorem ofWritten_host {host path : String} (port : Option PortPattern)
    (isHost : Authority.isHostPattern host.toList = true)
    (rooted : ∀ c ∈ path.toList.head?, c = '/') :
    ofWritten ((host.toList ++ renderPort port) ++ Percent.encodePath path.toList) =
      ⟨"", host, port, path⟩ := by
  have found := ofHostText_written "" port isHost rooted
  cases port with
  | none =>
      have text : (host.toList ++ renderPort none) ++ Percent.encodePath path.toList =
          host.toList ++ Percent.encodePath path.toList := by
        simp [renderPort]
      rw [text] at found ⊢
      rw [ofWritten, cut?_host isHost]
      exact found
  | some port =>
      have text := host_port_append host.toList (Percent.encodePath path.toList) port
      have noSlash := head?_port port (Percent.encodePath path.toList)
      have notEmpty := port.render_ne_nil
      rw [text] at found ⊢
      rw [ofWritten, cut?_host_port isHost]
      split
      · rename_i empty
        simp [notEmpty] at empty
      · rename_i slashes
        simp only [Option.some.injEq, Prod.mk.injEq] at slashes
        exact absurd rfl (noSlash '/' (by rw [slashes.2]; rfl))
      · exact found

theorem cut?_scheme {scheme : String} (isName : Scheme.isName scheme = true) (rest : List Char) :
    cut? (fun c => decide (c = ':')) (scheme.toList ++ ':' :: rest) = some (scheme.toList, rest) :=
  cut?_append (Scheme.isName_no_colon isName) (by decide)

theorem ofWritten_render (named : known.Named) {p : UriPattern} (readable : p.Readable known) :
    ofWritten p.render = p := by
  cases readable with
  | @scheme name isKnown =>
      rw [render_of_scheme (ne_empty_of_known named isKnown), ofWritten,
        cut?_scheme (named name isKnown)]
      simp only [String.ofList_toList]
  | @data scheme data isKnown noSlashes notEmpty lowered clear =>
      rw [render_of_host notEmpty, renderScheme_eq (ne_empty_of_known named isKnown), ofWritten,
        cut?_scheme (named scheme isKnown)]
      simp [noSlashes, renderPort, Percent.encodePath]
  | @located scheme host port path isKnown isHost lowered rooted =>
      rw [render_of_host (ne_empty_of_isHost isHost)]
      rcases isKnown with rfl | ⟨isKnown, slashes⟩
      · exact ofWritten_host port isHost rooted
      · have found := ofHostText_written scheme port isHost rooted
        rw [renderScheme_eq (ne_empty_of_known named isKnown), ofWritten,
          cut?_scheme (named scheme isKnown)]
        simp only [String.ofList_toList, slashes, Bool.false_eq_true, if_false, found]

theorem render_injective (named : known.Named) {p q : UriPattern} (first : p.Readable known)
    (second : q.Readable known) (same : p.render = q.render) : p = q := by
  rw [← ofWritten_render named first, same, ofWritten_render named second]

end UriPattern

namespace Source

theorem render_ne_keyword {known : SchemePorts} (named : known.Named) {p : UriPattern}
    (readable : Source.Readable known (.uri p)) {keyword : Source}
    (listed : keyword ∈ keywords) : p.render ≠ keyword.render := by
  intro same
  have quoted : ∀ s ∈ keywords, s.render.head? = some '\'' := by decide
  have unquoted := (UriPattern.render_isToken named readable.1 readable.2).2
  rw [same] at unquoted
  exact unquoted _ (quoted keyword listed) rfl

theorem render_injective {known : SchemePorts} (named : known.Named) {s t : Source}
    (first : s.Readable known) (second : t.Readable known) (same : s.render = t.render) : s = t := by
  rcases uri_or_keyword first.valid with ⟨p, rfl⟩ | listed
  · rcases uri_or_keyword second.valid with ⟨q, rfl⟩ | listed'
    · exact congrArg Source.uri (UriPattern.render_injective named first.1 second.1 same)
    · exact absurd same (render_ne_keyword named first listed')
  · rcases uri_or_keyword second.valid with ⟨q, rfl⟩ | listed'
    · exact absurd same.symm (render_ne_keyword named second listed)
    · have distinct : ∀ s ∈ keywords, ∀ t ∈ keywords, s.render = t.render → s = t := by
        decide
      exact distinct s listed t listed' same

end Source

end ContentPolicy
