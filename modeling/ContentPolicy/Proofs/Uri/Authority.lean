import ContentPolicy.Proofs.Text.Characters
import ContentPolicy.Proofs.Uri.Parts
import ContentPolicy.Source.Parser

/-!
Hosts and ports as sources write them. A written host and port form an authority that gives both
back, and what reading accepts as the host of a source has no delimiter and keeps its form in lower
case.
-/

namespace ContentPolicy

namespace Port

theorem ofDigits?_toDigits (p : Port) : ofDigits? p.toDigits = some p := by
  have value : Text.decimalValue p.toDigits = p.toNat :=
    Nat.ofDigitChars_toDigits (by decide) (by decide)
  have bound : p.toNat < UInt16.size := p.toNat_lt
  rw [ofDigits?, value]
  simp only [if_pos bound, UInt16.ofNat_toNat]

theorem isDigit_of_mem_toDigits {p : Port} {c : Char} (member : c ∈ p.toDigits) :
    c.isDigit = true :=
  Nat.isDigit_of_mem_toDigits (by decide) (by decide) member

theorem toDigits_isDigits (p : Port) : Text.isDigits p.toDigits = true := by
  have notEmpty : p.toDigits ≠ [] := Nat.toDigits_ne_nil
  simp only [Text.isDigits, Bool.and_eq_true, Bool.not_eq_true', List.all_eq_true]
  exact ⟨by simpa using notEmpty, fun c member => isDigit_of_mem_toDigits member⟩

end Port

namespace PortPattern

theorem render_isPortPattern (port : PortPattern) :
    Authority.isPortPattern port.render = true := by
  cases port with
  | any => rfl
  | number p => simp [Authority.isPortPattern, render, Port.toDigits_isDigits]

theorem mem_render {port : PortPattern} {c : Char} (member : c ∈ port.render) :
    c.isDigit = true ∨ c = '*' := by
  cases port with
  | any => exact .inr (List.mem_singleton.mp member)
  | number p => exact .inl (Port.isDigit_of_mem_toDigits member)

theorem render_ne_nil (port : PortPattern) : port.render ≠ [] := by
  cases port with
  | any => exact List.cons_ne_nil _ _
  | number p => exact Nat.toDigits_ne_nil

end PortPattern

namespace SourceParser

theorem readPort?_render (port : Option PortPattern) :
    readPort? (port.map PortPattern.render) = some port := by
  cases port with
  | none => rfl
  | some port =>
      cases port with
      | any => rfl
      | number p =>
          have notStar : p.toDigits ≠ ['*'] := by
            intro same
            have digit := Port.isDigit_of_mem_toDigits (p := p) (same ▸ List.mem_singleton_self '*')
            exact absurd digit (by decide)
          simp only [Option.map_some, PortPattern.render, readPort?, Port.ofDigits?_toDigits]

end SourceParser

namespace Authority

theorem isHostPattern_cases {cs : List Char} (host : isHostPattern cs = true) :
    cs = ['*'] ∨ (∃ name, cs = '*' :: '.' :: name ∧ isName name = true) ∨ isName cs = true := by
  rw [isHostPattern.eq_def] at host
  split at host
  · exact .inl rfl
  · exact .inr (.inl ⟨_, rfl, host⟩)
  · exact .inr (.inr host)

theorem isHostPattern_ne_nil {cs : List Char} (host : isHostPattern cs = true) : cs ≠ [] := by
  rintro rfl
  exact Bool.false_ne_true host

theorem mem_isHostPattern {cs : List Char} (host : isHostPattern cs = true) {c : Char}
    (member : c ∈ cs) : isNameChar c = true ∨ c = '*' := by
  have inName : ∀ {name : List Char}, isName name = true → c ∈ name → isNameChar c = true := by
    intro name named inside
    rw [isName, Bool.and_eq_true] at named
    exact List.all_eq_true.mp named.2 c inside
  rcases isHostPattern_cases host with rfl | ⟨name, rfl, named⟩ | named
  · exact .inr (List.mem_singleton.mp member)
  · rcases List.mem_cons.mp member with star | later
    · exact .inr star
    · rcases List.mem_cons.mp later with dot | inside
      · exact .inl (dot ▸ by decide)
      · exact .inl (inName named inside)
  · exact .inl (inName named member)

theorem isNameChar_clear {c : Char} (holds : isNameChar c = true ∨ c = '*') :
    Text.isBlank c = false ∧ c ≠ ';' ∧ c ≠ ':' ∧ UriParts.endsAuthority c = false := by
  rw [Text.isNameChar_iff, Text.isAlphanum_iff, Text.eq_iff_toNat] at holds
  have star : '*'.toNat = 42 := by decide
  have marks : ';'.toNat = 59 ∧ ':'.toNat = 58 ∧ '/'.toNat = 47 ∧ '?'.toNat = 63 ∧
    '#'.toNat = 35 := by decide
  refine ⟨?_, ?_, ?_, ?_⟩
  · rw [Bool.eq_false_iff, ne_eq, Text.isBlank_iff]
    omega
  · rw [ne_eq, Text.eq_iff_toNat]
    omega
  · rw [ne_eq, Text.eq_iff_toNat]
    omega
  · simp only [UriParts.endsAuthority, Bool.or_eq_false_iff, decide_eq_false_iff_not,
      Text.eq_iff_toNat]
    omega

theorem isNameChar_of_isDigit {c : Char} (digit : c.isDigit = true) : isNameChar c = true := by
  rw [Text.isDigit_iff] at digit
  rw [Text.isNameChar_iff, Text.isAlphanum_iff]
  omega

theorem isName_lower (cs : List Char) : isName (Text.lower cs) = isName cs := by
  rw [isName, isName, Text.all_lower Text.isNameChar_toLower]
  simp [Text.lower]

theorem isHostPattern_of_isName {cs : List Char} (named : isName cs = true) :
    isHostPattern cs = true := by
  rw [isHostPattern.eq_def]
  split
  · rfl
  · exact absurd named (by simp [isName, isNameChar, isCaseVariant])
  · exact named

theorem isHostPattern_lower {cs : List Char} (host : isHostPattern cs = true) :
    isHostPattern (Text.lower cs) = true := by
  rcases isHostPattern_cases host with rfl | ⟨name, rfl, named⟩ | named
  · rfl
  · exact (isName_lower name).trans named
  · exact isHostPattern_of_isName ((isName_lower cs).trans named)

section Cut

variable {isHost isPort : List Char → Bool} {host port : List Char}

theorem hostAndPort?_host (holds : isHost host = true) (clear : ∀ c ∈ host, c ≠ ':') :
    hostAndPort? isHost isPort host = some ⟨host, none⟩ := by
  have uncut : Text.cut? (fun c => decide (c = ':')) host = none :=
    Text.cut?_none fun c member => decide_eq_false (clear c member)
  rw [hostAndPort?, uncut]
  exact if_pos holds

theorem hostAndPort?_port (holds : isHost host = true) (clear : ∀ c ∈ host, c ≠ ':')
    (portHolds : isPort port = true) :
    hostAndPort? isHost isPort (host ++ ':' :: port) = some ⟨host, some port⟩ := by
  have cut : Text.cut? (fun c => decide (c = ':')) (host ++ ':' :: port) = some (host, port) :=
    Text.cut?_append (fun c member => decide_eq_false (clear c member)) (by decide)
  rw [hostAndPort?, cut]
  exact if_pos (Bool.and_eq_true_iff.mpr ⟨holds, portHolds⟩)

end Cut

theorem ofSource?_written {host : List Char} (isHost : isHostPattern host = true)
    (port : Option PortPattern) :
    ofSource? (host ++ UriPattern.renderPort port) = some ⟨host, port.map PortPattern.render⟩ := by
  have clear : ∀ c ∈ host, c ≠ ':' := fun c member =>
    (isNameChar_clear (mem_isHostPattern isHost member)).2.2.1
  cases port with
  | none =>
      rw [UriPattern.renderPort, List.append_nil]
      exact hostAndPort?_host isHost clear
  | some port => exact hostAndPort?_port isHost clear port.render_isPortPattern

theorem hostAndPort?_isHost {isHost isPort : List Char → Bool} {cs : List Char} {a : Authority}
    (found : hostAndPort? isHost isPort cs = some a) : isHost a.host = true := by
  rw [hostAndPort?] at found
  split at found
  · split at found
    · cases found
      assumption
    · cases found
  · split at found
    · rename_i both
      cases found
      rw [Bool.and_eq_true] at both
      exact both.1
    · cases found

theorem ofSource?_isHost {cs : List Char} {a : Authority} (found : ofSource? cs = some a) :
    isHostPattern a.host = true := hostAndPort?_isHost found

theorem ofUri?_isName {cs : List Char} {a : Authority} (found : ofUri? cs = some a) :
    isName a.host = true := by
  rw [ofUri?] at found
  split at found
  · exact hostAndPort?_isHost found
  · split at found
    · exact hostAndPort?_isHost found
    · cases found

theorem ofUri?_nil : ofUri? [] = none := rfl

theorem ofSource?_nil : ofSource? [] = none := rfl

end Authority

end ContentPolicy
