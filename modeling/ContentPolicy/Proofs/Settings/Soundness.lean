import ContentPolicy.Proofs.Settings.Agreement
import ContentPolicy.Proofs.Uri.Grammar

/-!
Which configurations resolve to settings. What is written for a scheme must be the name of one, and
what is written for a port must be a port; a type falls back to the directive for all types only if
it is allowed, and no field of reports is of two kinds. A list that is left out counts with its
standard value, so a list that is replaced must fit the standard value of the other one.
-/

namespace ContentPolicy

open Text

namespace Port

/-- Whether a text writes a port: decimal digits, with or without a plus sign in front. -/
def Writes (text : List Char) (port : Port) : Prop :=
  ∃ digits, (text = digits ∨ text = '+' :: digits) ∧ digits ≠ [] ∧
    (∀ c ∈ digits, c.isDigit = true) ∧ decimalValue digits = port.toNat

def valueAfter (n : Nat) (digits : List Char) : Nat :=
  digits.foldl (fun n c => 10 * n + (c.toNat - 48)) n

theorem le_valueAfter (n : Nat) (digits : List Char) : n ≤ valueAfter n digits := by
  induction digits generalizing n with
  | nil => exact le_refl n
  | cons c rest ih =>
      have step : n ≤ 10 * n + (c.toNat - 48) := by omega
      exact step.trans (ih _)

/-- Digits are appended without an error when all of them are digits and the number in the end is a
port: no number on the way is greater. -/
theorem appendDigits_eq_ok_iff {n : Nat} (small : n < UInt16.size) {digits : List Char}
    {port : Port} :
    appendDigits n digits = .ok port ↔
      (∀ c ∈ digits, c.isDigit = true) ∧ valueAfter n digits = port.toNat := by
  induction digits generalizing n with
  | nil =>
      rw [appendDigits, Except.ok.injEq, ← UInt16.toNat_inj, UInt16.toNat_ofNat_of_lt' small]
      simp [valueAfter]
  | cons c rest ih =>
      have value : valueAfter n (c :: rest) = valueAfter (10 * n + (c.toNat - 48)) rest := rfl
      rw [appendDigits, value, List.forall_mem_cons]
      by_cases digit : c.isDigit = true
      · simp only [digit, Bool.not_true, Bool.false_eq_true, if_false, true_and]
        split
        · rename_i fits
          exact ih fits
        · rename_i large
          have grown := le_valueAfter (10 * n + (c.toNat - 48)) rest
          have bound : port.toNat < UInt16.size := port.toNat_lt
          exact iff_of_false nofun fun ⟨_, same⟩ => by omega
      · simp [digit]

theorem parse_eq_ok_iff {text : String} {port : Port} :
    parse text = .ok port ↔ Writes text.toList port := by
  rw [parse]
  split
  · rename_i empty
    refine iff_of_false nofun ?_
    rintro ⟨digits, whole, given, _⟩
    rw [empty] at whole
    rcases whole with rfl | absent
    · exact given rfl
    · cases absent
  · rename_i sign
    refine iff_of_false nofun ?_
    rintro ⟨digits, whole, given, all, _⟩
    rw [sign] at whole
    rcases whole with rfl | more
    · exact absurd (all '+' List.mem_cons_self) (by decide)
    · exact given (List.cons.inj more).2.symm
  · rename_i digits notAlone written
    rw [appendDigits_eq_ok_iff (by decide), written]
    constructor
    · rintro ⟨all, value⟩
      refine ⟨digits, .inr rfl, ?_, all, value⟩
      rintro rfl
      exact notAlone rfl
    · rintro ⟨other, whole, _, all, value⟩
      rcases whole with rfl | same
      · exact absurd (all '+' List.mem_cons_self) (by decide)
      · obtain rfl := (List.cons.inj same).2
        exact ⟨all, value⟩
  · rename_i notEmpty _ unsigned
    rw [appendDigits_eq_ok_iff (by decide)]
    constructor
    · rintro ⟨all, value⟩
      exact ⟨text.toList, .inl rfl, notEmpty, all, value⟩
    · rintro ⟨digits, whole, _, all, value⟩
      rcases whole with rfl | signed
      · exact ⟨all, value⟩
      · exact absurd signed (unsigned digits)

end Port

namespace Scheme

/-- Whether a text is spelled like a scheme: lower-case letters, digits, plus signs, hyphens and
dots, at least one of them. -/
def IsSpelled (name : String) : Prop :=
  Authority.IsWord (fun c => 'a' ≤ c ∧ c ≤ 'z') ['+', '-', '.'] name.toList

theorem isName_iff_isSpelled {name : String} : isName name = true ↔ IsSpelled name := by
  have letter : ∀ c : Char, c.isLower = true ↔ 'a' ≤ c ∧ c ≤ 'z' := isLower_iff
  simp [isName, IsSpelled, Authority.IsWord, letter, or_assoc]

end Scheme

theorem firstRepeated?_eq_none_iff (seen names : List String) :
    firstRepeated? seen names = none ↔ names.Nodup ∧ ∀ name ∈ names, name ∉ seen := by
  induction names generalizing seen with
  | nil => simp [firstRepeated?]
  | cons name rest ih =>
      rw [firstRepeated?, List.nodup_cons, List.forall_mem_cons]
      split
      · rename_i repeated
        exact iff_of_false nofun fun ⟨_, fresh, _⟩ => fresh repeated
      · rename_i fresh
        rw [ih]
        constructor
        · rintro ⟨distinct, later⟩
          refine ⟨⟨fun inside => later name inside List.mem_cons_self, distinct⟩, fresh, ?_⟩
          exact fun other inside => mt (List.mem_cons_of_mem name) (later other inside)
        · rintro ⟨⟨once, distinct⟩, _, later⟩
          refine ⟨distinct, fun other inside => ?_⟩
          rw [List.mem_cons, not_or]
          exact ⟨fun same => once (same ▸ inside), later other inside⟩

namespace Config

variable {c : Config} {o : Overrides}

def allowedTypes (c : Config) : List String :=
  typeNames (c.directives.allowed.getD DirectiveParser.standardTypes)

def defaultSrcTypes (c : Config) : List String :=
  typeNames (c.directives.defaultSrcTypes.getD PolicyParser.standardDefaultSrcTypes)

def typedKeys (c : Config) : List String :=
  c.report.uriKeys.getD ReportParser.standard.uriKeys ++
    c.report.directiveKeys.getD ReportParser.standard.directiveKeys ++
      c.report.policyKeys.getD ReportParser.standard.policyKeys

/-- What a configuration must be like for settings to come of it. -/
structure Sound (c : Config) : Prop where
  schemes : ∀ name ∈ c.schemes.keys, Scheme.IsSpelled name
  ports : ∀ text ∈ c.portSchemes.keys, ∃ port, Port.Writes text.toList port
  portSchemes : ∀ name ∈ c.portSchemes.values, Scheme.IsSpelled name
  defaultScheme : ∀ name ∈ c.uri.defaultScheme, Scheme.IsSpelled name
  fallbacks : ∀ type ∈ c.defaultSrcTypes, type ∈ c.allowedTypes
  distinct : c.typedKeys.Nodup

theorem exists_portPairs_iff :
    (∃ ports, c.portPairs = .ok ports) ↔
      (∀ text ∈ c.portSchemes.keys, ∃ port, Port.Writes text.toList port) ∧
        ∀ name ∈ c.portSchemes.values, Scheme.IsSpelled name := by
  have entry : ∀ e, (∃ pair, portPair e = .ok pair) ↔
      (∃ port, Port.Writes e.1.toList port) ∧ Scheme.IsSpelled e.2 := by
    intro e
    simp only [portPair_eq_ok_iff, Port.parse_eq_ok_iff, Scheme.isName_iff_isSpelled]
    constructor
    · rintro ⟨pair, written, spelled, _⟩
      exact ⟨⟨pair.1, written⟩, spelled⟩
    · rintro ⟨⟨port, written⟩, spelled⟩
      exact ⟨(port, e.2), written, spelled, rfl⟩
  rw [portPairs, exists_mapM_eq_ok_iff, SortedMap.keys, SortedMap.values, List.forall_mem_map,
    List.forall_mem_map, ← forall₂_and]
  exact forall₂_congr fun e _ => entry e

theorem checkTypes_eq_ok_iff {p : PolicyParser} :
    checkTypes p = .ok () ↔ ∀ type ∈ p.defaultSrcTypes, type ∈ p.directive.allowedTypes := by
  rw [checkTypes]
  split
  · rename_i type found
    have listed := List.mem_of_find?_eq_some found
    have notAllowed : type ∉ p.directive.allowedTypes := by simpa using List.find?_some found
    exact iff_of_false nofun fun all => notAllowed (all type listed)
  · rename_i absent
    refine iff_of_true rfl fun type listed => ?_
    simpa using List.find?_eq_none.mp absent type listed

theorem checkKeys_eq_ok_iff {p : ReportParser} :
    checkKeys p = .ok () ↔ (p.uriKeys ++ p.directiveKeys ++ p.policyKeys).Nodup := by
  have distinct := firstRepeated?_eq_none_iff [] (p.uriKeys ++ p.directiveKeys ++ p.policyKeys)
  simp only [List.not_mem_nil, not_false_eq_true, implies_true, and_true] at distinct
  rw [checkKeys, ← distinct]
  split
  · rename_i key repeated
    exact iff_of_false nofun fun absent => nomatch repeated.symm.trans absent
  · rename_i absent
    exact iff_of_true rfl absent

theorem typeNames_getD (given : Option (List String)) {types : List String}
    (standard : typeNames types = types) :
    (given.map typeNames).getD types = typeNames (given.getD types) := by
  cases given with
  | none => exact standard.symm
  | some names => rfl

theorem checkTypes_settings_iff {ports : List (Port × String)} :
    checkTypes (c.settings o ports).policy = .ok () ↔
      ∀ type ∈ c.defaultSrcTypes, type ∈ c.allowedTypes := by
  have allowed : (c.settings o ports).policy.directive.allowedTypes = c.allowedTypes :=
    typeNames_getD c.directives.allowed (by decide +kernel)
  have fallbacks : (c.settings o ports).policy.defaultSrcTypes = c.defaultSrcTypes :=
    typeNames_getD c.directives.defaultSrcTypes (by decide +kernel)
  rw [checkTypes_eq_ok_iff, allowed, fallbacks]

/-- Settings come of a configuration exactly when it is sound, whatever the caller asks for. -/
theorem resolves_iff_sound (c : Config) (o : Overrides) :
    (∃ s, c.resolve o = .ok s) ↔ c.Sound := by
  have schemes : c.schemes.keys.forM (checkScheme .schemes) = .ok () ↔
      ∀ name ∈ c.schemes.keys, Scheme.IsSpelled name := by
    simp only [forM_eq_ok_iff, checkScheme_eq_ok_iff, Scheme.isName_iff_isSpelled]
  have default : c.uri.defaultScheme.toList.forM (checkScheme .defaultScheme) = .ok () ↔
      ∀ name ∈ c.uri.defaultScheme, Scheme.IsSpelled name := by
    simp only [forM_eq_ok_iff, checkScheme_eq_ok_iff, Scheme.isName_iff_isSpelled,
      Option.mem_toList, Option.mem_def]
  constructor
  · rintro ⟨s, resolved⟩
    obtain ⟨schemesNamed, ports, portsRead, defaultNamed, types, keys, _⟩ :=
      resolve_eq_ok_iff.mp resolved
    obtain ⟨written, portSchemes⟩ := exists_portPairs_iff.mp ⟨ports, portsRead⟩
    exact ⟨schemes.mp schemesNamed, written, portSchemes, default.mp defaultNamed,
      checkTypes_settings_iff.mp types, checkKeys_eq_ok_iff.mp keys⟩
  · intro sound
    obtain ⟨ports, portsRead⟩ := exists_portPairs_iff.mpr ⟨sound.ports, sound.portSchemes⟩
    exact ⟨c.settings o ports, resolve_eq_ok_iff.mpr
      ⟨schemes.mpr sound.schemes, ports, portsRead, default.mpr sound.defaultScheme,
        checkTypes_settings_iff.mpr sound.fallbacks, checkKeys_eq_ok_iff.mpr sound.distinct, rfl⟩⟩

/-- Standard types that fall back are missing among the types that are allowed instead. -/
example : resolve { directives := { allowed := some ["Img-Src "] } } {} =
    .error (.typeNotAllowed "child-src") := by
  decide +kernel

end Config

end ContentPolicy
