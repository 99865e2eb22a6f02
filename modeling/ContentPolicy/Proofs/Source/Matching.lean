import ContentPolicy.Proofs.Text.Characters
import ContentPolicy.Source.Matching

/-!
When a pattern allows a location, whatever special form the pattern has; the pattern made from a
location allows it, and what is left of a source without its path allows no less. What is no
location is allowed by the two keywords for it alone.
-/

namespace ContentPolicy

theorem Uri.isRegular_iff {u : Uri} : u.isRegular = true ↔ ∃ l, u = .regular l := by
  cases u with
  | regular l => exact iff_of_true rfl ⟨l, rfl⟩
  | empty => exact iff_of_false nofun nofun
  | invalid => exact iff_of_false nofun nofun
  | inline => exact iff_of_false nofun nofun
  | eval => exact iff_of_false nofun nofun

namespace UriPattern

variable {p : UriPattern} {l : Location} {document : Uri} {ports : SchemePorts}

structure Fits (p : UriPattern) (l : Location) (document : Uri) (ports : SchemePorts) : Prop where
  scheme : p.schemeAllows l.scheme.toLower document.location.scheme.toLower = true
  host : p.hostAllows l.host.toLower = true
  port : p.portAllows (ports.entry? l.scheme.toLower) l.port = true
  path : p.pathAllows l.path = true

theorem schemeAllows_iff_of_named (named : p.scheme ≠ "") {scheme other : String} :
    p.schemeAllows scheme other = true ↔ p.scheme = scheme := by
  rw [schemeAllows, if_pos named, decide_eq_true_iff]

/-- A pattern allows each host when it has none itself, and else its own host, or behind a star each
host with the same ending. -/
theorem hostAllows_iff {host : String} :
    p.hostAllows host = true ↔
      p.host = "" ∨ p.host = host ∨
        ∃ ending, p.host.toList = '*' :: ending ∧ ending <:+ host.toList := by
  rw [hostAllows]
  split
  · rename_i empty
    exact iff_of_true rfl (.inl (String.toList_eq_nil_iff.mp empty))
  · rename_i ending star
    rw [List.isSuffixOf_iff_suffix]
    constructor
    · exact fun suffix => .inr (.inr ⟨ending, star, suffix⟩)
    · rintro (empty | same | ⟨other, star', suffix⟩)
      · rw [empty] at star
        cases star
      · rw [← same, star]
        exact List.suffix_cons '*' ending
      · cases star.symm.trans star'
        exact suffix
  · rename_i notEmpty noStar
    rw [decide_eq_true_iff, String.toList_inj]
    constructor
    · exact fun same => .inr (.inl same)
    · rintro (empty | same | ⟨ending, star, _⟩)
      · exact absurd (String.toList_eq_nil_iff.mpr empty) notEmpty
      · exact same
      · exact absurd star (noStar ending)

theorem hostAllows_iff_of_literal (hosted : p.host ≠ "")
    (literal : p.host.toList.head? ≠ some '*') {host : String} :
    p.hostAllows host = true ↔ p.host = host := by
  rw [hostAllows_iff, or_iff_right hosted, or_iff_left]
  rintro ⟨ending, star, _⟩
  exact literal (congrArg List.head? star)

theorem pathAllows_self (p : UriPattern) : p.pathAllows p.path = true := by
  rw [pathAllows]
  by_cases absent : p.path = ""
  · rw [if_pos absent]
  · rw [if_neg absent, if_neg absent]
    split
    · exact List.isPrefixOf_iff_prefix.mpr List.prefix_rfl
    · exact decide_eq_true rfl

theorem allows_regular_iff :
    p.allows (.regular l) document ports = true ↔
      p.isAny = true ∨ (p.isSchemeOnly = true ∧ p.scheme = l.scheme.toLower) ∨
        p.Fits l document ports := by
  have parts : p.Fits l document ports ↔
      (p.schemeAllows l.scheme.toLower document.location.scheme.toLower &&
        p.hostAllows l.host.toLower && p.portAllows (ports.entry? l.scheme.toLower) l.port &&
        p.pathAllows l.path) = true := by
    simp only [Bool.and_eq_true]
    exact ⟨fun fits => ⟨⟨⟨fits.scheme, fits.host⟩, fits.port⟩, fits.path⟩,
      fun ⟨⟨⟨scheme, host⟩, port⟩, path⟩ => ⟨scheme, host, port, path⟩⟩
  rw [allows]
  by_cases any : p.isAny = true
  · exact iff_of_true (if_pos any) (.inl any)
  · rw [if_neg any, or_iff_right any]
    by_cases only : p.isSchemeOnly = true
    · have named : p.scheme ≠ "" := by
        simp only [isSchemeOnly, Bool.and_eq_true, decide_eq_true_eq] at only
        exact only.1.1.1
      rw [if_pos only, decide_eq_true_eq]
      -- A scheme that stands alone is compared just as one with a host.
      constructor
      · exact fun same => .inl ⟨only, same⟩
      · rintro (⟨_, same⟩ | fits)
        · exact same
        · exact (schemeAllows_iff_of_named named).mp fits.scheme
    · rw [if_neg only, ← parts]
      exact (or_iff_right fun alone => only alone.1).symm

/-- A pattern with a host has no special form, unless it is the bare star. -/
theorem allows_iff_fits (hosted : p.host ≠ "") (notAny : p.isAny = false) :
    p.allows (.regular l) document ports = true ↔ p.Fits l document ports := by
  have notAlone : p.isSchemeOnly = false := by simp [isSchemeOnly, hosted]
  rw [allows_regular_iff, notAny, notAlone]
  simp

theorem regular_of_allows {resource : Uri} (allowed : p.allows resource document ports = true) :
    ∃ l, resource = .regular l := by
  cases resource with
  | regular l => exact ⟨l, rfl⟩
  | empty => cases allowed
  | invalid => cases allowed
  | inline => cases allowed
  | eval => cases allowed

theorem schemeAllows_of_missing (noScheme : p.scheme = "") {scheme documentScheme : String}
    (missing : scheme = "" ∨ documentScheme = "") :
    p.schemeAllows scheme documentScheme = false := by
  rw [schemeAllows, if_neg (not_not_intro noScheme)]
  by_cases absent : documentScheme = ""
  · rw [if_pos absent]
  · obtain rfl := missing.resolve_right absent
    rw [if_neg absent, decide_eq_false absent]
    split <;> rfl

/-- A pattern without a scheme allows nothing where the resource or the document has none either,
unless it is the bare star. -/
theorem allows_of_no_scheme_iff {resource : Uri} (noScheme : p.scheme = "")
    (missing : resource.location.scheme = "" ∨ document.location.scheme = "") :
    p.allows resource document ports = true ↔ resource.isRegular = true ∧ p.isAny = true := by
  constructor
  · intro allowed
    obtain ⟨l, rfl⟩ := regular_of_allows allowed
    rcases allows_regular_iff.mp allowed with any | ⟨only, _⟩ | fits
    · exact ⟨rfl, any⟩
    · simp [isSchemeOnly, noScheme] at only
    · have lowered := missing.imp Text.toLower_eq_empty_iff.mpr Text.toLower_eq_empty_iff.mpr
      have refused := schemeAllows_of_missing noScheme lowered
      exact absurd (refused.symm.trans fits.scheme) Bool.false_ne_true
  · rintro ⟨regular, any⟩
    obtain ⟨l, rfl⟩ := Uri.isRegular_iff.mp regular
    exact allows_regular_iff.mpr (.inl any)

theorem make_allows (named : l.scheme ≠ "") (document : Uri) (ports : SchemePorts) :
    (make l.scheme l.host (l.port.map .number) l.path).allows (.regular l) document ports =
      true := by
  refine allows_regular_iff.mpr (.inr (.inr ?_))
  constructor
  · exact (schemeAllows_iff_of_named (mt Text.toLower_eq_empty_iff.mp named)).mpr rfl
  · exact hostAllows_iff.mpr (.inr (.inl rfl))
  · cases written : l.port with
    | none =>
        simp only [portAllows, make, Option.map_none, Option.none_or]
        cases ports.entry? l.scheme.toLower with
        | none => rfl
        | some known => exact decide_eq_true rfl
    | some port => exact decide_eq_true rfl
  · exact pathAllows_self _

theorem toLower_eq_star_iff {host : String} : host.toLower = "*" ↔ host = "*" := by
  have caseless : ∀ c ∈ "*".toList, c.isAlphanum = false := List.forall_mem_singleton.mpr rfl
  rw [← String.toList_inj, Text.toList_toLower, Text.lower_eq_iff caseless, String.toList_inj]

/-- The pattern with the components of a location without a scheme is the bare star, or it does not
even allow that location anywhere. -/
theorem make_allows_of_no_scheme_iff (unnamed : l.scheme = "") (document : Uri)
    (ports : SchemePorts) :
    (make l.scheme l.host (l.port.map .number) l.path).allows (.regular l) document ports = true ↔
      l.host = "*" ∧ l.port = none ∧ l.path = "" := by
  have noScheme : (make l.scheme l.host (l.port.map .number) l.path).scheme = "" :=
    Text.toLower_eq_empty_iff.mpr unnamed
  have missing : (Uri.regular l).location.scheme = "" := unnamed
  rw [allows_of_no_scheme_iff noScheme (.inl missing)]
  simp [isAny, make, Uri.isRegular, toLower_eq_star_iff, unnamed, Text.toLower_eq_empty_iff,
    and_assoc]

theorem withoutPath_allows {resource : Uri} (allowed : p.allows resource document ports = true) :
    p.withoutPath.allows resource document ports = true := by
  obtain ⟨l, rfl⟩ := regular_of_allows allowed
  rcases allows_regular_iff.mp allowed with any | ⟨only, same⟩ | fits
  · have kept : p.withoutPath.isAny = true := by
      simp_all [isAny, withoutPath]
    exact allows_regular_iff.mpr (.inl kept)
  · have kept : p.withoutPath.isSchemeOnly = true := by
      simp_all [isSchemeOnly, withoutPath]
    exact allows_regular_iff.mpr (.inr (.inl ⟨kept, same⟩))
  · exact allows_regular_iff.mpr (.inr (.inr ⟨fits.scheme, fits.host, fits.port, rfl⟩))

theorem ofScheme_allows {resource : Uri} (named : p.scheme ≠ "")
    (allowed : p.allows resource document ports = true) :
    (ofScheme p.scheme).allows resource document ports = true := by
  obtain ⟨l, rfl⟩ := regular_of_allows allowed
  have same : p.scheme = l.scheme.toLower := by
    rcases allows_regular_iff.mp allowed with any | ⟨_, same⟩ | fits
    · simp only [isAny, Bool.and_eq_true, decide_eq_true_eq] at any
      exact absurd any.1.1.1 named
    · exact same
    · exact (schemeAllows_iff_of_named named).mp fits.scheme
  refine allows_regular_iff.mpr (.inr (.inl ⟨?_, ?_⟩))
  · have lowered : p.scheme.toLower ≠ "" := mt Text.toLower_eq_empty_iff.mp named
    simp [isSchemeOnly, ofScheme, make, lowered, Text.toLower_eq_empty_iff]
  · rw [same, ofScheme, make, Text.toLower_idempotent]

end UriPattern

namespace Source

variable {s : Source} {resource document : Uri} {ports : SchemePorts}

theorem valid_of_allows (allowed : s.allows resource document ports = true) :
    s.isInvalid = false := by
  cases s with
  | invalid => cases allowed
  | uri p => rfl
  | self => rfl
  | unsafeInline => rfl
  | unsafeEval => rfl

theorem allows_unlocated_iff (unlocated : resource.isRegular = false) :
    s.allows resource document ports = true ↔
      s = .unsafeInline ∧ resource = .inline ∨ s = .unsafeEval ∧ resource = .eval := by
  cases s with
  | uri p =>
      refine iff_of_false (fun allowed => ?_) (by simp)
      obtain ⟨l, rfl⟩ := UriPattern.regular_of_allows allowed
      cases unlocated
  | self => simp [allows, unlocated]
  | unsafeInline => simp [allows]
  | unsafeEval => simp [allows]
  | invalid => simp [allows]

theorem strip_uri (schemes : List String) (p : UriPattern) :
    (uri p).strip schemes =
      if p.scheme ≠ "" ∧ p.scheme ∈ schemes then .uri (.ofScheme p.scheme)
      else .uri p.withoutPath := by
  rw [strip]
  split
  · rename_i listed
    rw [UriPattern.schemeSource, if_neg listed.1]
  · rfl

theorem strip_allows (schemes : List String) (allowed : s.allows resource document ports = true) :
    (s.strip schemes).allows resource document ports = true := by
  cases s with
  | uri p =>
      rw [strip_uri]
      split
      · rename_i listed
        exact UriPattern.ofScheme_allows listed.1 allowed
      · exact UriPattern.withoutPath_allows allowed
  | self => exact allowed
  | unsafeInline => exact allowed
  | unsafeEval => exact allowed
  | invalid => exact allowed

end Source

end ContentPolicy
