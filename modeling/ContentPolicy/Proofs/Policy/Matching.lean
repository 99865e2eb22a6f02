import ContentPolicy.Proofs.Policy.Stripping
import ContentPolicy.Proofs.Source.Matching

/-!
What a policy allows, by the whitelist that governs a type: that of the type, that of all types, or
the bare star. Stripping paths strips the governing whitelist, whichever of the three it is, so it
never tightens a policy.
-/

namespace ContentPolicy

namespace Whitelist

variable {w : Whitelist} {resource document : Uri} {ports : SchemePorts}

theorem allows_iff :
    w.allows resource document ports = true ↔
      ∃ s ∈ w, s.allows resource document ports = true := List.any_eq_true

theorem strip_allows (schemes : List String) (allowed : w.allows resource document ports = true) :
    (w.strip schemes).allows resource document ports = true := by
  obtain ⟨s, member, allowed⟩ := allows_iff.mp allowed
  have remains := Source.strip_allows schemes allowed
  have kept := mem_strip.mpr ⟨Source.valid_of_allows remains, s, member, rfl⟩
  exact allows_iff.mpr ⟨s.strip schemes, kept, remains⟩

theorem strip_any (schemes : List String) :
    Whitelist.strip schemes (.singleton .any) = .singleton .any := by
  rw [Source.any, UriPattern.any_eq]
  rfl

end Whitelist

namespace Policy

variable {p : Policy} {resource document : Uri} {type : String} {ports : SchemePorts}
  {types : List String}

theorem allows_iff :
    p.allows resource type document ports types = true ↔
      p.isInvalid = false ∧ ∃ w, p.governing type.toLower types = some w ∧
        w.allows resource document ports = true := by
  cases p with
  | invalid => exact iff_of_false Bool.false_ne_true fun ⟨isValid, _⟩ => nomatch isValid
  | valid m =>
      rw [allows]
      cases (valid m).governing type.toLower types with
      | none => exact iff_of_false Bool.false_ne_true fun ⟨_, _, absent, _⟩ => nomatch absent
      | some w =>
          constructor
          · exact fun allowed => ⟨rfl, w, rfl, allowed⟩
          · rintro ⟨_, v, same, allowed⟩
            exact Option.some.inj same ▸ allowed

/-- What governs a type of a stripped policy is what governed it, stripped; the bare star that
stands for an absent directive has no path to lose. -/
theorem governing_strip (schemes : List String) (p : Policy) (name : String) :
    (p.stripPaths schemes).governing name types =
      (p.governing name types).map (Whitelist.strip schemes) := by
  simp only [governing, get?_strip]
  cases p.whitelists.get? name with
  | some w => rfl
  | none =>
      cases types.contains name with
      | false => rfl
      | true =>
          cases p.whitelists.get? defaultType with
          | some w => rfl
          | none => exact congrArg some (Whitelist.strip_any schemes).symm

/-- Stripping paths never tightens a policy: all that it allows it still allows without paths,
whichever schemes are reduced. -/
theorem stripPaths_allows (schemes : List String)
    (allowed : p.allows resource type document ports types = true) :
    (p.stripPaths schemes).allows resource type document ports types = true := by
  obtain ⟨isValid, w, governs, byWhitelist⟩ := allows_iff.mp allowed
  refine allows_iff.mpr ⟨(isInvalid_strip schemes p).trans isValid, w.strip schemes, ?_, ?_⟩
  · rw [governing_strip, governs, Option.map_some]
  · exact Whitelist.strip_allows schemes byWhitelist

/-- An image of an extension falls back to the directive for all types, whose source is reduced to
its scheme; it was allowed for its path, and it is allowed when the path is gone. -/
theorem stripPaths_allows_image :
    let p := ofDirectives
      [.make "default-src" [.uri ⟨"chrome-extension", "abc", none, "/lib/"⟩, .self],
        .make "script-src" [.uri ⟨"", "*.d", none, "/js/"⟩]]
    let image := Uri.regular ⟨"chrome-extension", "abc", none, "/lib/a.png", ""⟩
    p.allows image "IMG-src" .empty ∅ PolicyParser.standardDefaultSrcTypes = true ∧
      (p.stripPaths Scheme.reducedToScheme).allows image "IMG-src" .empty ∅
        PolicyParser.standardDefaultSrcTypes = true := by
  intro p image
  have allowed : p.allows image "IMG-src" .empty ∅
      PolicyParser.standardDefaultSrcTypes = true := by decide +kernel
  exact ⟨allowed, stripPaths_allows Scheme.reducedToScheme allowed⟩

end Policy

end ContentPolicy
