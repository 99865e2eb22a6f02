import ContentPolicy.Proofs.Settings.Loading

/-!
The settings of the configuration that says nothing. They are the standard values of each reader;
what the caller asks for decides about the profile and about strictness, and nothing fails.
-/

namespace ContentPolicy

namespace Settings

def standard (profile : Profile) (strict : Bool) : Settings where
  profile
  strict
  uri := .standard
  policy := PolicyParser.standard.withStrict strict
  report :=
    { ReportParser.standard with
      strict
      policy := { PolicyParser.standard.withStrict strict with expandDefaultSrc := false } }
  schemeOnly := Scheme.reducedToScheme

end Settings

namespace Config

theorem checkTypes_standard (strict : Bool) :
    checkTypes (PolicyParser.standard.withStrict strict) = .ok () := by
  have listed : ∀ t ∈ PolicyParser.standardDefaultSrcTypes,
      (!DirectiveParser.standardTypes.contains t) = false := by decide
  have allAllowed : (PolicyParser.standard.withStrict strict).defaultSrcTypes.find?
      (fun t => !(PolicyParser.standard.withStrict strict).directive.allowedTypes.contains t) =
        none :=
    List.find?_eq_none.mpr fun t member => by
      rw [show (!(PolicyParser.standard.withStrict strict).directive.allowedTypes.contains t) =
        false from listed t member]
      exact Bool.false_ne_true
  rw [checkTypes, allAllowed]

theorem checkKeys_standard (profile : Profile) (strict : Bool) :
    checkKeys (Settings.standard profile strict).report = .ok () := by
  have distinct : firstRepeated? [] (ReportParser.standard.uriKeys ++
      ReportParser.standard.directiveKeys ++ ReportParser.standard.policyKeys) = none := by
    decide
  let p := (Settings.standard profile strict).report
  have same : firstRepeated? [] (p.uriKeys ++ p.directiveKeys ++ p.policyKeys) = none := distinct
  rw [checkKeys, same]

theorem resolve_default (o : Overrides) :
    resolve {} o =
      .ok (Settings.standard (selectedProfile {} o) (strictness {} o)) := by
  have types : checkTypes (settings {} o []).policy = .ok () := checkTypes_standard _
  have keys : checkKeys (settings {} o []).report = .ok () :=
    checkKeys_standard (selectedProfile {} o) _
  exact resolve_eq_ok_iff.mpr ⟨rfl, [], rfl, rfl, types, keys, rfl⟩

end Config

end ContentPolicy
