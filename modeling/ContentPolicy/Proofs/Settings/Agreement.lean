import ContentPolicy.Proofs.Settings.Loading
import ContentPolicy.Proofs.Sorted.Map
import ContentPolicy.Proofs.Uri.Reference

/-!
What the readers in resolved settings share. Each reader starts from standard values of its own, and
the configuration changes them reader by reader; still all readers know the same schemes, both
readers of URIs infer alike, policies in reports are read as policies are read elsewhere, and there
is one strictness, which the caller decides before the configuration, and the configuration before
the profile.
-/

namespace ContentPolicy

namespace Settings

structure Agree (s : Settings) : Prop where
  reportSchemes : s.report.uri.schemePorts = s.uri.schemePorts
  policySchemes : s.policy.directive.knownSchemes = s.uri.schemePorts
  reportPolicySchemes : s.report.policy.directive.knownSchemes = s.uri.schemePorts
  portSchemes : s.report.uri.portSchemes = s.uri.portSchemes
  defaultScheme : s.report.uri.defaultScheme = s.uri.defaultScheme
  defaultPort : s.report.uri.defaultPort = s.uri.defaultPort
  decode : s.report.uri.decode = s.uri.decode
  directive : s.report.policy.directive = s.policy.directive
  ignoredTypes : s.report.policy.ignoredTypes = s.policy.ignoredTypes
  defaultSrcTypes : s.report.policy.defaultSrcTypes = s.policy.defaultSrcTypes
  policyStrict : s.policy.directive.strict = s.strict
  reportStrict : s.report.strict = s.strict
  reportPolicyStrict : s.report.policy.directive.strict = s.strict

/-- What the readers have in common before reports take over the tables for policies. -/
structure UrisAgree (s : Settings) : Prop where
  reportSchemes : s.report.uri.schemePorts = s.uri.schemePorts
  policySchemes : s.policy.directive.knownSchemes = s.uri.schemePorts
  portSchemes : s.report.uri.portSchemes = s.uri.portSchemes
  defaultScheme : s.report.uri.defaultScheme = s.uri.defaultScheme
  defaultPort : s.report.uri.defaultPort = s.uri.defaultPort
  decode : s.report.uri.decode = s.uri.decode

structure TablesAgree (s : Settings) : Prop extends UrisAgree s where
  directive : s.report.policy.directive = s.policy.directive
  ignoredTypes : s.report.policy.ignoredTypes = s.policy.ignoredTypes
  defaultSrcTypes : s.report.policy.defaultSrcTypes = s.policy.defaultSrcTypes

theorem urisAgree_ofProfile (p : Profile) : (ofProfile p).UrisAgree where
  reportSchemes := rfl
  policySchemes := rfl
  portSchemes := rfl
  defaultScheme := rfl
  defaultPort := rfl
  decode := rfl

variable {s s' : Settings}

theorem UrisAgree.changeTables (agree : s.UrisAgree) {change : TableChange}
    (made : s.changeTables change = .ok s') : s'.UrisAgree := by
  cases change with
  | scheme name port =>
      obtain ⟨_, _, done⟩ := bind_eq_ok_iff.mp made
      cases done
      exact { agree with
        reportSchemes := congrArg (·.add name port) agree.reportSchemes
        policySchemes := congrArg (·.add name port) agree.policySchemes }
  | portScheme text scheme =>
      obtain ⟨port, _, checked⟩ := bind_eq_ok_iff.mp made
      obtain ⟨_, _, done⟩ := bind_eq_ok_iff.mp checked
      cases done
      exact { agree with portSchemes := congrArg (·.add port scheme) agree.portSchemes }
  | defaultScheme given =>
      obtain ⟨_, _, done⟩ := bind_eq_ok_iff.mp made
      cases done
      exact { agree with defaultScheme := congrArg given.getD agree.defaultScheme }
  | defaultPort given =>
      cases made
      exact { agree with defaultPort := congrArg given.getD agree.defaultPort }
  | decode given =>
      cases made
      exact { agree with decode := congrArg given.getD agree.decode }
  | addScheme _ | addPort _ | renamedType _ _ | allowedTypes _ | ignoredTypes _ | defaultSrcTypes _
  | schemeOnly _ =>
      cases made
      exact { agree with }

theorem UrisAgree.foldlM_changeTables (agree : s.UrisAgree) {changes : List TableChange}
    (run : changes.foldlM Settings.changeTables s = .ok s') : s'.UrisAgree := by
  induction changes generalizing s with
  | nil =>
      cases run
      exact agree
  | cons change rest ih =>
      rw [List.foldlM_cons] at run
      obtain ⟨next, made, later⟩ := bind_eq_ok_iff.mp run
      exact ih (agree.changeTables made) later

theorem UrisAgree.shareTables (agree : s.UrisAgree) : s.shareTables.TablesAgree :=
  { agree with directive := rfl, ignoredTypes := rfl, defaultSrcTypes := rfl }

theorem TablesAgree.changeReport (agree : s.TablesAgree) (change : ReportChange) :
    (s.changeReport change).TablesAgree := by
  cases change <;> exact { agree with }

theorem TablesAgree.foldl_changeReport (agree : s.TablesAgree) (changes : List ReportChange) :
    (changes.foldl Settings.changeReport s).TablesAgree := by
  induction changes generalizing s with
  | nil => exact agree
  | cons change rest ih => exact ih (agree.changeReport change)

theorem TablesAgree.settleStrictness (agree : s.TablesAgree) (given : Option Bool) :
    (s.settleStrictness given).Agree :=
  { agree with
    reportPolicySchemes :=
      (congrArg DirectiveParser.knownSchemes agree.directive).trans agree.policySchemes
    directive := congrArg (fun p : DirectiveParser => { p with strict := given.getD s.strict })
      agree.directive
    policyStrict := rfl
    reportStrict := rfl
    reportPolicyStrict := rfl }

end Settings

namespace Config

variable {c : Config} {o : Overrides} {s : Settings}

theorem checkScheme_eq_ok_iff {place : SchemePlace} {name : String} :
    checkScheme place name = .ok () ↔ Scheme.isName name = true := by
  rw [checkScheme]
  split
  · exact iff_of_true rfl ‹_›
  · exact iff_of_false nofun ‹_›

theorem isStrict_selectedProfile :
    (c.selectedProfile o).isStrict = decide (o.profile.or c.profile ≠ some "lenient") := by
  rw [selectedProfile]
  cases o.profile.or c.profile with
  | none => rfl
  | some name =>
      rw [Option.map_some, Option.getD_some, Profile.ofName]
      by_cases lenient : name = "lenient"
      · rw [lenient]
        rfl
      · have other : some name ≠ some "lenient" := mt Option.some.inj lenient
        rw [if_neg (show name ≠ Profile.lenient.name from lenient), decide_eq_true other]
        rfl

/-- Names that were checked are in lower case already, so a scheme is found as it was written. -/
theorem get?_addSchemes (named : ∀ name ∈ c.schemes.keys, Scheme.isName name = true)
    (table : SchemePorts) (scheme : String) :
    (c.addSchemes table).get? scheme = (c.schemes.get? scheme).or (table.get? scheme) := by
  have written : c.schemes.entries.foldl (fun table e => table.add e.1 e.2) table =
      c.schemes.entries.foldl (fun table e => table.insert e.1 e.2) table := by
    apply List.foldl_ext
    intro made e entry
    rw [SchemePorts.add, Scheme.isName_toLower (named e.1 (List.mem_map_of_mem entry))]
  rw [addSchemes, written]
  exact SortedMap.get?_foldl_insert c.schemes.entries c.schemes.ascending table scheme

/-- The scheme that the configuration gives for a port. Different texts can write one port; the last
of them counts. -/
def schemeFor? (c : Config) (port : Port) : Option String :=
  (c.portSchemes.entries.reverse.find? fun e => Port.parse e.1 = .ok port).map Prod.snd

theorem portPair_eq_ok_iff {e : String × String} {pair : Port × String} :
    portPair e = .ok pair ↔
      Port.parse e.1 = .ok pair.1 ∧ Scheme.isName e.2 = true ∧ pair.2 = e.2 := by
  rw [portPair]
  simp only [bind_eq_ok_iff, mapError_eq_ok_iff]
  constructor
  · rintro ⟨port, parsed, _, checked, made⟩
    cases made
    exact ⟨parsed, checkScheme_eq_ok_iff.mp checked, rfl⟩
  · rintro ⟨parsed, named, scheme⟩
    exact ⟨pair.1, parsed, (), checkScheme_eq_ok_iff.mpr named, scheme ▸ rfl⟩

theorem get?_addPorts {entries : List (String × String)} {ports : List (Port × String)}
    (read : entries.mapM portPair = .ok ports) (table : PortSchemes) (port : Port) :
    (ports.foldl (fun table e => table.add e.1 e.2) table).get? port =
      ((entries.reverse.find? fun e => Port.parse e.1 = .ok port).map Prod.snd).or
        (table.get? port) := by
  induction entries generalizing ports table with
  | nil =>
      cases read
      rfl
  | cons e rest ih =>
      rw [List.mapM_cons] at read
      obtain ⟨pair, first, read⟩ := bind_eq_ok_iff.mp read
      obtain ⟨later, others, made⟩ := bind_eq_ok_iff.mp read
      cases made
      obtain ⟨parsed, named, scheme⟩ := portPair_eq_ok_iff.mp first
      rw [List.foldl_cons, ih others, PortSchemes.add, scheme, Scheme.isName_toLower named,
        SortedMap.get?_insert, List.reverse_cons, List.find?_append]
      -- What a later entry gives stays; the first entry is asked only where none of them does.
      cases rest.reverse.find? fun e => Port.parse e.1 = .ok port with
      | some found => rfl
      | none =>
          by_cases same : port = pair.1
          · simp [same, parsed]
          · have other : Port.parse e.1 ≠ .ok port := by
              rw [parsed]
              exact fun h => same (Except.ok.inj h).symm
            simp [same, other]

/-- The readers agree in the end: in what concerns URIs they do so all along, in the tables for
policies from the moment that reports take them over, and in strictness by the last step. -/
theorem readers_agree (resolved : c.resolve o = .ok s) : s.Agree := by
  obtain ⟨tables, run, checked⟩ := bind_eq_ok_iff.mp resolved
  obtain ⟨_, _, kept⟩ := bind_eq_ok_iff.mp checked
  obtain ⟨_, _, done⟩ := bind_eq_ok_iff.mp kept
  cases done
  have uris := (Settings.urisAgree_ofProfile (c.selectedProfile o)).foldlM_changeTables run
  have expansion : (tables.changeExpansion c.expandDefaultSrc).UrisAgree := { uris with }
  exact (expansion.shareTables.foldl_changeReport c.report.changes).settleStrictness _

/-- Settings that a configuration resolves to: the readers agree, they know the schemes and ports of
the configuration beside the standard ones, and they are strict if the caller says so, or else the
configuration, or else any profile but the lenient one. -/
theorem agree_of_resolve (resolved : c.resolve o = .ok s) :
    s.Agree ∧
      (∀ scheme, s.schemePorts.get? scheme =
        (c.schemes.get? scheme).or (SchemePorts.standard.get? scheme)) ∧
      (∀ port, s.uri.portSchemes.get? port =
        (c.schemeFor? port).or (PortSchemes.standard.get? port)) ∧
      s.strict =
        (o.strict.or c.strict).getD (decide (o.profile.or c.profile ≠ some "lenient")) := by
  refine ⟨readers_agree resolved, ?_⟩
  obtain ⟨schemes, ports, portsRead, _, _, _, rfl⟩ := resolve_eq_ok_iff.mp resolved
  have named : ∀ name ∈ c.schemes.keys, Scheme.isName name = true :=
    fun name listed => checkScheme_eq_ok_iff.mp (forM_eq_ok_iff.mp schemes name listed)
  refine ⟨get?_addSchemes named .standard, ?_, ?_⟩
  · exact get?_addPorts portsRead .standard
  · rw [← isStrict_selectedProfile]
    rfl

/-- A lenient profile that the configuration overrides, a scheme beside the standard ones, and two
texts for one port. -/
theorem agree_of_resolve_lenient :
    let c : Config := {
      profile := some "lenient"
      strict := some true
      uri := { defaultScheme := some "blob", decode := some false }
      schemes := .singleton "blob" none
      portSchemes := .ofList [("+8080", "https"), ("8080", "blob")] }
    let s := c.settings {} [(8080, "https"), (8080, "blob")]
    c.resolve {} = .ok s ∧ s.Agree ∧ s.schemePorts.get? "blob" = some none ∧
      s.uri.portSchemes.get? 8080 = some "blob" ∧ s.strict = true := by
  intro c s
  have resolved : c.resolve {} = .ok s := by decide +kernel
  obtain ⟨agree, schemes, ports, strict⟩ := agree_of_resolve resolved
  refine ⟨resolved, agree, (schemes "blob").trans ?_, (ports 8080).trans ?_, strict⟩
  · decide
  · decide

end Config

end ContentPolicy
