import ContentPolicy.Proofs.Runs
import ContentPolicy.Proofs.Text.Characters
import ContentPolicy.Settings.Resolution

/-!
Settings that a configuration resolves to, said at once: each field of them is a standard value that
the configuration may replace. Changing the settings of a profile entry by entry comes to the same,
with the same first fault, since no check looks at what a later entry changes.
-/

namespace ContentPolicy

namespace Config

variable {c : Config} {o : Overrides} {s : Settings}

-- A table of schemes with those of the configuration added.
def addSchemes (c : Config) (table : SchemePorts) : SchemePorts :=
  c.schemes.entries.foldl (fun table e => table.add e.1 e.2) table

def changeUri (c : Config) (ports : List (Port × String)) (p : UriParser) : UriParser where
  addScheme := p.addScheme
  defaultScheme := c.uri.defaultScheme.getD p.defaultScheme
  addPort := p.addPort
  defaultPort := c.uri.defaultPort.getD p.defaultPort
  schemePorts := c.addSchemes p.schemePorts
  portSchemes := ports.foldl (fun table e => table.add e.1 e.2) p.portSchemes
  decode := c.uri.decode.getD p.decode

def uriParser (c : Config) (ports : List (Port × String)) : UriParser :=
  let p := c.changeUri ports .standard
  { p with
    addScheme := c.uri.addScheme.getD p.addScheme
    addPort := c.uri.addPort.getD p.addPort }

def directiveParser (c : Config) (strict : Bool) : DirectiveParser :=
  let p := DirectiveParser.standard
  { strict
    renamedTypes :=
      c.directives.renamedTypes.entries.foldl (fun m e => m.insert e.1.toLower e.2.toLower)
        p.renamedTypes
    allowedTypes := (c.directives.allowed.map typeNames).getD p.allowedTypes
    knownSchemes := c.addSchemes p.knownSchemes }

def policyParser (c : Config) (strict : Bool) : PolicyParser :=
  let p := PolicyParser.standard
  { directive := c.directiveParser strict
    ignoredTypes := (c.directives.ignored.map typeNames).getD p.ignoredTypes
    expandDefaultSrc := c.expandDefaultSrc.getD p.expandDefaultSrc
    defaultSrcTypes := (c.directives.defaultSrcTypes.map typeNames).getD p.defaultSrcTypes }

def reportParser (c : Config) (ports : List (Port × String)) (strict : Bool) : ReportParser :=
  let p := ReportParser.standard
  let uri := c.changeUri ports p.uri
  { strict
    uriKeys := c.report.uriKeys.getD p.uriKeys
    directiveKeys := c.report.directiveKeys.getD p.directiveKeys
    policyKeys := c.report.policyKeys.getD p.policyKeys
    keyRenames :=
      c.report.keyRenames.entries.foldl (fun m e => m.insert (Text.lowerCase e.1) e.2) p.keyRenames
    requiredKeys := c.report.requiredKeys.getD p.requiredKeys
    uri :=
      { uri with
        addScheme := c.report.addScheme.getD uri.addScheme
        addPort := c.report.addPort.getD uri.addPort }
    policy :=
      { c.policyParser strict with
        expandDefaultSrc := c.report.expandDefaultSrc.getD p.policy.expandDefaultSrc } }

-- The caller decides, or else the configuration, or else the profile.
def strictness (c : Config) (o : Overrides) : Bool :=
  (o.strict.or c.strict).getD (c.selectedProfile o).isStrict

/-- The settings that a configuration stands for, given the ports that were read from it. -/
def settings (c : Config) (o : Overrides) (ports : List (Port × String)) : Settings where
  profile := c.selectedProfile o
  strict := c.strictness o
  uri := c.uriParser ports
  policy := c.policyParser (c.strictness o)
  report := c.reportParser ports (c.strictness o)
  schemeOnly := (c.directives.schemeOnly.map typeNames).getD Scheme.reducedToScheme

def portPair (e : String × String) : Except ConfigError (Port × String) := do
  let port ← (Port.parse e.1).mapError (ConfigError.port e.1)
  checkScheme (.port port) e.2
  return (port, e.2)

-- The schemes for ports, in the order of the written ports.
def portPairs (c : Config) : Except ConfigError (List (Port × String)) :=
  c.portSchemes.entries.mapM portPair

end Config

namespace Settings

open Config

variable {s : Settings}

/-- Schemes that are added one by one are checked one by one, and each is added to three tables. -/
theorem foldlM_schemes (entries : List (String × Option Port)) (s : Settings) :
    (entries.map fun e => TableChange.scheme e.1 e.2).foldlM changeTables s = do
      (entries.map Prod.fst).forM (checkScheme .schemes)
      return { s with
        uri.schemePorts := entries.foldl (fun table e => table.add e.1 e.2) s.uri.schemePorts
        report.uri.schemePorts :=
          entries.foldl (fun table e => table.add e.1 e.2) s.report.uri.schemePorts
        policy.directive.knownSchemes :=
          entries.foldl (fun table e => table.add e.1 e.2) s.policy.directive.knownSchemes } := by
  induction entries generalizing s with
  | nil => rfl
  | cons e rest ih =>
      rw [List.map_cons, List.map_cons, List.foldlM_cons, List.forM, changeTables]
      cases checkScheme .schemes e.1 with
      | error fault => rfl
      | ok _ => exact ih _

theorem foldlM_portSchemes (entries : List (String × String)) (s : Settings) :
    (entries.map fun e => TableChange.portScheme e.1 e.2).foldlM changeTables s = do
      let ports ← entries.mapM portPair
      return { s with
        uri.portSchemes := ports.foldl (fun table e => table.add e.1 e.2) s.uri.portSchemes
        report.uri.portSchemes :=
          ports.foldl (fun table e => table.add e.1 e.2) s.report.uri.portSchemes } := by
  induction entries generalizing s with
  | nil => rfl
  | cons e rest ih =>
      rw [List.map_cons, List.foldlM_cons, List.mapM_cons, changeTables, portPair]
      simp only [bind_assoc, pure_bind, ih, List.foldl_cons]

theorem foldlM_uriChanges (u : UriConfig) (s : Settings) :
    u.changes.foldlM changeTables s = do
      u.defaultScheme.toList.forM (checkScheme .defaultScheme)
      return { s with
        uri.addScheme := u.addScheme.getD s.uri.addScheme
        uri.defaultScheme := u.defaultScheme.getD s.uri.defaultScheme
        uri.addPort := u.addPort.getD s.uri.addPort
        uri.defaultPort := u.defaultPort.getD s.uri.defaultPort
        uri.decode := u.decode.getD s.uri.decode
        report.uri.defaultScheme := u.defaultScheme.getD s.report.uri.defaultScheme
        report.uri.defaultPort := u.defaultPort.getD s.report.uri.defaultPort
        report.uri.decode := u.decode.getD s.report.uri.decode } := by
  rw [UriConfig.changes, List.foldlM_cons, changeTables, pure_bind, List.foldlM_cons, changeTables]
  cases u.defaultScheme.toList.forM (checkScheme .defaultScheme) with
  | error fault => rfl
  | ok _ => rfl

theorem foldlM_renamedTypes (entries : List (String × String)) (s : Settings) :
    (entries.map fun e => TableChange.renamedType e.1 e.2).foldlM changeTables s =
      .ok { s with
        policy.directive.renamedTypes :=
          entries.foldl (fun m e => m.insert e.1.toLower e.2.toLower)
            s.policy.directive.renamedTypes } := by
  induction entries generalizing s with
  | nil => rfl
  | cons e rest ih =>
      rw [List.map_cons, List.foldlM_cons]
      exact ih _

theorem foldl_keyRenames (entries : List (String × String)) (s : Settings) :
    (entries.map fun e => ReportChange.keyRename e.1 e.2).foldl changeReport s =
      { s with
        report.keyRenames :=
          entries.foldl (fun m e => m.insert (Text.lowerCase e.1) e.2) s.report.keyRenames } := by
  induction entries generalizing s with
  | nil => rfl
  | cons e rest ih => exact ih _

end Settings

namespace Config

variable {c : Config} {o : Overrides} {s : Settings}

/-- The settings of the profile with all changes outside reports. -/
def tables (c : Config) (o : Overrides) (ports : List (Port × String)) : Settings :=
  let s := Settings.ofProfile (c.selectedProfile o)
  { s with
    uri := c.uriParser ports
    policy := { c.policyParser s.strict with expandDefaultSrc := s.policy.expandDefaultSrc }
    report.uri := c.changeUri ports s.report.uri
    schemeOnly := (c.directives.schemeOnly.map typeNames).getD s.schemeOnly }

theorem foldlM_tableChanges (c : Config) (o : Overrides) :
    c.tableChanges.foldlM Settings.changeTables (.ofProfile (c.selectedProfile o)) = do
      c.schemes.keys.forM (checkScheme .schemes)
      let ports ← c.portPairs
      c.uri.defaultScheme.toList.forM (checkScheme .defaultScheme)
      return c.tables o ports := by
  rw [tableChanges, List.foldlM_append, Settings.foldlM_schemes, bind_assoc]
  refine bind_congr fun _ => ?_
  rw [pure_bind, List.foldlM_append, Settings.foldlM_portSchemes, bind_assoc]
  refine bind_congr fun ports => ?_
  rw [pure_bind, List.foldlM_append, Settings.foldlM_uriChanges, bind_assoc]
  refine bind_congr fun _ => ?_
  rw [pure_bind, DirectivesConfig.changes, List.foldlM_append, Settings.foldlM_renamedTypes]
  rfl

/-- The changes of a configuration, one after the other, come to the checks of its entries and,
where none fails, to the settings that it stands for. -/
theorem resolve_eq (c : Config) (o : Overrides) :
    c.resolve o = do
      c.schemes.keys.forM (checkScheme .schemes)
      let ports ← c.portPairs
      c.uri.defaultScheme.toList.forM (checkScheme .defaultScheme)
      checkTypes (c.settings o ports).policy
      checkKeys (c.settings o ports).report
      return c.settings o ports := by
  rw [resolve, foldlM_tableChanges]
  simp only [bind_assoc, pure_bind, ReportConfig.changes, List.foldl_append,
    Settings.foldl_keyRenames]
  rfl

theorem resolve_eq_ok_iff :
    c.resolve o = .ok s ↔
      c.schemes.keys.forM (checkScheme .schemes) = .ok () ∧ ∃ ports, c.portPairs = .ok ports ∧
        c.uri.defaultScheme.toList.forM (checkScheme .defaultScheme) = .ok () ∧
        checkTypes (c.settings o ports).policy = .ok () ∧
        checkKeys (c.settings o ports).report = .ok () ∧ c.settings o ports = s := by
  rw [resolve_eq]
  simp only [bind_eq_ok_iff]
  constructor
  · rintro ⟨⟨⟩, schemes, ports, portsRead, ⟨⟩, default, ⟨⟩, types, ⟨⟩, keys, made⟩
    exact ⟨schemes, ports, portsRead, default, types, keys, Except.ok.inj made⟩
  · rintro ⟨schemes, ports, portsRead, default, types, keys, rfl⟩
    exact ⟨(), schemes, ports, portsRead, (), default, (), types, (), keys, rfl⟩

theorem lowered_of_mem_typeNames {names : List String} {name : String}
    (member : name ∈ typeNames names) : name.toLower = name := by
  obtain ⟨written, _, rfl⟩ := List.mem_map.mp member
  rw [← String.toList_inj, Text.toList_toLower, String.toList_ofList, Text.lower_lower]

theorem lowered_of_allowed {strict : Bool} {name : String}
    (allowed : name ∈ (c.directiveParser strict).allowedTypes) : name.toLower = name := by
  have standard : ∀ t ∈ DirectiveParser.standardTypes, t.toLower = t := by decide +kernel
  rw [directiveParser] at allowed
  cases given : c.directives.allowed with
  | none =>
      rw [given] at allowed
      exact standard name allowed
  | some names =>
      rw [given] at allowed
      exact lowered_of_mem_typeNames allowed

end Config

namespace Settings

theorem load_eq_ok_iff {text : String} {o : Overrides} {s : Settings} :
    load text o = .ok s ↔ ∃ c, Config.ofText text = .ok c ∧ c.resolve o = .ok s := by
  rw [load, bind_eq_ok_iff]
  simp only [mapError_eq_ok_iff]

theorem lowered_of_allowed {text : String} {o : Overrides} {s : Settings}
    (loaded : load text o = .ok s) {name : String}
    (allowed : name ∈ s.report.policy.directive.allowedTypes) : name.toLower = name := by
  obtain ⟨c, _, resolved⟩ := load_eq_ok_iff.mp loaded
  obtain ⟨_, ports, _, _, _, _, rfl⟩ := Config.resolve_eq_ok_iff.mp resolved
  exact Config.lowered_of_allowed allowed

end Settings

end ContentPolicy
