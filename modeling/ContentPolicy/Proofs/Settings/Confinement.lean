import ContentPolicy.Proofs.Policy.RoundTrip
import ContentPolicy.Proofs.Report.Reading
import ContentPolicy.Proofs.Settings.Soundness

/-!
Policies that are read with settings keep to the tables of the settings: their directives have
allowed types, and their patterns have known schemes or none. Reading checks the words that are
written; that copies of the directive for all types keep to the tables as well, and that all readers
go by the same tables, is due to the checks on the configuration.
-/

namespace ContentPolicy

/-- Whether each directive has one of the types, and each of its patterns one of the schemes or
none. -/
def Policy.KeepsTo (types : List String) (known : SchemePorts) (q : Policy) : Prop :=
  ∀ d ∈ q.directives, d.type ∈ types ∧
    ∀ p, .uri p ∈ d.sources → p.scheme = "" ∨ p.scheme ∈ known.keys

theorem UriPattern.Readable.scheme_known {known : SchemePorts} {p : UriPattern}
    (readable : p.Readable known) : p.scheme = "" ∨ p.scheme ∈ known.keys := by
  have listed : ∀ {name : String}, known.contains name = true → name ∈ known.keys :=
    fun {name} isKnown =>
      (SortedMap.mem_keys_iff known name).mpr ((SortedMap.contains_iff known name).mp isKnown)
  cases readable with
  | scheme isKnown => exact .inr (listed isKnown)
  | data isKnown _ _ _ _ => exact .inr (listed isKnown)
  | located isKnown _ _ _ => exact isKnown.imp_right fun both => listed both.1

structure PolicyParser.IsClosed (p : PolicyParser) : Prop where
  named : p.directive.knownSchemes.Named
  fallbacks : ∀ type ∈ p.defaultSrcTypes, type ∈ p.directive.allowedTypes

namespace PolicyParser

variable {p : PolicyParser}

theorem parse_keepsTo (closed : p.IsClosed) (text : String) :
    (p.parse text).KeepsTo p.directive.allowedTypes p.directive.knownSchemes := by
  intro d member
  cases read : p.parse text with
  | invalid =>
      rw [read] at member
      cases member
  | valid m =>
      rw [read] at member
      obtain ⟨e, entry, rfl⟩ := List.mem_map.mp member
      obtain ⟨type, sources⟩ := readable_of_get? closed.named read (SortedMap.get?_of_mem entry)
      constructor
      · rcases type with allowed | listed
        · exact List.contains_iff_mem.mp allowed
        · exact closed.fallbacks _ listed
      · exact fun q source => (sources (.uri q) source).1.scheme_known

end PolicyParser

theorem ReportParser.policy?_keepsTo {p : ReportParser} (closed : p.policy.IsClosed) {r : Report}
    (read : p.AllRead r.fields) {key : String} {q : Policy} (found : r.policy? key = some q) :
    q.KeepsTo p.policy.directive.allowedTypes p.policy.directive.knownSchemes := by
  obtain ⟨_, text, rfl⟩ := isRead_of_policy? read found
  -- How strict the reader is changes none of its tables.
  have same : p.policyParser.IsClosed := ⟨closed.named, closed.fallbacks⟩
  exact p.policyParser.parse_keepsTo same text

namespace Config

variable {c : Config} {o : Overrides} {s : Settings}

/-- All schemes that resolved settings know are names: the standard ones are, and the others were
checked. -/
theorem schemePorts_named (resolved : c.resolve o = .ok s) : s.schemePorts.Named := by
  obtain ⟨schemes, ports, _, _, _, _, rfl⟩ := resolve_eq_ok_iff.mp resolved
  have named : ∀ name ∈ c.schemes.keys, Scheme.isName name = true :=
    fun name listed => checkScheme_eq_ok_iff.mp (forM_eq_ok_iff.mp schemes name listed)
  intro name isKnown
  obtain ⟨port, found⟩ := (SortedMap.contains_iff _ name).mp isKnown
  have origin := (get?_addSchemes named .standard name).symm.trans found
  rcases Option.or_eq_some_iff.mp origin with own | ⟨_, standard⟩
  · exact named name ((SortedMap.mem_keys_iff _ name).mpr ⟨port, own⟩)
  · exact SchemePorts.standard_named name ((SortedMap.contains_iff _ name).mpr ⟨port, standard⟩)

theorem isClosed_of_resolve (resolved : c.resolve o = .ok s) :
    s.policy.IsClosed ∧ s.report.policy.IsClosed ∧ s.Agree := by
  have named := schemePorts_named resolved
  have agree := readers_agree resolved
  obtain ⟨_, ports, _, _, types, _, rfl⟩ := resolve_eq_ok_iff.mp resolved
  have closed : (c.settings o ports).policy.IsClosed :=
    ⟨agree.policySchemes ▸ named, checkTypes_eq_ok_iff.mp types⟩
  refine ⟨closed, ⟨agree.reportPolicySchemes ▸ named, ?_⟩, agree⟩
  rw [agree.defaultSrcTypes, agree.directive]
  exact closed.fallbacks

end Config

namespace Settings

def Confines (s : Settings) (q : Policy) : Prop :=
  q.KeepsTo s.policy.directive.allowedTypes s.schemePorts

/-- With settings that were loaded, every policy that is read keeps to their types and schemes,
whether it stands alone, in a report or in the report of a log entry. -/
theorem confines_of_load {text : String} {o : Overrides} {s : Settings}
    (loaded : load text o = .ok s) (input : String) :
    s.Confines (s.policy.parse input) ∧
      (∀ key q, (s.report.parse input).policy? key = some q → s.Confines q) ∧
        ∀ field r, (s.logEntry.parse input).get? field = some (.report r) →
          ∀ key q, r.policy? key = some q → s.Confines q := by
  obtain ⟨c, _, resolved⟩ := load_eq_ok_iff.mp loaded
  obtain ⟨closed, reportClosed, agree⟩ := Config.isClosed_of_resolve resolved
  have confines : ∀ q, q.KeepsTo s.report.policy.directive.allowedTypes
      s.report.policy.directive.knownSchemes → s.Confines q := by
    intro q keeps
    rw [agree.reportPolicySchemes, agree.directive] at keeps
    exact keeps
  refine ⟨?_, ?_, ?_⟩
  · have keeps := PolicyParser.parse_keepsTo closed input
    rw [agree.policySchemes] at keeps
    exact keeps
  · intro key q found
    exact confines q
      (ReportParser.policy?_keepsTo reportClosed (ReportParser.parse_allRead input) found)
  · intro field r entry key q found
    -- The report of an entry is read with other switches, but by the same tables.
    have entryClosed : s.logEntry.report.policy.IsClosed :=
      ⟨reportClosed.named, reportClosed.fallbacks⟩
    obtain ⟨json, rfl⟩ := LogEntryParser.parse_allRead input field r entry
    exact confines q (ReportParser.policy?_keepsTo entryClosed
      (ReportParser.parseJson_allRead json) found)

/-- A scheme beside the standard ones, and one type that falls back in place of the standard ones: a
copy of the directive for all types, data in a report, and in a log entry the directive for all
types as it was sent. -/
theorem confines_of_load_blob :
    let text := "[schemes.blob]\n[directives]\nallowed = [\"Default-Src\", \"img-src\"]\n" ++
      "default_src_types = [\" IMG-SRC\"]\n"
    let c : Config := {
      schemes := .singleton "blob" none
      directives := {
        allowed := some ["Default-Src", "img-src"]
        defaultSrcTypes := some [" IMG-SRC"] } }
    let s := c.settings {} []
    let report (policy : String) := "\x7b\"blocked-uri\":\"self\",\"document-uri\":\"http://d\"," ++
      "\"violated-directive\":\"img-src *\",\"original-policy\":\"" ++ policy ++ "\"\x7d"
    let entry (report : String) := "\x7b\"csp-report\":" ++ report ++ "\x7d"
    let key := "original-policy"
    load text {} = .ok s ∧
      (s.policy.parse "default-src BLOB:" =
          .valid (.singleton "img-src" (.singleton (.uri (.ofScheme "blob")))) ∧
        s.Confines (s.policy.parse "default-src BLOB:")) ∧
      (∃ q, (s.report.parse (report "Img-Src data:x")).policy? key = some q ∧ s.Confines q) ∧
        ∃ r q, (s.logEntry.parse (entry (report "default-src 'self'"))).get? LogEntry.reportKey =
          some (.report r) ∧ r.policy? key = some q ∧ s.Confines q := by
  intro text c s report entry key
  have loaded : load text {} = .ok s :=
    load_eq_ok_iff.mpr ⟨c, by decide +kernel, by decide +kernel⟩
  obtain ⟨parsed, reported, logged⟩ :
      s.policy.parse "default-src BLOB:" =
          .valid (.singleton "img-src" (.singleton (.uri (.ofScheme "blob")))) ∧
        ((s.report.parse (report "Img-Src data:x")).policy? key).isSome = true ∧
          ((s.logEntry.parse (entry (report "default-src 'self'"))).report?.bind
            (·.policy? key)).isSome = true := by
    decide +kernel
  obtain ⟨q, found⟩ := Option.isSome_iff_exists.mp reported
  obtain ⟨inner, both⟩ := Option.isSome_iff_exists.mp logged
  obtain ⟨r, isReport, foundInner⟩ := Option.bind_eq_some_iff.mp both
  have field := LogEntry.report?_eq_some_iff.mp isReport
  exact ⟨loaded, ⟨parsed, (confines_of_load loaded _).1⟩,
    ⟨q, found, (confines_of_load loaded _).2.1 key q found⟩,
    r, inner, field, foundInner, (confines_of_load loaded _).2.2 _ r field key inner foundInner⟩

end Settings

end ContentPolicy
