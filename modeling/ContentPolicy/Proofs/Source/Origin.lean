import ContentPolicy.Proofs.Source.Matching

/-!
The origin of a location, and what sources make of it. Of a scheme, a host and a port sources see
no more than the origin, so what they allow goes by the origins of the resource and of the document
and by the path of the resource. The keyword for the origin of the document is as good as that
origin spelled out. A host that is missing is refused by every pattern with a host, except that a
star alone takes it for a host like any other.
-/

namespace ContentPolicy

/-- Where a location is served from: scheme and host in lower case, and the port, which is that of
the scheme where none is written. -/
@[ext]
structure Origin where
  scheme : String
  host : String
  port : Option Port

namespace Location

variable {l : Location} {ports : SchemePorts}

def origin (ports : SchemePorts) (l : Location) : Origin where
  scheme := l.scheme.toLower
  host := l.host.toLower
  port := l.port.or (ports.entry? l.scheme.toLower).join

theorem origin_port (named : l.scheme ≠ "") :
    (l.origin ports).port = l.port.or (ports.defaultPort? l.scheme.toLower) := by
  have lowered : l.scheme.toLower ≠ "" := mt Text.toLower_eq_empty_iff.mp named
  rw [origin, SchemePorts.entry?, if_neg lowered, SchemePorts.defaultPort?]

theorem origin_named_iff : (l.origin ports).scheme ≠ "" ↔ l.scheme ≠ "" :=
  not_congr Text.toLower_eq_empty_iff

end Location

theorem sameOrigin_iff {resource document : Location} {ports : SchemePorts} :
    sameOrigin resource document ports = true ↔
      (document.origin ports).scheme ≠ "" ∧ (document.origin ports).port.isSome = true ∧
        document.origin ports = resource.origin ports := by
  simp only [sameOrigin, Bool.and_eq_true, decide_eq_true_eq, Location.origin_named_iff]
  constructor
  · rintro ⟨⟨⟨⟨⟨resourceNamed, named⟩, hasPort⟩, schemes⟩, hosts⟩, samePort⟩
    rw [← Location.origin_port named] at hasPort samePort
    rw [← Location.origin_port resourceNamed] at samePort
    exact ⟨named, hasPort, Origin.ext schemes hosts samePort⟩
  · rintro ⟨named, hasPort, same⟩
    have originNamed : (resource.origin ports).scheme ≠ "" :=
      same ▸ Location.origin_named_iff.mpr named
    have resourceNamed : resource.scheme ≠ "" := Location.origin_named_iff.mp originNamed
    have schemes := congrArg Origin.scheme same
    have hosts := congrArg Origin.host same
    have samePort := congrArg Origin.port same
    rw [Location.origin_port named] at hasPort samePort
    rw [Location.origin_port resourceNamed] at samePort
    exact ⟨⟨⟨⟨⟨resourceNamed, named⟩, hasPort⟩, schemes⟩, hosts⟩, samePort⟩

namespace UriPattern

variable {p : UriPattern} {l m : Location} {document other : Uri} {ports : SchemePorts}

theorem portAllows_implied (known : Option (Option Port)) (written : Option Port) :
    p.portAllows known (written.or known.join) = p.portAllows known written := by
  simp only [portAllows, Option.or_assoc, Option.or_self]

theorem Fits.of_origin (fits : p.Fits l document ports)
    (origins : l.origin ports = m.origin ports) (paths : l.path = m.path)
    (documents : document.location.origin ports = other.location.origin ports) :
    p.Fits m other ports := by
  have schemes : l.scheme.toLower = m.scheme.toLower := congrArg Origin.scheme origins
  have hosts : l.host.toLower = m.host.toLower := congrArg Origin.host origins
  have documentSchemes : document.location.scheme.toLower = other.location.scheme.toLower :=
    congrArg Origin.scheme documents
  have samePort : l.port.or (ports.entry? l.scheme.toLower).join =
      m.port.or (ports.entry? m.scheme.toLower).join := congrArg Origin.port origins
  constructor
  · rw [← schemes, ← documentSchemes]
    exact fits.scheme
  · rw [← hosts]
    exact fits.host
  · rw [← portAllows_implied, ← samePort, ← schemes, portAllows_implied]
    exact fits.port
  · rw [← paths]
    exact fits.path

theorem allows_of_origin (allowed : p.allows (.regular l) document ports = true)
    (origins : l.origin ports = m.origin ports) (paths : l.path = m.path)
    (documents : document.location.origin ports = other.location.origin ports) :
    p.allows (.regular m) other ports = true := by
  refine allows_regular_iff.mpr ?_
  rcases allows_regular_iff.mp allowed with any | ⟨only, same⟩ | fits
  · exact .inl any
  · exact .inr (.inl ⟨only, same.trans (congrArg Origin.scheme origins)⟩)
  · exact .inr (.inr (fits.of_origin origins paths documents))

theorem head?_toLower_ne_star {host : String} (literal : host.toList.head? ≠ some '*') :
    host.toLower.toList.head? ≠ some '*' := by
  rw [Text.toList_toLower, Text.lower, List.head?_map]
  intro star
  obtain ⟨c, first, lowered⟩ := Option.map_eq_some_iff.mp star
  rw [(Text.toLower_eq_iff (.inl rfl)).mp lowered] at first
  exact literal first

/-- A pattern of a scheme, a host without a star and the number of a port allows just the locations
of that origin. -/
theorem allows_iff_origin {scheme host : String} {port : Port} (named : scheme ≠ "")
    (hosted : host ≠ "") (literal : host.toList.head? ≠ some '*') :
    (make scheme host (some (.number port)) "").allows (.regular l) document ports = true ↔
      l.origin ports = ⟨scheme.toLower, host.toLower, some port⟩ := by
  have schemeNamed : scheme.toLower ≠ "" := mt Text.toLower_eq_empty_iff.mp named
  have hostHosted : host.toLower ≠ "" := mt Text.toLower_eq_empty_iff.mp hosted
  have hostLiteral : host.toLower.toList.head? ≠ some '*' := head?_toLower_ne_star literal
  have notAny : (make scheme host (some (.number port)) "").isAny = false := by
    simp [isAny, make]
  rw [allows_iff_fits hostHosted notAny]
  constructor
  · intro fits
    exact Origin.ext ((schemeAllows_iff_of_named schemeNamed).mp fits.scheme).symm
      ((hostAllows_iff_of_literal hostHosted hostLiteral).mp fits.host).symm
      (of_decide_eq_true fits.port)
  · intro same
    have schemes : l.scheme.toLower = scheme.toLower := congrArg Origin.scheme same
    have hosts : l.host.toLower = host.toLower := congrArg Origin.host same
    constructor
    · exact (schemeAllows_iff_of_named schemeNamed).mpr schemes.symm
    · exact (hostAllows_iff_of_literal hostHosted hostLiteral).mpr hosts.symm
    · exact decide_eq_true (congrArg Origin.port same)
    · rfl

theorem hostAllows_of_star (star : p.host = "*") (host : String) : p.hostAllows host = true :=
  hostAllows_iff.mpr (.inr (.inr ⟨[], congrArg String.toList star, List.nil_suffix⟩))

theorem hostAllows_empty_iff (hosted : p.host ≠ "") : p.hostAllows "" = true ↔ p.host = "*" := by
  constructor
  · intro allowed
    rcases hostAllows_iff.mp allowed with empty | empty | ⟨ending, star, suffix⟩
    · exact absurd empty hosted
    · exact absurd empty hosted
    · rw [List.suffix_nil.mp suffix] at star
      exact String.toList_inj.mp star
  · exact fun star => hostAllows_of_star star ""

theorem allows_hostless_iff (hosted : p.host ≠ "") (notAny : p.isAny = false)
    (hostless : l.host = "") (host : String) :
    p.allows (.regular l) document ports = true ↔
      p.host = "*" ∧ p.allows (.regular { l with host }) document ports = true := by
  rw [allows_iff_fits hosted notAny, allows_iff_fits hosted notAny]
  constructor
  · intro fits
    have missing : p.hostAllows "" = true := Text.toLower_eq_empty_iff.mpr hostless ▸ fits.host
    have star := (hostAllows_empty_iff hosted).mp missing
    exact ⟨star, fits.scheme, hostAllows_of_star star _, fits.port, fits.path⟩
  · rintro ⟨star, fits⟩
    exact ⟨fits.scheme, hostAllows_of_star star _, fits.port, fits.path⟩

theorem schemeAllows_self {name : String} (notEmpty : name ≠ "")
    (same : p.scheme = "" ∨ p.scheme = name) : p.schemeAllows name name = true := by
  by_cases named : p.scheme = ""
  · rw [schemeAllows, if_neg (not_not_intro named), if_neg notEmpty]
    split
    · rename_i http
      simp [http]
    · exact decide_eq_true rfl
  · exact (schemeAllows_iff_of_named named).mpr (same.resolve_left named)

theorem exists_portAllows (p : UriPattern) : ∃ port, p.portAllows none port = true := by
  cases written : p.port with
  | none => exact ⟨none, by rw [portAllows, written]⟩
  | some pattern =>
      cases pattern with
      | number port => exact ⟨some port, by rw [portAllows, written]; exact decide_eq_true rfl⟩
      | any => exact ⟨none, by rw [portAllows, written]⟩

theorem exists_hostless (lowered : p.scheme.toLower = p.scheme) (star : p.host = "*") :
    ∃ (l : Location) (document : Uri) (ports : SchemePorts),
      l.host = "" ∧ p.allows (.regular l) document ports = true := by
  obtain ⟨name, notEmpty, same, loweredName⟩ : ∃ name : String, name ≠ "" ∧
      (p.scheme = "" ∨ p.scheme = name) ∧ name.toLower = name := by
    by_cases named : p.scheme = ""
    · exact ⟨"a", by decide, .inl named, by decide +kernel⟩
    · exact ⟨p.scheme, named, .inr rfl, lowered⟩
  obtain ⟨port, portFits⟩ := p.exists_portAllows
  have unknown : SchemePorts.entry? ∅ name.toLower = none := by
    rw [SchemePorts.entry?, SortedMap.get?_empty, ite_self]
  refine ⟨⟨name, "", port, p.path, ""⟩, .ofScheme name, ∅, rfl,
    allows_regular_iff.mpr (.inr (.inr ?_))⟩
  constructor
  · change p.schemeAllows name.toLower name.toLower = true
    rw [loweredName]
    exact schemeAllows_self notEmpty same
  · exact hostAllows_of_star star _
  · rw [unknown]
    exact portFits
  · exact p.pathAllows_self

/-- A pattern with a host refuses all resources without one if and only if its host is no lone star.
A lone star goes by the other components, and allows what it would allow with any host in place of
the missing one. -/
theorem refuses_hostless_iff (scheme path : String) (port : Option PortPattern) {host : String}
    (hosted : host ≠ "") (notAny : (make scheme host port path).isAny = false) :
    let p := make scheme host port path
    ((∀ (l : Location) (document : Uri) (ports : SchemePorts), l.host = "" →
        p.allows (.regular l) document ports = false) ↔ host ≠ "*") ∧
      ∀ (l : Location) (document : Uri) (ports : SchemePorts), l.host = "" → ∀ other : String,
        (p.allows (.regular l) document ports = true ↔
          host = "*" ∧ p.allows (.regular { l with host := other }) document ports = true) := by
  intro p
  have pHosted : p.host ≠ "" := mt Text.toLower_eq_empty_iff.mp hosted
  have isStar : p.host = "*" ↔ host = "*" := toLower_eq_star_iff
  refine ⟨⟨?_, ?_⟩, ?_⟩
  · rintro refused star
    obtain ⟨l, document, ports, hostless, allowed⟩ :=
      exists_hostless (p := p) (Text.toLower_idempotent scheme) (isStar.mpr star)
    exact Bool.false_ne_true ((refused l document ports hostless).symm.trans allowed)
  · intro noStar l document ports hostless
    rw [← Bool.not_eq_true, allows_hostless_iff pHosted notAny hostless "", isStar]
    exact fun allowed => noStar allowed.1
  · intro l document ports hostless other
    rw [allows_hostless_iff pHosted notAny hostless other, isStar]

/-- All names below a domain, on any port: nothing that has no host is among them. -/
theorem refuses_hostless_subdomain :
    let p := make "HTTPS" "*.D" (some .any) "/js/"
    "*.D" ≠ "" ∧ p.isAny = false ∧
      ∀ (l : Location) (document : Uri) (ports : SchemePorts), l.host = "" →
        p.allows (.regular l) document ports = false := by
  have notAny : (make "HTTPS" "*.D" (some .any) "/js/").isAny = false := by simp [isAny, make]
  have hosted : "*.D" ≠ "" := by decide
  exact ⟨hosted, notAny, (refuses_hostless_iff "HTTPS" "/js/" (some .any) hosted notAny).1.mpr
    (by decide)⟩

/-- A star alone for the host, behind a scheme, allows that scheme without any host. -/
theorem allows_hostless_star :
    ¬∀ (scheme host path : String) (port : Option PortPattern) (l : Location) (document : Uri)
      (ports : SchemePorts), host ≠ "" → (make scheme host port path).isAny = false →
        l.host = "" → (make scheme host port path).allows (.regular l) document ports = false := by
  intro all
  have refused := all "http" "*" "" none (.ofScheme "http") .empty (.singleton "http" (some 80))
    (by decide) (by simp [isAny, make, Text.toLower_eq_empty_iff]) rfl
  exact absurd refused (by decide +kernel)

end UriPattern

namespace Source

variable {l m : Location} {document other : Uri} {ports : SchemePorts}

theorem self_allows_iff :
    Source.self.allows (.regular l) document ports = true ↔
      (document.location.origin ports).scheme ≠ "" ∧
        (document.location.origin ports).port.isSome = true ∧
        document.location.origin ports = l.origin ports := sameOrigin_iff

theorem allows_congr (s : Source) (origins : l.origin ports = m.origin ports)
    (paths : l.path = m.path)
    (documents : document.location.origin ports = other.location.origin ports) :
    s.allows (.regular l) document ports = s.allows (.regular m) other ports := by
  cases s with
  | uri p =>
      refine Bool.eq_iff_iff.mpr ⟨fun allowed => ?_, fun allowed => ?_⟩
      · exact UriPattern.allows_of_origin allowed origins paths documents
      · exact UriPattern.allows_of_origin allowed origins.symm paths.symm documents.symm
  | self =>
      rw [Bool.eq_iff_iff, self_allows_iff, self_allows_iff, origins, documents]
  | unsafeInline => simp [allows]
  | unsafeEval => simp [allows]
  | invalid => rfl

/-- The keyword for the origin of the document allows just what a pattern allows that spells this
origin out, wherever that pattern is applied. -/
theorem self_allows_eq_spelled (named : document.location.scheme ≠ "")
    (hosted : document.location.host ≠ "")
    (literal : document.location.host.toList.head? ≠ some '*') {port : Port}
    (resolved : document.location.port.or
      (ports.defaultPort? document.location.scheme.toLower) = some port)
    (resource other : Uri) :
    Source.self.allows resource document ports =
      (Source.uri (.make document.location.scheme document.location.host (some (.number port))
        "")).allows resource other ports := by
  cases resource with
  | regular l =>
      rw [← Location.origin_port named] at resolved
      have spelled : document.location.origin ports =
          ⟨document.location.scheme.toLower, document.location.host.toLower, some port⟩ :=
        Origin.ext rfl rfl resolved
      rw [Bool.eq_iff_iff, self_allows_iff, allows,
        UriPattern.allows_iff_origin named hosted literal, resolved, ← spelled]
      constructor
      · rintro ⟨_, _, same⟩
        exact same.symm
      · exact fun same => ⟨Location.origin_named_iff.mpr named, rfl, same.symm⟩
  | empty => rfl
  | invalid => rfl
  | inline => rfl
  | eval => rfl

/-- A document with a host in capitals and no port, and a resource with both spelled out. -/
theorem self_allows_eq_spelled_http :
    let document := Uri.regular ⟨"HTTP", "App.D", none, "/index", ""⟩
    let resource := Uri.regular ⟨"http", "app.d", some 80, "/x", "q"⟩
    let ports : SchemePorts := .singleton "http" (some 80)
    let d := document.location
    d.scheme ≠ "" ∧ d.host ≠ "" ∧ d.host.toList.head? ≠ some '*' ∧
      d.port.or (ports.defaultPort? d.scheme.toLower) = some 80 ∧
      Source.self.allows resource document ports =
        (Source.uri (.make d.scheme d.host (some (.number 80)) "")).allows resource .empty ports ∧
      Source.self.allows resource document ports = true := by
  have lowered : "HTTP".toLower = "http" ∧ "http".toLower = "http" ∧ "App.D".toLower = "app.d" ∧
      "app.d".toLower = "app.d" := by
    decide +kernel
  intro document resource ports d
  have allowed : Source.self.allows resource document ports = true := by
    simp only [Source.allows, sameOrigin, Uri.location, document, resource, lowered]
    decide
  have named : document.location.scheme ≠ "" := by decide
  have hosted : document.location.host ≠ "" := by decide
  have literal : document.location.host.toList.head? ≠ some '*' := by decide
  have resolved : document.location.port.or
      (ports.defaultPort? document.location.scheme.toLower) = some 80 := by decide +kernel
  exact ⟨named, hosted, literal, resolved,
    self_allows_eq_spelled named hosted literal resolved resource .empty, allowed⟩

end Source

end ContentPolicy
