import ContentPolicy.Source
import ContentPolicy.Uri

/-!
When a source allows a resource to be loaded by a document. A pattern allows a located resource when
its scheme, host, port and path each do; a component that the pattern does not name is open, except
that a missing scheme follows the document and a missing port means the default port of a known
scheme.
-/

namespace ContentPolicy

namespace SchemePorts

def entry? (table : SchemePorts) (scheme : String) : Option (Option Port) :=
  if scheme = "" then none else table.get? scheme

end SchemePorts

namespace UriPattern

/-- A pattern without a scheme takes that of the document; a document under `http` also admits
resources under `https`. -/
def schemeAllows (p : UriPattern) (resourceScheme documentScheme : String) : Bool :=
  if p.scheme ≠ "" then p.scheme = resourceScheme
  else if documentScheme = "" then false
  else if documentScheme = "http" then resourceScheme = "http" || resourceScheme = "https"
  else documentScheme = resourceScheme

/-- After a star comes an ending that the host must have. -/
def hostAllows (p : UriPattern) (resourceHost : String) : Bool :=
  match p.host.toList with
  | [] => true
  | '*' :: ending => ending.isSuffixOf resourceHost.toList
  | host => host = resourceHost.toList

/-- `known` is the table's entry for the scheme of the resource. -/
def portAllows (p : UriPattern) (known : Option (Option Port)) (written : Option Port) : Bool :=
  let port := written.or known.join
  match p.port with
  | some .any => true
  | some (.number n) => port = some n
  | none =>
      match known with
      -- A known scheme without a port admits only resources without one.
      | some default => port = default
      | none => true

/-- A path that ends in a slash covers all that is below it. A resource without a path has the path
of a single slash. -/
def pathAllows (p : UriPattern) (resourcePath : String) : Bool :=
  let path := if resourcePath = "" then ['/'] else resourcePath.toList
  if p.path = "" then true
  else if p.path.toList.getLast? = some '/' then p.path.toList.isPrefixOf path
  else p.path.toList = path

def allows (p : UriPattern) (resource document : Uri) (ports : SchemePorts) : Bool :=
  match resource with
  | .regular l =>
      let scheme := l.scheme.toLower
      if p.isAny then true
      else if p.isSchemeOnly then p.scheme = scheme
      else
        p.schemeAllows scheme document.location.scheme.toLower &&
          p.hostAllows l.host.toLower &&
          p.portAllows (ports.entry? scheme) l.port &&
          p.pathAllows l.path
  | _ => false

end UriPattern

/-- Whether a resource has the origin of the document: the same scheme, host and port, where a port
that is not written is the default port of the scheme. Without a port there is no origin. -/
def sameOrigin (resource document : Location) (ports : SchemePorts) : Bool :=
  let scheme := resource.scheme.toLower
  let documentScheme := document.scheme.toLower
  let port := resource.port.or (ports.defaultPort? scheme)
  let documentPort := document.port.or (ports.defaultPort? documentScheme)
  resource.scheme ≠ "" && document.scheme ≠ "" && documentPort.isSome && documentScheme = scheme &&
    document.host.toLower = resource.host.toLower && documentPort = port

namespace Source

def allows (s : Source) (resource document : Uri) (ports : SchemePorts) : Bool :=
  match s with
  | .uri pattern => pattern.allows resource document ports
  | .self => resource.isRegular && sameOrigin resource.location document.location ports
  | .unsafeInline => resource = .inline
  | .unsafeEval => resource = .eval
  | .invalid => false

end Source

end ContentPolicy
