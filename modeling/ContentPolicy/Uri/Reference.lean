import ContentPolicy.Scheme
import ContentPolicy.Text.Characters
import ContentPolicy.Uri.Authority
import ContentPolicy.Uri.Parts

/-!
What a text refers to, before its components are checked. URIs and sources are read by the same
rules and differ in the form of authority that they admit.
-/

namespace ContentPolicy

inductive Reference where
  /-- The text is blank, or the word `null`. -/
  | empty
  | invalid
  /-- The text is a known scheme, alone or with the marks that follow a scheme. -/
  | schemeOnly (scheme : String)
  /-- A scheme without slashes, and its data. -/
  | withData (scheme : String) (data : List Char)
  /-- A host with what stands around it; the host is in lower case. -/
  | located (scheme : Option String) (authority : Authority) (path query : List Char)

namespace Reference

def bareScheme? (known : SchemePorts) (cs : List Char) : Option String :=
  let name := Text.lower cs
  let candidates :=
    [some name, Text.beforeEnd? [':'] name, Text.beforeEnd? [':', '/', '/'] name]
  (candidates.filterMap fun c => c.map String.ofList).find? known.contains

/-- The parts of a text that refers to a host, and its scheme if it has one. Without an authority
after the scheme, what looked like a scheme was none, and the text starts with its host. -/
def hostParts (cs : List Char) (parts : UriParts) : Option String × UriParts :=
  -- The scheme put in front only makes the host an authority; it does not count as given.
  if parts.authority.isEmpty then (none, .ofText ("http://".toList ++ cs))
  else (if parts.scheme = "" then none else some parts.scheme, parts)

def ofText (known : SchemePorts) (authority? : List Char → Option Authority) (text : List Char) :
    Reference :=
  let cs := Text.trim text
  if cs.isEmpty || Text.spells cs "null" then .empty
  else
    match bareScheme? known cs with
    | some scheme => .schemeOnly scheme
    | none =>
        let first := UriParts.ofText cs
        if Scheme.hasNoSlashes first.scheme then .withData first.scheme first.path
        else
          let (scheme, parts) := hostParts cs first
          match authority? parts.authority with
          | none => .invalid
          | some a =>
              .located scheme { a with host := Text.lower a.host } parts.path parts.query

end Reference

end ContentPolicy
