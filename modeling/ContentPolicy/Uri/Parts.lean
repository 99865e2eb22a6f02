import ContentPolicy.Text.Characters
import ContentPolicy.Text.Cut

/-!
Cutting a text into the parts of a URI at its delimiters, without asking whether the parts are well
formed. The cuts are made in this order: the scheme at the first colon, the authority after two
slashes, the fragment at the first number sign, the query at the first question mark, and the
parameters of the last path segment at its first semicolon. Fragment and parameters are dropped.
-/

namespace ContentPolicy

structure UriParts where
  scheme : String
  authority : List Char
  path : List Char
  query : List Char
  deriving DecidableEq

namespace UriParts

/-- The schemes whose last path segment may carry parameters. A text without a scheme is one of
them. -/
def parameterSchemes : List String :=
  [ "", "ftp", "hdl", "prospero", "http", "imap", "https", "shttp", "rtsp", "rtspu", "sip", "sips",
    "mms", "sftp", "tel" ]

def isSchemeChar (c : Char) : Bool := c.isAlphanum || c = '+' || c = '-' || c = '.'

/-- Whether the text before the first colon is a scheme. It is none when digits follow to the end,
which are a port. -/
def isSchemeBefore (candidate after : List Char) : Bool :=
  candidate = "http".toList ||
    (!candidate.isEmpty && candidate.all isSchemeChar && !Text.isDigits after)

def cutScheme (cs : List Char) : String × List Char :=
  match Text.cut? (· = ':') cs with
  | some (candidate, after) =>
      if isSchemeBefore candidate after then (String.ofList (Text.lower candidate), after)
      else ("", cs)
  | none => ("", cs)

def endsAuthority (c : Char) : Bool := c = '/' || c = '?' || c = '#'

def cutAuthority (cs : List Char) : List Char × List Char :=
  match Text.afterStart? ['/', '/'] cs with
  | some rest => (Text.upTo endsAuthority rest, Text.fromOn endsAuthority rest)
  | none => ([], cs)

def cutQuery (cs : List Char) : List Char × List Char :=
  (Text.cut? (· = '?') cs).getD (cs, [])

def lastSegment (path : List Char) : List Char :=
  (Text.upTo (· = '/') path.reverse).reverse

def dropParameters (path : List Char) : List Char :=
  let segment := lastSegment path
  path.take (path.length - segment.length) ++ Text.upTo (· = ';') segment

def ofText (cs : List Char) : UriParts :=
  let (scheme, afterScheme) := cutScheme cs
  let (authority, afterAuthority) := cutAuthority afterScheme
  let (path, query) := cutQuery (Text.upTo (· = '#') afterAuthority)
  { scheme, authority, query,
    path := if parameterSchemes.contains scheme then dropParameters path else path }

end UriParts

end ContentPolicy
