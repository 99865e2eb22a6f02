import ContentPolicy.Text.Cut
import ContentPolicy.Text.Characters

/-!
The authority of a URI: the part between the two slashes and the path. URIs may put the name of a
user before the host, which is dropped; sources may put a star in place of the host, of its first
label, or of the port.
-/

namespace ContentPolicy

structure Authority where
  host : List Char
  port : Option (List Char)

namespace Authority

/-- The two letters beyond ASCII that differ from an ASCII letter in case alone: the long s and the
sign of the kelvin. -/
def isCaseVariant (c : Char) : Bool := c = '\u017F' || c = '\u212A'

def isNameChar (c : Char) : Bool :=
  c.isAlphanum || isCaseVariant c || c = '.' || c = '_' || c = '-'

def isName (cs : List Char) : Bool := !cs.isEmpty && cs.all isNameChar

def isUserChar (c : Char) : Bool :=
  c.isAlphanum || isCaseVariant c || "`~!#$%^&*()_+=\x7b\x7d[]\\|;\"<>,./?-".toList.contains c

def isUserWord (cs : List Char) : Bool := !cs.isEmpty && cs.all isUserChar

def hostAndPort? (isHost isPort : List Char → Bool) (cs : List Char) : Option Authority :=
  match Text.cut? (· = ':') cs with
  | none => if isHost cs then some ⟨cs, none⟩ else none
  | some (host, port) => if isHost host && isPort port then some ⟨host, some port⟩ else none

def isUserInfo (cs : List Char) : Bool :=
  match Text.cut? (· = ':') cs with
  | none => isUserWord cs
  | some (user, password) => isUserWord user && isUserWord password

/-- The authority of a URI: `[user[:password]@]name[:digits]`. -/
def ofUri? (cs : List Char) : Option Authority :=
  match Text.cut? (· = '@') cs with
  | none => hostAndPort? isName Text.isDigits cs
  | some (user, rest) => if isUserInfo user then hostAndPort? isName Text.isDigits rest else none

def isHostPattern : List Char → Bool
  | ['*'] => true
  | '*' :: '.' :: name => isName name
  | name => isName name

def isPortPattern (cs : List Char) : Bool := cs = ['*'] || Text.isDigits cs

/-- The authority of a source: a host pattern, and after a colon digits or a star. -/
def ofSource? (cs : List Char) : Option Authority := hostAndPort? isHostPattern isPortPattern cs

end Authority

end ContentPolicy
