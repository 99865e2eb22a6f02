import ContentPolicy.Text.Characters

/-!
Percent coding of URI paths. An escape is a percent sign with two hexadecimal digits and stands for
one byte; the bytes of a decoded path must be the UTF-8 form of a text.
-/

namespace ContentPolicy.Percent

def byte? (high low : Char) : Option UInt8 := do
  return UInt8.ofNat (16 * (← Text.hexValue? high) + (← Text.hexValue? low))

/-- The bytes of a text in which each escape stands for its byte. A percent sign that no two digits
follow stands for itself. -/
def unescape : List Char → List UInt8
  | [] => []
  | '%' :: high :: low :: rest =>
      match byte? high low with
      | some byte => byte :: unescape rest
      | none => String.utf8EncodeChar '%' ++ unescape (high :: low :: rest)
  | c :: rest => String.utf8EncodeChar c ++ unescape rest

def decode (s : String) : Option String := String.fromUTF8? (unescape s.toList).toByteArray

def isPlain (c : Char) : Bool :=
  c.isAlphanum || c = '_' || c = '.' || c = '-' || c = '~' || c = '/'

def hexDigit (value : Nat) : Char :=
  if value < 10 then Char.ofNat (48 + value) else Char.ofNat (55 + value)

def escapeByte (byte : UInt8) : List Char :=
  ['%', hexDigit (byte.toNat / 16), hexDigit (byte.toNat % 16)]

def escapeChar (c : Char) : List Char :=
  if isPlain c then [c] else (String.utf8EncodeChar c).flatMap escapeByte

def encodePath (path : List Char) : List Char := path.flatMap escapeChar

def encode (path : String) : String := String.ofList (encodePath path.toList)

end ContentPolicy.Percent
