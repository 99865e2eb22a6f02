import ContentPolicy.Toml.Quoted
import ContentPolicy.Toml.Scalar

/-!
Reading TOML documents: lines with keys and values, and headers that say which table they belong to.
Arrays and tables between brackets and braces may go over several lines, with comments between
their parts.
-/

namespace ContentPolicy.Toml

def nestingLimit : Nat := 80

def skipGap (cs : List Char) : List Char := cs.dropWhile isGap

/-- Skips blanks, line ends and comments; `inComment` says whether a comment has begun. -/
def skipLines (inComment : Bool) : List Char → Option (List Char)
  | [] => some []
  | '\n' :: rest => skipLines false rest
  | '\r' :: '\n' :: rest => skipLines false rest
  | c :: rest =>
      if inComment then if isPrintable c then skipLines true rest else none
      else if c = '#' then skipLines true rest
      else if isGap c then skipLines false rest
      else some (c :: rest)

/-- Skips the rest of a line on which nothing but a comment may follow. -/
def skipLineEnd (inComment : Bool) : List Char → Option (List Char)
  | [] => some []
  | '\n' :: rest => some rest
  | '\r' :: '\n' :: rest => some rest
  | c :: rest =>
      if inComment then if isPrintable c then skipLineEnd true rest else none
      else if c = '#' then skipLineEnd true rest
      else if isGap c then skipLineEnd false rest
      else none

def isBareChar (c : Char) : Bool := c.isAlphanum || c = '_' || c = '-'

def simpleKey? (cs : List Char) : Option (String × List Char) :=
  match oneLine? cs with
  | some (text, rest) => some (String.ofList text, rest)
  | none =>
      let name := cs.takeWhile isBareChar
      if name.isEmpty then none else some (String.ofList name, cs.dropWhile isBareChar)

def dottedKey? (fuel : Nat) (cs : List Char) : Option (List String × List Char) :=
  match fuel with
  | 0 => none
  | fuel + 1 => do
      let (first, rest) ← simpleKey? cs
      match skipGap rest with
      | '.' :: more =>
          let (others, rest) ← dottedKey? fuel (skipGap more)
          return (first :: others, rest)
      | rest => return ([first], rest)

def splitKey (parts : List String) : List String × String :=
  (parts.dropLast, parts.getLast?.getD "")

def isValueEnd (c : Char) : Bool := "=,[]\x7b\x7d# \t\r\n".toList.contains c

/-- The text of a value without quotes and brackets, and what follows it: a time may follow its date
after a space. -/
def scalarText (cs : List Char) : List Char × List Char :=
  let first := Text.upTo isValueEnd cs
  match (Day.ofChars? first).isSome, Text.fromOn isValueEnd cs with
  | true, ' ' :: rest =>
      if rest.head?.any Char.isDigit then
        (first ++ ' ' :: Text.upTo isValueEnd rest, Text.fromOn isValueEnd rest)
      else (first, ' ' :: rest)
  | _, rest => (first, rest)

mutual

def readValue? (fuel depth : Nat) (cs : List Char) : Option (Toml × List Char) :=
  match fuel with
  | 0 => none
  | fuel + 1 =>
      match cs with
      | '[' :: rest =>
          if depth = 0 then none
          else (readItems? fuel (depth - 1) rest).map fun (items, rest) => (.array items, rest)
      | '\x7b' :: rest =>
          if depth = 0 then none
          else
            (readMembers? fuel (depth - 1) [] rest).map fun (entries, rest) =>
              (.table .braces entries, rest)
      | '"' :: _ | '\'' :: _ =>
          (quotedText? cs).map fun (text, rest) => (.string (String.ofList text), rest)
      | _ =>
          let (text, rest) := scalarText cs
          (scalar? text).map fun v => (v, rest)

def readItems? (fuel depth : Nat) (cs : List Char) : Option (List Toml × List Char) :=
  match fuel with
  | 0 => none
  | fuel + 1 => do
      match ← skipLines false cs with
      | ']' :: rest => return ([], rest)
      | cs =>
          let (first, rest) ← readValue? fuel depth cs
          match ← skipLines false rest with
          | ',' :: rest =>
              let (others, rest) ← readItems? fuel depth rest
              return (first :: others, rest)
          | ']' :: rest => return ([first], rest)
          | _ => none

def readMembers? (fuel depth : Nat) (entries : Entries) (cs : List Char) :
    Option (Entries × List Char) :=
  match fuel with
  | 0 => none
  | fuel + 1 => do
      match ← skipLines false cs with
      | '\x7d' :: rest => return (entries, rest)
      | cs =>
          let (parts, rest) ← dottedKey? fuel cs
          match ← skipLines false rest with
          | '=' :: rest =>
              let (v, rest) ← readValue? fuel depth (← skipLines false rest)
              let (path, key) := splitKey parts
              let entries ← addDotted path key v entries
              match ← skipLines false rest with
              | ',' :: rest => readMembers? fuel depth entries rest
              | '\x7d' :: rest => return (entries, rest)
              | _ => none
          | _ => none

end

/-- The document so far, and the path of the header that is in force. -/
structure Document where
  entries : Entries
  header : List String

namespace Document

def addHeader? (doc : Document) (fuel : Nat) (many : Bool) (cs : List Char) :
    Option (Document × List Char) := do
  let (parts, rest) ← dottedKey? fuel (skipGap cs)
  let (path, key) := splitKey parts
  let rest ←
    match many, rest with
    | false, ']' :: rest => some rest
    | true, ']' :: ']' :: rest => some rest
    | _, _ => none
  let entries ← underHeader (if many then openTables key else openTable key) path doc.entries
  return (⟨entries, parts⟩, rest)

def addPair? (doc : Document) (fuel : Nat) (cs : List Char) : Option (Document × List Char) := do
  let (parts, rest) ← dottedKey? fuel cs
  match rest with
  | '=' :: rest =>
      let (v, rest) ← readValue? fuel nestingLimit (skipGap rest)
      let (path, key) := splitKey parts
      let entries ← underHeader (addDotted path key v) doc.header doc.entries
      return ({ doc with entries }, rest)
  | _ => none

def addLines? (doc : Document) (fuel : Nat) (cs : List Char) : Option Document :=
  match fuel with
  | 0 => none
  | fuel + 1 => do
      match ← skipLines false cs with
      | [] => return doc
      | cs =>
          let (doc, rest) ←
            match cs with
            | '[' :: '[' :: rest => doc.addHeader? (fuel + 1) true rest
            | '[' :: rest => doc.addHeader? (fuel + 1) false rest
            | _ => doc.addPair? (fuel + 1) cs
          doc.addLines? fuel (← skipLineEnd false rest)

end Document

/-- The entries of a document. A mark for the order of bytes may stand in front of the text. -/
def parse? (text : String) : Option Entries :=
  let cs :=
    match text.toList with
    | '\uFEFF' :: rest => rest
    | cs => cs
  (Document.addLines? ⟨[], []⟩ (cs.length + 1) cs).map Document.entries

end ContentPolicy.Toml
