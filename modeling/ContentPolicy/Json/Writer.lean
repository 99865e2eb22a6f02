import ContentPolicy.Json

/-!
Writing JSON: compactly on one line, or indented by two spaces for each level. Characters beyond
ASCII stand as they are; controls are escaped, so a compact text is one line.
-/

namespace ContentPolicy.Json

def renderChar (c : Char) : List Char :=
  if c = '"' then ['\\', '"']
  else if c = '\\' then ['\\', '\\']
  else if c = '\x08' then ['\\', 'b']
  else if c = '\x0c' then ['\\', 'f']
  else if c = '\n' then ['\\', 'n']
  else if c = '\r' then ['\\', 'r']
  else if c = '\t' then ['\\', 't']
  else if c.toNat < 0x20 then
    ['\\', 'u', '0', '0', Nat.digitChar (c.toNat / 16), Nat.digitChar (c.toNat % 16)]
  else [c]

def renderString (s : String) : List Char := '"' :: s.toList.flatMap renderChar ++ ['"']

mutual

def render : Json → List Char
  | .null => "null".toList
  | .bool b => if b then "true".toList else "false".toList
  | .number n => n.render
  | .string s => renderString s
  | .array items => '[' :: renderItems items ++ [']']
  | .object members => '\x7b' :: renderMembers members ++ ['\x7d']

def renderItems : List Json → List Char
  | [] => []
  | [item] => render item
  | item :: rest => render item ++ ',' :: renderItems rest

def renderMembers : List (String × Json) → List Char
  | [] => []
  | [(name, value)] => renderString name ++ ':' :: render value
  | (name, value) :: rest => renderString name ++ ':' :: render value ++ ',' :: renderMembers rest

end

def text (j : Json) : String := String.ofList j.render

def newLine (level : Nat) : List Char := '\n' :: List.replicate (2 * level) ' '

mutual

def renderPretty (level : Nat) : Json → List Char
  | .array [] => ['[', ']']
  | .array items => '[' :: renderPrettyItems (level + 1) items ++ newLine level ++ [']']
  | .object [] => ['\x7b', '\x7d']
  | .object members =>
      '\x7b' :: renderPrettyMembers (level + 1) members ++ newLine level ++ ['\x7d']
  | .null => "null".toList
  | .bool b => if b then "true".toList else "false".toList
  | .number n => n.render
  | .string s => renderString s

def renderPrettyItems (level : Nat) : List Json → List Char
  | [] => []
  | [item] => newLine level ++ renderPretty level item
  | item :: rest => newLine level ++ renderPretty level item ++ ',' :: renderPrettyItems level rest

def renderPrettyMembers (level : Nat) : List (String × Json) → List Char
  | [] => []
  | [(name, value)] => newLine level ++ renderString name ++ ": ".toList ++ renderPretty level value
  | (name, value) :: rest =>
      newLine level ++ renderString name ++ ": ".toList ++ renderPretty level value ++
        ',' :: renderPrettyMembers level rest

end

def prettyText (j : Json) : String := String.ofList (j.renderPretty 0)

end ContentPolicy.Json
