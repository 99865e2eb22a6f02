import ContentPolicy.Text.Characters

/-!
TOML strings in their four forms: basic and literal, on one line or over several. Each reader starts
after the opening quotes and gives the text of the string and what follows its closing quotes.
-/

namespace ContentPolicy.Toml

abbrev TextAndRest := Option (List Char × List Char)

def withChar (c : Char) (read : TextAndRest) : TextAndRest :=
  read.map fun (text, rest) => (c :: text, rest)

/-- The characters that may stand in a string or a comment: no controls but the tab. -/
def isPrintable (c : Char) : Bool := c = '\t' || (0x20 ≤ c.toNat && c.toNat ≠ 0x7F)

def simpleEscape? (c : Char) : Option Char :=
  if c = '"' || c = '\\' then some c
  else if c = 'b' then some '\x08'
  else if c = 't' then some '\t'
  else if c = 'n' then some '\n'
  else if c = 'f' then some '\x0c'
  else if c = 'r' then some '\r'
  else if c = 'e' then some '\x1b'
  else none

def codePoint? (digits : List Char) : Option Char := do
  let values ← digits.mapM Text.hexValue?
  let n := values.foldl (fun n d => 16 * n + d) 0
  if Nat.isValidChar n then some (Char.ofNat n) else none

def basic : List Char → TextAndRest
  | '"' :: rest => some ([], rest)
  | '\\' :: 'x' :: a :: b :: rest =>
      (codePoint? [a, b]).bind fun c => withChar c (basic rest)
  | '\\' :: 'u' :: a :: b :: c :: d :: rest =>
      (codePoint? [a, b, c, d]).bind fun c => withChar c (basic rest)
  | '\\' :: 'U' :: a :: b :: c :: d :: e :: f :: g :: h :: rest =>
      (codePoint? [a, b, c, d, e, f, g, h]).bind fun c => withChar c (basic rest)
  | '\\' :: c :: rest => (simpleEscape? c).bind fun c => withChar c (basic rest)
  | c :: rest => if isPrintable c && c ≠ '\\' then withChar c (basic rest) else none
  | [] => none

def literal : List Char → TextAndRest
  | '\'' :: rest => some ([], rest)
  | c :: rest => if isPrintable c then withChar c (literal rest) else none
  | [] => none

def isGap (c : Char) : Bool := c = ' ' || c = '\t'

def skipFold : List Char → List Char
  | '\r' :: '\n' :: rest => skipFold rest
  | c :: rest => if isGap c || c = '\n' then skipFold rest else c :: rest
  | [] => []

/-- What follows a backslash at the end of a line: the text from the next visible character on. -/
def foldedLine? (cs : List Char) : Option (List Char) :=
  match cs.dropWhile isGap with
  | '\n' :: rest => some (skipFold rest)
  | '\r' :: '\n' :: rest => some (skipFold rest)
  | _ => none

theorem length_skipFold_le (cs : List Char) : (skipFold cs).length ≤ cs.length := by
  fun_induction skipFold cs <;> simp only [List.length_cons, Nat.le_refl] <;> omega

theorem length_foldedLine_le {cs rest : List Char} (found : foldedLine? cs = some rest) :
    rest.length ≤ cs.length := by
  have dropped := (List.dropWhile_suffix isGap (l := cs)).length_le
  unfold foldedLine? at found
  split at found
  · rename_i after same
    rw [← Option.some.inj found]
    simp only [same, List.length_cons] at dropped
    exact Nat.le_trans (length_skipFold_le after) (by omega)
  · rename_i after same
    rw [← Option.some.inj found]
    simp only [same, List.length_cons] at dropped
    exact Nat.le_trans (length_skipFold_le after) (by omega)
  · cases found

theorem length_foldedLine_lt {c : Char} {rest after : List Char}
    (found : foldedLine? (c :: rest) = some after) : after.length < ('\\' :: c :: rest).length :=
  Nat.lt_succ_of_le (length_foldedLine_le found)

def basicLines : List Char → TextAndRest
  | '"' :: '"' :: '"' :: '"' :: '"' :: rest => some (['"', '"'], rest)
  | '"' :: '"' :: '"' :: '"' :: rest => some (['"'], rest)
  | '"' :: '"' :: '"' :: rest => some ([], rest)
  | '\r' :: '\n' :: rest => withChar '\r' (withChar '\n' (basicLines rest))
  | '\\' :: 'x' :: a :: b :: rest =>
      (codePoint? [a, b]).bind fun c => withChar c (basicLines rest)
  | '\\' :: 'u' :: a :: b :: c :: d :: rest =>
      (codePoint? [a, b, c, d]).bind fun c => withChar c (basicLines rest)
  | '\\' :: 'U' :: a :: b :: c :: d :: e :: f :: g :: h :: rest =>
      (codePoint? [a, b, c, d, e, f, g, h]).bind fun c => withChar c (basicLines rest)
  | '\\' :: c :: rest =>
      match simpleEscape? c with
      | some d => withChar d (basicLines rest)
      | none =>
          match _found : foldedLine? (c :: rest) with
          | some after => basicLines after
          | none => none
  | c :: rest =>
      if (isPrintable c && c ≠ '\\') || c = '\n' then withChar c (basicLines rest) else none
  | [] => none
termination_by cs => cs.length
decreasing_by
  all_goals first
    | exact length_foldedLine_lt _found
    | simp only [List.length_cons]; omega

def literalLines : List Char → TextAndRest
  | '\'' :: '\'' :: '\'' :: '\'' :: '\'' :: rest => some (['\'', '\''], rest)
  | '\'' :: '\'' :: '\'' :: '\'' :: rest => some (['\''], rest)
  | '\'' :: '\'' :: '\'' :: rest => some ([], rest)
  | '\r' :: '\n' :: rest => withChar '\r' (withChar '\n' (literalLines rest))
  | c :: rest => if isPrintable c || c = '\n' then withChar c (literalLines rest) else none
  | [] => none

/-- Drops a line end right after the opening quotes of a string over several lines. -/
def dropFirstLineEnd : List Char → List Char
  | '\n' :: rest => rest
  | '\r' :: '\n' :: rest => rest
  | cs => cs

def oneLine? : List Char → TextAndRest
  | '"' :: rest => basic rest
  | '\'' :: rest => literal rest
  | _ => none

def quotedText? : List Char → TextAndRest
  | '"' :: '"' :: '"' :: rest => basicLines (dropFirstLineEnd rest)
  | '\'' :: '\'' :: '\'' :: rest => literalLines (dropFirstLineEnd rest)
  | cs => oneLine? cs

end ContentPolicy.Toml
