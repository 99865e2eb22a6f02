import ContentPolicy.Text.CaseTable

/-!
Lower-casing of all letters that have a case. Each character is replaced by its lower-case image,
with two exceptions of the Unicode standard: the capital I with a dot becomes two characters, and a
capital sigma at the end of a word becomes the final form of the letter.
-/

namespace ContentPolicy.Text

def isCased (c : Char) : Bool := casedRanges.holds c

def isCaseIgnorable (c : Char) : Bool := caseIgnorableRanges.holds c

def CaseRun.image? (run : CaseRun) (c : Char) : Option Char :=
  if run.first ≤ c.toNat && c.toNat ≤ run.last && (c.toNat - run.first) % run.step == 0 then
    some (Char.ofNat (c.toNat + run.shift).toNat)
  else none

def lowerCaseChar (c : Char) : List Char :=
  if c.toNat < 0x80 then [c.toLower]
  else if c = '\u0130' then ['i', '\u0307']
  else [(caseRuns.findSome? fun run => run.image? c).getD c]

def meetsCased (cs : List Char) : Bool :=
  match cs.dropWhile isCaseIgnorable with
  | [] => false
  | c :: _ => isCased c

/-- Lower-cases a text that follows the characters `before`, the nearest first. -/
def lowerCaseAfter (before : List Char) : List Char → List Char
  | [] => []
  | c :: rest =>
      let image :=
        -- A capital sigma is final when a letter comes before it and none after it.
        if c = '\u03A3' then
          if meetsCased before && !meetsCased rest then ['\u03C2'] else ['\u03C3']
        else lowerCaseChar c
      image ++ lowerCaseAfter (c :: before) rest

def lowerCase (s : String) : String := String.ofList (lowerCaseAfter [] s.toList)

end ContentPolicy.Text
