import ContentPolicy.Json

/-!
Reading JSON texts. The reader is a machine that takes one character after the other; its stack
holds the arrays and objects that are open. A text that is not JSON, or that nests more than 127
arrays and objects, stops it.
-/

namespace ContentPolicy.Json

/-- An array or object that is open: its items so far, the last one first, or its members so far
with the name of the member that is being read. -/
inductive Frame where
  | array (items : List Json)
  | object (members : List (String × Json)) (name : String)

inductive Escape where
  | outside
  /-- After a backslash. -/
  | started
  /-- Among the four digits of a code unit; `high` is the first half of a pair that was read. -/
  | digits (high : Option Nat) (left value : Nat)
  /-- After the first half of a pair: a backslash must follow. -/
  | halfRead (high : Nat)
  /-- After the first half of a pair and a backslash: a `u` must follow. -/
  | halfStarted (high : Nat)

inductive Mode where
  | value
  /-- A value must come, or the end of the array that was just opened. -/
  | firstItem
  /-- A name must come, or the end of the object that was just opened. -/
  | firstName
  | name
  | colon
  /-- A value is complete in the frame on top: a comma or the end of the frame must come. -/
  | next
  | done (value : Json)
  /-- Inside a string; its characters so far, the last one first. -/
  | string (isName : Bool) (read : List Char) (escape : Escape)
  /-- Inside a number literal; its characters so far, the last one first. -/
  | number (read : List Char)
  /-- Inside a literal word; the characters that must still come. -/
  | word (left : List Char) (value : Json)

structure State where
  mode : Mode
  frames : List Frame

def depthLimit : Nat := 127

def isSpace (c : Char) : Bool := c = ' ' || c = '\n' || c = '\t' || c = '\r'

def continuesNumber (c : Char) : Bool :=
  c.isDigit || c = '.' || c = 'e' || c = 'E' || c = '+' || c = '-'

def State.complete (v : Json) : List Frame → State
  | [] => ⟨.done v, []⟩
  | .array items :: rest => ⟨.next, .array (v :: items) :: rest⟩
  | .object members name :: rest => ⟨.next, .object (SortedMap.place name v members) "" :: rest⟩

def State.completeString (isName : Bool) (s : String) (frames : List Frame) : Option State :=
  if isName then
    match frames with
    | .object members _ :: rest => some ⟨.colon, .object members s :: rest⟩
    | _ => none
  else some (.complete (.string s) frames)

def State.open? (frame : Frame) (mode : Mode) (frames : List Frame) : Option State :=
  if frames.length < depthLimit then some ⟨mode, frame :: frames⟩ else none

def State.startValue (c : Char) (frames : List Frame) : Option State :=
  if c = '[' then State.open? (.array []) .firstItem frames
  else if c = '\x7b' then State.open? (.object [] "") .firstName frames
  else if c = '"' then some ⟨.string false [] .outside, frames⟩
  else if c = '-' || c.isDigit then some ⟨.number [c], frames⟩
  else if c = 't' then some ⟨.word "rue".toList (.bool true), frames⟩
  else if c = 'f' then some ⟨.word "alse".toList (.bool false), frames⟩
  else if c = 'n' then some ⟨.word "ull".toList .null, frames⟩
  else none

def State.close? (c : Char) : List Frame → Option State
  | .array items :: rest =>
      if c = ']' then some (.complete (.array items.reverse) rest) else none
  | .object members _ :: rest =>
      if c = '\x7d' then some (.complete (.object members) rest) else none
  | [] => none

def State.continue? (c : Char) (frames : List Frame) : Option State :=
  if c = ',' then
    match frames with
    | .array _ :: _ => some ⟨.value, frames⟩
    | .object _ _ :: _ => some ⟨.name, frames⟩
    | [] => none
  else State.close? c frames

def State.between (mode : Mode) (c : Char) (frames : List Frame) : Option State :=
  if isSpace c then some ⟨mode, frames⟩
  else
    match mode with
    | .value => State.startValue c frames
    | .firstItem => if c = ']' then State.close? c frames else State.startValue c frames
    | .firstName =>
        if c = '"' then some ⟨.string true [] .outside, frames⟩ else State.close? c frames
    | .name => if c = '"' then some ⟨.string true [] .outside, frames⟩ else none
    | .colon => if c = ':' then some ⟨.value, frames⟩ else none
    | .next => State.continue? c frames
    | _ => none

def simpleEscape? (c : Char) : Option Char :=
  if c = '"' || c = '\\' || c = '/' then some c
  else if c = 'b' then some '\x08'
  else if c = 'f' then some '\x0c'
  else if c = 'n' then some '\n'
  else if c = 'r' then some '\r'
  else if c = 't' then some '\t'
  else none

/-- What is read once a code unit is complete. Units of a pair must come in order. -/
def completeUnit (isName : Bool) (read : List Char) (high : Option Nat) (unit : Nat) :
    Option Mode :=
  let isHigh := 0xD800 ≤ unit && unit < 0xDC00
  let isLow := 0xDC00 ≤ unit && unit < 0xE000
  match high with
  | some first =>
      if isLow then
        let c := Char.ofNat (0x10000 + (first - 0xD800) * 0x400 + (unit - 0xDC00))
        some (.string isName (c :: read) .outside)
      else none
  | none =>
      if isHigh then some (.string isName read (.halfRead unit))
      else if isLow then none
      else some (.string isName (Char.ofNat unit :: read) .outside)

def State.insideString (isName : Bool) (read : List Char) (escape : Escape) (c : Char)
    (frames : List Frame) : Option State :=
  match escape with
  | .outside =>
      if c = '"' then State.completeString isName (String.ofList read.reverse) frames
      else if c = '\\' then some ⟨.string isName read .started, frames⟩
      else if c.toNat < 0x20 then none
      else some ⟨.string isName (c :: read) .outside, frames⟩
  | .started =>
      if c = 'u' then some ⟨.string isName read (.digits none 4 0), frames⟩
      else (simpleEscape? c).map fun d => ⟨.string isName (d :: read) .outside, frames⟩
  | .halfRead high =>
      if c = '\\' then some ⟨.string isName read (.halfStarted high), frames⟩ else none
  | .halfStarted high =>
      if c = 'u' then some ⟨.string isName read (.digits (some high) 4 0), frames⟩ else none
  | .digits high left value => do
      let digit ← Text.hexValue? c
      let value := 16 * value + digit
      if left = 1 then
        let mode ← completeUnit isName read high value
        return ⟨mode, frames⟩
      else
        return ⟨.string isName read (.digits high (left - 1) value), frames⟩

def State.endNumber (read : List Char) (frames : List Frame) : Option State :=
  (JsonNumber.ofText? read.reverse).map fun n => .complete (.number n) frames

def State.step (state : State) (c : Char) : Option State :=
  match state.mode with
  | .string isName read escape => State.insideString isName read escape c state.frames
  | .number read =>
      if continuesNumber c then some ⟨.number (c :: read), state.frames⟩
      else
        (State.endNumber read state.frames).bind fun next => State.between next.mode c next.frames
  | .word (d :: left) v =>
      if c = d then
        if left.isEmpty then some (.complete v state.frames) else some ⟨.word left v, state.frames⟩
      else none
  | mode => State.between mode c state.frames

def State.finish (state : State) : Option Json :=
  let final :=
    match state.mode with
    | .number read => State.endNumber read state.frames
    | _ => some state
  match final with
  | some ⟨.done v, _⟩ => some v
  | _ => none

def parse? (text : String) : Option Json :=
  (text.toList.foldlM State.step ⟨.value, []⟩).bind State.finish

end ContentPolicy.Json
