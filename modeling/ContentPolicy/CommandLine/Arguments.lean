import ContentPolicy.Text.Cut

/-!
The arguments of a command: options with a long name and perhaps a letter, and operands. An option
takes its value from its own argument, behind an equals sign, or from the next one. After two
hyphens all is operand. Each option may be given once. The first argument that does not fit decides,
before any later one is looked at.
-/

namespace ContentPolicy

structure OptionForm where
  name : String
  letter : Option Char := none
  takesValue : Bool := true
  /-- The values that it may have, if only some are allowed. -/
  choices : Option (List String) := none
  deriving DecidableEq

inductive OperandForm where
  /-- The name of a command, at which the options end. -/
  | command
  | atMost (limit : Nat)
  | any
  deriving DecidableEq

structure ArgumentForm where
  options : List OptionForm
  operands : OperandForm
  deriving DecidableEq

inductive Refusal where
  | misused
  | help
  | version
  deriving DecidableEq

/-- Options by name with their values, and operands. The value of a switch is empty. -/
structure Arguments where
  options : List (String × String) := []
  operands : List String := []
  deriving DecidableEq

namespace Arguments

def has (a : Arguments) (name : String) : Bool := (a.options.lookup name).isSome

def value? (a : Arguments) (name : String) : Option String := a.options.lookup name

def addOption (a : Arguments) (form : OptionForm) (value : String) : Except Refusal Arguments :=
  if a.has form.name || !(form.choices.all fun choices => choices.contains value) then
    .error .misused
  else .ok { a with options := a.options ++ [(form.name, value)] }

def addOperands (a : Arguments) (form : OperandForm) (texts : List String) :
    Except Refusal Arguments :=
  let operands := a.operands ++ texts
  match form with
  | .any => .ok { a with operands }
  | .atMost limit => if operands.length ≤ limit then .ok { a with operands } else .error .misused
  | .command => .error .misused

inductive Shape where
  | endOfOptions
  | long (name : String) (value : Option String)
  | short (letter : Char) (rest : List Char)
  | operand

def shape (arg : String) : Shape :=
  match arg.toList with
  | ['-', '-'] => .endOfOptions
  | '-' :: '-' :: rest =>
      match Text.cut? (· = '=') rest with
      | some (name, value) => .long (String.ofList name) (some (String.ofList value))
      | none => .long (String.ofList rest) none
  | '-' :: letter :: rest => .short letter rest
  | _ => .operand

def isOperand (arg : String) : Bool :=
  match shape arg with
  | .operand => true
  | _ => false

/-- The option of an argument, with the value that stands in the argument. What follows the letter
of a switch is no value. -/
def formOf? (forms : List OptionForm) : Shape → Option (OptionForm × Option String)
  | .long name value => (forms.find? fun f => f.name = name).map fun f => (f, value)
  | .short letter rest =>
      (forms.find? fun f => f.letter = some letter).map fun f =>
        (f, match f.takesValue, rest with
          | false, _ | _, [] => none
          | true, '=' :: value => some (String.ofList value)
          | true, value => some (String.ofList value))
  | _ => none

/-- Reads arguments. Where the name of a command is expected reading stops before it, and the
arguments from there on are left over. -/
def read (form : ArgumentForm) (a : Arguments) :
    List String → Except Refusal (Arguments × List String)
  | [] => .ok (a, [])
  | arg :: rest =>
      match shape arg with
      | .endOfOptions => do return (← a.addOperands form.operands rest, [])
      | .operand =>
          if form.operands = .command then .ok (a, arg :: rest)
          else do read form (← a.addOperands form.operands [arg]) rest
      | shape =>
          match formOf? form.options shape with
          | none => .error .misused
          | some (option, attached) =>
              if option.takesValue then
                match attached, rest with
                | some value, rest => do read form (← a.addOption option value) rest
                | none, [] => .error .misused
                | none, value :: rest =>
                    -- What looks like an option is never the value of the one before it.
                    if isOperand value then do read form (← a.addOption option value) rest
                    else .error .misused
              else if attached.isSome then .error .misused
              else if option.name = "help" then .error .help
              else if option.name = "version" then .error .version
              else do read form (← a.addOption option "") rest

end Arguments

end ContentPolicy
