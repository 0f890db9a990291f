/-
Module: StudyDesk.Arguments.Grammar
Purpose: What a command line may look like, and what a command line is found to say.
Main exports:
  UsageFault, OptionRule, Given, Grammar
-/

namespace StudyDesk

/-!
A command line is read from left to right.  A group of commands takes options and then the name of a
command, whose own grammar governs everything that follows; a leaf takes options and operands in any
order.
-/

/-- Why a command line is not carried out. -/
inductive UsageFault where
  /-- It asks for help. -/
  | help
  /-- It says nothing at all where a command is needed. -/
  | nothingGiven
  | missingCommand
  | unknownCommand
  | unknownArgument
  | missingOperand
  /-- An option is given twice. -/
  | repeated
  /-- A flag is given a value. -/
  | unwantedValue
  /-- An option has no value, or one that it does not allow. -/
  | badValue
deriving DecidableEq, Repr

/-- The exit status for a command line that is not carried out. -/
def UsageFault.exitStatus : UsageFault → Nat
  | .help => 0
  | _ => 2

/-- What a command line lacks or has too much of. -/
def UsageFault.message : UsageFault → String
  | .help => "help is wanted"
  | .nothingGiven => "a command is needed"
  | .missingCommand => "a command is needed after the options"
  | .unknownCommand => "there is no such command"
  | .unknownArgument => "an argument is not understood"
  | .missingOperand => "an argument is missing"
  | .repeated => "an option is given twice"
  | .unwantedValue => "an option takes no value"
  | .badValue => "an option needs another value"

/-- What goes with an option. -/
inductive Operand where
  /-- Nothing: the option is there or not. -/
  | flag
  /-- Nothing: the option asks for help. -/
  | help
  /-- A text, which may be empty. -/
  | text
  /-- The name of a file, which may not be empty. -/
  | path
deriving DecidableEq, Repr

/-- Whether an option takes a value. -/
def Operand.takesValue : Operand → Bool
  | .text => true
  | .path => true
  | _ => false

/-- An option: its name after two dashes, its letter after one, what goes with it, and the
environment variable that stands in for it. -/
structure OptionRule where
  name : String
  letter : Option Char
  operand : Operand
  fallback : Option String
deriving DecidableEq, Repr

/-- The option that every command has. -/
def helpRule : OptionRule := ⟨"help", some 'h', .help, none⟩

/-- What a command line gives to one command: options with their values, and operands. -/
structure Given where
  options : List (String × String)
  operands : List String
deriving DecidableEq, Repr

namespace Given

/-- Nothing given. -/
def empty : Given := ⟨[], []⟩

/-- The value of an option, if it is given. -/
def value? (given : Given) (name : String) : Option String := given.options.lookup name

/-- Whether an option is given. -/
def has (given : Given) (name : String) : Bool := (given.value? name).isSome

/-- The operand at a place; empty where there is none. -/
def operand (given : Given) (index : Nat) : String := given.operands.getD index ""

/-- One more option, with its value: it must be new, and a file must have a name. -/
def enter (given : Given) (rule : OptionRule) (value : String) : Except UsageFault Given :=
  if given.has rule.name then .error .repeated
  else if rule.operand = .path && value.isEmpty then .error .badValue
  else .ok { given with options := given.options ++ [(rule.name, value)] }

/-- One more operand. -/
def push (given : Given) (operand : String) : Given :=
  { given with operands := given.operands ++ [operand] }

end Given

/-- The command lines of a program whose commands are values of `α`. -/
inductive Grammar (α : Type) where
  /-- A command with so many operands, and what it stands for. -/
  | leaf (options : List OptionRule) (operandCount : Nat) (result : Given → α)
  /-- A choice of commands by name. -/
  | group (options : List OptionRule) (commands : List (String × Grammar α))

namespace Grammar

variable {α : Type}

/-- The name under which every group explains its commands. -/
def helpCommand : String := "help"

/-- The options that may be given to a command. -/
def options : Grammar α → List OptionRule
  | .leaf options _ _ => options
  | .group options _ => options

/-- The option with a name. -/
def named? (g : Grammar α) (name : String) : Option OptionRule :=
  (helpRule :: g.options).find? (·.name = name)

/-- The option with a letter. -/
def lettered? (g : Grammar α) (letter : Char) : Option OptionRule :=
  (helpRule :: g.options).find? (·.letter = some letter)

/-- The grammar of a command of a group. -/
def command? (name : String) : Grammar α → Option (Grammar α)
  | .leaf _ _ _ => none
  | .group _ commands => commands.lookup name

/-- Whether a name is that of a command, the explanation of commands included. -/
def isCommand (g : Grammar α) (name : String) : Bool :=
  match g with
  | .leaf _ _ _ => false
  | .group _ commands => name = helpCommand || (commands.lookup name).isSome

end Grammar

end StudyDesk
