/-
Module: StudyDesk.Arguments.Reading
Purpose: Reading a command line against a grammar.
Main exports:
  Progress, Grammar.read
-/
import StudyDesk.Arguments.Grammar

namespace StudyDesk

/-!
An option whose value stands in the next argument is entered only when something else follows, or when
the command line is over: until then it is pending.  What is found wrong first is what is reported.
The variables of the environment are looked at once everything else has been read.
-/

/-- How far the reading of the arguments of one command has come. -/
structure Progress where
  given : Given
  /-- The last option, with its value if that has been seen. -/
  pending : Option (OptionRule × Option String)
  /-- Whether everything that follows is an operand. -/
  literal : Bool
deriving Repr

namespace Progress

/-- Nothing read. -/
def start : Progress := ⟨.empty, none, false⟩

/-- Whether the next argument should be the value of an option. -/
def awaitsValue (now : Progress) : Bool := now.pending.any fun p => p.2.isNone

/-- Enter the pending option. -/
def settle (now : Progress) : Except UsageFault Progress :=
  match now.pending with
  | none => .ok now
  | some (_, none) => .error .badValue
  | some (rule, some value) =>
      (now.given.enter rule value).map fun given => { now with given := given, pending := none }

/-- Settle, and then use an option, with its value if that is attached to it. -/
def useOption (now : Progress) (rule : OptionRule) (attached : Option String) :
    Except UsageFault Progress := do
  let now ← now.settle
  match rule.operand, attached with
  | .help, _ => .error .help
  | .flag, _ => (now.given.enter rule "").map ({ now with given := · })
  | _, some value => (now.given.enter rule value).map ({ now with given := · })
  | _, none => .ok { now with pending := some (rule, none) }

/-- Use an argument as the value of the pending option. -/
def giveValue (now : Progress) (value : String) : Progress :=
  { now with pending := now.pending.map fun p => (p.1, some value) }

end Progress

/-- The value that is attached to a letter: what follows it, after an equals sign if there is one. -/
def attachedValue : List Char → Option String
  | [] => none
  | '=' :: value => some (String.ofList value)
  | value => some (String.ofList value)

namespace Grammar

variable {α : Type}

/-- An argument after two dashes: a name, and perhaps a value after an equals sign. -/
def readName (g : Grammar α) (now : Progress) (body : List Char) : Except UsageFault Progress :=
  let name := body.takeWhile (· != '=')
  let attached :=
    match body.dropWhile (· != '=') with
    | [] => none
    | _ :: value => some (String.ofList value)
  match g.named? (String.ofList name) with
  | none => .error .unknownArgument
  | some rule =>
      if attached.isSome && !rule.operand.takesValue then .error .unwantedValue
      else now.useOption rule attached

/-- An argument after one dash: letters of options, the last of which may have a value attached. -/
def readLetters (g : Grammar α) (now : Progress) : List Char → Except UsageFault Progress
  | [] => .ok now
  | c :: rest =>
      match g.lettered? c with
      | none => .error .unknownArgument
      | some rule =>
          if rule.operand.takesValue then now.useOption rule (attachedValue rest)
          else do g.readLetters (← now.useOption rule none) rest

/-- An argument that is no option and no value of one. -/
def readOperand (g : Grammar α) (now : Progress) (arg : String) : Except UsageFault Progress :=
  match g with
  | .leaf _ count _ =>
      if now.given.operands.length < count then
        now.settle.map fun now => { now with given := now.given.push arg }
      else .error .unknownArgument
  | .group _ _ =>
      .error (if now.literal && g.isCommand arg then .unknownArgument else .unknownCommand)

/-- An argument without a dash: a value if one is awaited, else an operand. -/
def readPlain (g : Grammar α) (now : Progress) (arg : String) : Except UsageFault Progress :=
  if now.awaitsValue then .ok (now.giveValue arg) else g.readOperand now arg

/-- An argument that is no name of a command. -/
def readArgument (g : Grammar α) (now : Progress) (arg : String) : Except UsageFault Progress :=
  if now.literal then g.readOperand now arg
  else
    match arg.toList with
    | ['-', '-'] => .ok { now with literal := true }
    | '-' :: '-' :: body => g.readName now body
    | ['-'] => g.readPlain now arg
    | '-' :: letters => g.readLetters now letters
    | _ => g.readPlain now arg

/-- Enter the variables that stand in for options that are not given. -/
def enterFallbacks (env : String → Option String) (rules : List OptionRule) (given : Given) :
    Except UsageFault Given :=
  rules.foldlM
    (fun given rule =>
      match rule.fallback.bind env with
      | some value => if given.has rule.name then .ok given else given.enter rule value
      | none => .ok given)
    given

/-- What is given once all arguments have been read. -/
def close (g : Grammar α) (env : String → Option String) (now : Progress) :
    Except UsageFault Given := do
  let now ← now.settle
  enterFallbacks env g.options now.given

/-- What a command line stands for that names no further command. -/
def result (given : Given) : Grammar α → Except UsageFault α
  | .leaf _ count result =>
      if given.operands.length < count then .error .missingOperand else .ok (result given)
  | .group _ _ => .error (if given.options.isEmpty then .nothingGiven else .missingCommand)

/-- What is answered when a command is to be explained: the names must lead to a command. -/
def explain : Grammar α → List String → UsageFault
  | _, [] => .help
  | g, name :: rest =>
      match g.command? name with
      | some below => below.explain rest
      | none =>
          if g.isCommand name && rest.isEmpty then .help else .unknownCommand

/-- Read arguments: what is given to the outermost command, and what the whole stands for. -/
def read (env : String → Option String) :
    Grammar α → Progress → List String → Except UsageFault (Given × α)
  | g, now, [] => do
      let given ← g.close env now
      .ok (given, ← g.result given)
  | g, now, arg :: rest =>
      if now.literal || now.awaitsValue || !g.isCommand arg then do
        let now ← g.readArgument now arg
        g.read env now rest
      else
        match g.command? arg with
        | none => .error (g.explain rest)
        | some below => do
            let inner ← below.read env .start rest
            .ok (← g.close env now, inner.2)

end Grammar

end StudyDesk
