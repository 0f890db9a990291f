/-
Module: StudyDesk.Invocation
Purpose: What the program is asked to do on its command line.
Main exports:
  Command, Invocation, Invocation.ofArguments
-/
import StudyDesk.Arguments.Reading
import StudyDesk.Config.Settings

namespace StudyDesk

/-- A command of the program. -/
inductive Command where
  | ask (query : String) (noRetry : Bool)
  | topics
  | check (query : String)
  | listProblems (topic : Option String)
  | showProblem (id : String)
  | scaffold (id language : String)
deriving DecidableEq, Repr

/-- A command, and the settings that the command line overrides. -/
structure Invocation where
  configFile : String
  baseUrl : Option String
  model : Option String
  dataDir : Option String
  verbose : Bool
  command : Command
deriving DecidableEq, Repr

namespace Invocation

/-- The configuration file when none is named. -/
def defaultConfigFile : String := "codetutor.yaml"

/-- The options that come before every command. -/
def options : List OptionRule :=
  [⟨"config", some 'c', .path, some "CODETUTOR_CONFIG"⟩,
    ⟨"base-url", none, .text, some "CODETUTOR_BASE_URL"⟩,
    ⟨"model", some 'm', .text, some "CODETUTOR_MODEL"⟩,
    ⟨"data-dir", some 'd', .path, some "CODETUTOR_DATA_DIR"⟩,
    ⟨"verbose", some 'v', .flag, none⟩]

/-- The commands on practice problems. -/
def problemCommands : List (String × Grammar Command) :=
  [("list", .leaf [⟨"topic", some 't', .text, none⟩] 0 fun given =>
      .listProblems (given.value? "topic")),
    ("show", .leaf [] 1 fun given => .showProblem (given.operand 0)),
    ("scaffold", .leaf [] 2 fun given => .scaffold (given.operand 0) (given.operand 1))]

/-- The commands of the program. -/
def commands : List (String × Grammar Command) :=
  [("ask", .leaf [⟨"no-retry", none, .flag, none⟩] 1 fun given =>
      .ask (given.operand 0) (given.has "no-retry")),
    ("topics", .leaf [] 0 fun _ => .topics),
    ("check", .leaf [] 1 fun given => .check (given.operand 0)),
    ("problems", .group [] problemCommands)]

/-- The command lines of the program. -/
def grammar : Grammar Command := .group options commands

/-- The environment variables that stand in for options. -/
def variableNames : List String := options.filterMap (·.fallback)

/-- The command lines of the program, one a line. -/
def usage : List String :=
  ["codetutor [options] ask [--no-retry] <query>",
    "codetutor [options] topics",
    "codetutor [options] check <query>",
    "codetutor [options] problems list [--topic <text>]",
    "codetutor [options] problems show <id>",
    "codetutor [options] problems scaffold <id> <language>",
    "options: --config <file>, --base-url <address>, --model <name>, --data-dir <directory>, " ++
      "--verbose, --help"]

/-- The invocation that a command line stands for. -/
def ofGiven (given : Given) (command : Command) : Invocation where
  configFile := (given.value? "config").getD defaultConfigFile
  baseUrl := given.value? "base-url"
  model := given.value? "model"
  dataDir := given.value? "data-dir"
  verbose := given.has "verbose"
  command := command

/-- The invocation for arguments and an environment. -/
def ofArguments (env : String → Option String) (args : List String) :
    Except UsageFault Invocation :=
  (grammar.read env .start args).map fun (given, command) => ofGiven given command

/-- Settings with what the command line puts in their place. -/
def override (invocation : Invocation) (s : TutorSettings) : TutorSettings :=
  let inference :=
    { s.desk.inference with
      baseUrl := invocation.baseUrl.getD s.desk.inference.baseUrl
      model := invocation.model.getD s.desk.inference.model }
  ⟨{ s.desk with inference := inference }, invocation.dataDir.getD s.dataDir⟩

end Invocation

end StudyDesk
