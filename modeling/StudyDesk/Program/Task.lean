/-
Module: StudyDesk.Program.Task
Purpose: From a command line and what the program finds around it to what is to be done.
Main exports:
  Surroundings, ProgramFault, Task, Task.ofArguments, Question.attempts, Question.standAfter
-/
import StudyDesk.Config.Loading
import StudyDesk.Inference.Client
import StudyDesk.Program.Output

namespace StudyDesk

/-- What the program finds around it: the environment, and what is under the names of files. -/
structure Surroundings where
  env : String → Option String
  entry : String → Entry

/-- The names under which the program looks in a data directory, its own among them. -/
def fixtureNames (directory : String) : List String :=
  [directory, joinPath directory Library.briefFile, joinPath directory Library.detailedFile,
    joinPath directory Library.scaffoldFile]

/-- What is found in a data directory. -/
def Surroundings.fixtures (around : Surroundings) (directory : String) : Fixtures where
  present := around.entry directory = .directory
  brief := around.entry (joinPath directory Library.briefFile)
  detailed := around.entry (joinPath directory Library.detailedFile)
  scaffolds := around.entry (joinPath directory Library.scaffoldFile)

/-- Why nothing is done. -/
inductive ProgramFault where
  | usage (fault : UsageFault)
  | config (fault : ConfigFault)
  | library (fault : LibraryFault)
deriving DecidableEq, Repr

namespace ProgramFault

/-- The wording of a fault. -/
def message : ProgramFault → String
  | .usage fault => fault.message
  | .config fault => fault.message
  | .library fault => fault.message

/-- The exit status. -/
def exitStatus : ProgramFault → Nat
  | .usage fault => fault.exitStatus
  | _ => 1

end ProgramFault

/-- A question to the service, with everything that it takes to ask it. -/
structure Question where
  client : Client
  desk : Desk
  policy : RetryPolicy
  query : String
deriving Repr

/-- What is to be done: print, or ask. -/
inductive Task where
  | print (output : Output)
  | ask (question : Question)
deriving Repr

namespace Task

/-- The library of the settings. -/
def library (around : Surroundings) (s : TutorSettings) : Except ProgramFault Library :=
  (Library.ofFixtures s.dataDir (around.fixtures s.dataDir)).mapError .library

/-- The service and the desk of the settings. -/
def desk (around : Surroundings) (s : TutorSettings) : Except ProgramFault (Client × Desk) := do
  let client ← (Client.ofSettings s.desk.inference around.env).mapError .config
  let desk ← (Desk.ofSettings s.desk).mapError .config
  .ok (client, desk)

/-- What is to be done for a command. -/
def ofCommand (around : Surroundings) (s : TutorSettings) : Command → Except ProgramFault Task
  | .ask query noRetry => do
      let (client, desk) ← desk around s
      let policy := if noRetry then .none else RetryPolicy.ofSettings s.desk.retry
      .ok (.ask ⟨client, desk, policy, query⟩)
  | .topics => do
      let (_, desk) ← desk around s
      .ok (.print (.topics desk))
  | .check query => do
      let (_, desk) ← desk around s
      .ok (.print (.check desk query))
  | .listProblems topic => do
      let library ← library around s
      .ok (.print (.problems library topic))
  | .showProblem id => do
      let library ← library around s
      .ok (.print (.problem library id))
  | .scaffold id language => do
      let library ← library around s
      .ok (.print (.scaffold library id language))

/-- What is to be done for an invocation. -/
def ofInvocation (around : Surroundings) (invocation : Invocation) : Except ProgramFault Task := do
  let s ← (TutorSettings.load invocation (around.entry invocation.configFile)).mapError .config
  ofCommand around s invocation.command

/-- What is to be done for a command line. -/
def ofArguments (around : Surroundings) (args : List String) : Except ProgramFault Task := do
  let invocation ← (Invocation.ofArguments around.env args).mapError .usage
  ofInvocation around invocation

end Task

namespace Question

/-- The attempts at a question over connections that transfer what `transfer` says for each
exchange. -/
def attempts (question : Question) (transfer : Nat → Transfer) (cancel : Option Nat) : Attempts :=
  question.desk.runWithRetry (fun n => question.client.reply (transfer n)) cancel question.policy
    question.query 0 0

/-- The requests that go out for calls of the service; none if the key cannot be sent. -/
def requests (client : Client) (calls : List Call) : List Request :=
  if client.canSend then
    calls.map fun call => client.request call.instruction call.question call.params
  else []

/-- How far a question is when some transfers are over: at the next request, or done. -/
inductive Stand where
  | next (request : Request)
  | done (output : Output)

/-- How far a question is after the given transfers. -/
def standAfter (question : Question) (transfers : List Transfer) : Stand :=
  let attempts := question.attempts (fun n => transfers.getD n .silent) none
  match (requests question.client attempts.calls)[transfers.length]? with
  | some request => .next request
  | none => .done (.ofOutcome attempts.outcome)

end Question

end StudyDesk
