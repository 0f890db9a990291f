/-
Module: StudyDesk.Session.Run
Purpose: One question from receipt to outcome.
Main exports:
  Stage, Call, Run, Desk.run, Desk.classifyWithCancel, Desk.classify
-/
import StudyDesk.Session.Desk
import StudyDesk.Session.Reply
import StudyDesk.Text.Blank

namespace StudyDesk

/-!
A question that is blank or blocked is done as soon as it is received.  Any other is sent, trimmed,
beside the instruction; if the exchange fails the question is done from there, else the answer is
held against the contract.
-/

/-- A stage that a question reaches. -/
inductive Stage where
  | received
  | safetyChecked
  | prompted
  | invoked
  | validated
  | done
deriving DecidableEq, Repr

/-- The name of a stage. -/
def Stage.name : Stage → String
  | .received => "Received"
  | .safetyChecked => "SafetyChecked"
  | .prompted => "Prompted"
  | .invoked => "Invoked"
  | .validated => "Validated"
  | .done => "Done"

/-- A call of the service. -/
structure Call where
  /-- The instant at which it was made. -/
  time : Nat
  instruction : String
  question : String
  params : Params
deriving DecidableEq, Repr

/-- The record of one question. -/
structure Run where
  stages : List Stage
  outcome : Outcome
  /-- The calls of the service: at most one. -/
  calls : List Call
  /-- The instant at which the question was done. -/
  finish : Nat
deriving Repr

/-- Whether the question got as far as the exchange. -/
def Run.reachedService (run : Run) : Bool := run.stages.contains .prompted

namespace Desk

/-- A question that is neither blank nor blocked, already trimmed. -/
def consult (desk : Desk) (service : Service) (cancel : Option Nat) (question : String)
    (start nextCall : Nat) (race : Race) : Run :=
  let ended := exchange race (service nextCall) desk.timeoutMs cancel start
  let calls := if ended.asked then [⟨start, desk.instruction, question, desk.params⟩] else []
  match ended.outcome with
  | .error fault =>
      ⟨[.received, .safetyChecked, .prompted, .done], .error (.service fault), calls,
        ended.finish⟩
  | .ok raw =>
      ⟨[.received, .safetyChecked, .prompted, .invoked, .validated, .done],
        Contract.validate desk.registry raw, calls, ended.finish⟩

/-- A question that starts at an instant, when so many calls have been made before. -/
def run (desk : Desk) (service : Service) (cancel : Option Nat) (query : String)
    (start nextCall : Nat) (race : Race := .toCancellation) : Run :=
  let question := Text.trim query
  if question.isEmpty then ⟨[.received, .done], .error .emptyQuery, [], start⟩
  else if !desk.gate.passes question then
    ⟨[.received, .done], .ok (.rejected Gate.blockedReason), [], start⟩
  else desk.consult service cancel question start nextCall race

/-- The outcome of a question that a cancellation may cut short. -/
def classifyWithCancel (desk : Desk) (service : Service) (cancel : Option Nat) (query : String)
    (start nextCall : Nat) (race : Race := .toCancellation) : Outcome :=
  (desk.run service cancel query start nextCall race).outcome

/-- The outcome of a question. -/
def classify (desk : Desk) (service : Service) (query : String) (start nextCall : Nat) : Outcome :=
  desk.classifyWithCancel service none query start nextCall

end Desk

end StudyDesk
