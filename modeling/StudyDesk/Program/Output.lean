/-
Module: StudyDesk.Program.Output
Purpose: What each command prints, and whether it succeeded.
Main exports:
  Output, Output.text
-/
import StudyDesk.Practice.Library
import StudyDesk.Session.Retry

namespace StudyDesk

/-- What a command prints, and whether it succeeded. -/
structure Output where
  body : Json
  success : Bool
deriving Repr

namespace Output

/-- A command that succeeded. -/
def good (body : Json) : Output := ⟨body, true⟩

/-- A command that did not find what was asked for. -/
def notFound (message : String) : Output := ⟨.object [("error", .string message)], false⟩

/-- What is printed: the body with its names in order, over several lines. -/
def text (output : Output) : String := output.body.canonical.pretty ++ "\n"

/-- The exit status. -/
def exitStatus (output : Output) : Nat := if output.success then 0 else 1

/-- The answer to a question, or the failure. -/
def ofOutcome : Outcome → Output
  | .ok result => good result.toJson
  | .error failure => ⟨failure.toJson, false⟩

/-- The answer to a question with as many attempts as the policy allows. -/
def ask (desk : Desk) (service : Service) (cancel : Option Nat) (policy : RetryPolicy)
    (query : String) (start nextCall : Nat) (races : Nat → Race := fun _ => .toCancellation) :
    Output :=
  ofOutcome (desk.runWithRetry service cancel policy query start nextCall races).outcome

/-- The topics of a desk. -/
def topics (desk : Desk) : Output := good desk.registry.toJson

/-- Whether a question passes the gate of a desk. -/
def check (desk : Desk) (query : String) : Output :=
  good (.object [("safe", .bool (desk.gate.passes query))])

/-- The problem list, or the problems on a topic. -/
def problems (library : Library) (topic : Option String) : Output :=
  let summaries :=
    match topic with
    | some needle => library.withTopic needle
    | none => library.summaries
  good (.array (summaries.map Summary.toJson))

/-- The record of a problem. -/
def problem (library : Library) (id : String) : Output :=
  match library.detail? id with
  | some detail => good detail.toJson
  | none => notFound "Problem not found"

/-- The scaffold of a problem in a language. -/
def scaffold (library : Library) (id language : String) : Output :=
  match library.scaffold? id language with
  | some wrapper => good (.object [("wrapper", .string wrapper)])
  | none => notFound "Testcases not found"

end Output

end StudyDesk
