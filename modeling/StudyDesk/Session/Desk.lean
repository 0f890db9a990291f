/-
Module: StudyDesk.Session.Desk
Purpose: The desk: what one question needs besides the service.
Main exports:
  Desk, Desk.standard, Desk.ofSettings
-/
import StudyDesk.Answer.Contract
import StudyDesk.Answer.Prompt
import StudyDesk.Config.Settings

namespace StudyDesk

/-- A desk that is ready for questions.  It keeps nothing from one question to the next. -/
structure Desk where
  gate : Gate
  registry : Registry
  params : Params
  /-- The limit for one exchange, in milliseconds. -/
  timeoutMs : Nat
deriving DecidableEq, Repr

namespace Desk

/-- The limit for one exchange when none is configured. -/
def defaultTimeoutMs : Nat := 30000

/-- The desk when nothing is configured. -/
def standard : Desk :=
  ⟨⟨Gate.defaultTerms.map Gate.normalize⟩, .standard, .standard, defaultTimeoutMs⟩

/-- The registry of a version, as the desk asks for it. -/
def registryOf (version : Nat) : Except ConfigFault Registry :=
  match Registry.forVersion? version with
  | some registry => .ok registry
  | none => .error (.registryVersion version)

/-- The gate for a deny-list, as the desk asks for it. -/
def gateOf (terms : List String) : Except ConfigFault Gate :=
  match Gate.ofTerms? terms with
  | some gate => .ok gate
  | none => .error .emptyTerm

/-- The desk that settings describe. -/
def ofSettings (s : Settings) : Except ConfigFault Desk := do
  s.check
  let registry ← registryOf s.registryVersion
  let gate ← gateOf s.denyList
  .ok ⟨gate, registry, s.inference.params, s.inference.timeoutMs⟩

/-- The instruction that goes with every question. -/
def instruction (desk : Desk) : String := Prompt.instruction desk.registry

end Desk

end StudyDesk
