/-
Module: StudyDesk.Session.Reply
Purpose: What an inference service does with a question, and when.
Main exports:
  Reply, Service, Exchange, Race, cutShort?, exchange
-/
import StudyDesk.Inference.Fault

namespace StudyDesk

/-!
Time is counted in milliseconds and passes only while something is awaited.  An exchange ends with
the first of three events: the reply, the time limit, and the cancellation.  A reply that comes in the
instant of the limit is taken.  Where the cancellation meets another event in one instant, nothing
decides which of the two is noticed, so the races of an attempt say it.
-/

/-- A reply: what it says, and after how long it comes, if ever. -/
structure Reply where
  outcome : Except InferenceFault String
  delay : Option Nat
deriving Repr

/-- An inference service: its reply to each call, the calls being counted from zero. -/
abbrev Service := Nat → Reply

/-- An exchange that is over. -/
structure Exchange where
  outcome : Except InferenceFault String
  /-- The instant at which it was over. -/
  finish : Nat
  /-- Whether the service was asked. -/
  asked : Bool
deriving Repr

/-- The exchange without cancellation: the reply, if it comes within the limit. -/
def awaitReply (reply : Reply) (limit start : Nat) : Exchange :=
  match reply.delay with
  | some delay =>
      if delay ≤ limit then ⟨reply.outcome, start + delay, true⟩
      else ⟨.error .timeout, start + limit, true⟩
  | none => ⟨.error .timeout, start + limit, true⟩

/-- How the races of an attempt end in which the cancellation meets another event. -/
structure Race where
  /-- The cancellation is noticed before the service is asked, and before the end of the exchange. -/
  beatsExchange : Bool
  /-- The cancellation is noticed before the end of the pause that follows. -/
  beatsPause : Bool
deriving DecidableEq, Repr

/-- The cancellation is always noticed first. -/
def Race.toCancellation : Race := ⟨true, true⟩

/-- The instant at which a cancellation cuts a wait short, if it does; `wins` says whether it is
noticed before an end of the wait that comes in the same instant. -/
def cutShort? (wins : Bool) (cancel : Option Nat) (start finish : Nat) : Option Nat :=
  match cancel with
  | none => none
  | some c =>
      if max c start < finish || (max c start = finish && wins) then some (max c start) else none

/-- An exchange that starts at an instant, and that a cancellation may cut short.  A cancellation
that was there before and wins its race keeps the service from being asked at all. -/
def exchange (race : Race) (reply : Reply) (limit : Nat) (cancel : Option Nat) (start : Nat) :
    Exchange :=
  let full := awaitReply reply limit start
  match cutShort? race.beatsExchange cancel start full.finish with
  | none => full
  | some instant => ⟨.error .cancelled, instant, start < instant || !race.beatsExchange⟩

end StudyDesk
