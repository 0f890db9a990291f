/-
Module: StudyDesk.Session.Retry
Purpose: Asking again after failures that may pass.
Main exports:
  RetryPolicy, Attempts, Desk.runWithRetry, Desk.runTogether
-/
import StudyDesk.Session.Tally

namespace StudyDesk

/-!
Only failures that may pass are followed by another run, after a fixed pause.  A cancellation during
the pause ends the attempts with the failure that there was.  Attempts are numbered from one in 32
bits, and the number goes up only below the last one that is allowed, so it never wraps around.
-/

/-- How often to run, counting the first time, and how long to pause in between. -/
structure RetryPolicy where
  maxAttempts : Nat
  backoffMs : Nat
deriving DecidableEq, Repr

namespace RetryPolicy

/-- Run once. -/
def none : RetryPolicy := ⟨1, 0⟩

/-- The policy when none is configured. -/
def standard : RetryPolicy := ⟨2, 250⟩

/-- The policy that settings describe. -/
def ofSettings (s : RetrySettings) : RetryPolicy := ⟨s.maxAttempts, s.backoffMs⟩

/-- The number of the last attempt that a policy allows; there is always a first one. -/
def lastAttempt (policy : RetryPolicy) : UInt32 := .ofNat (max policy.maxAttempts 1)

end RetryPolicy

/-- The record of a question with all its attempts. -/
structure Attempts where
  /-- The runs, in order. -/
  runs : List Run
  /-- How many retries were decided. -/
  retries : Nat
  outcome : Outcome
  /-- The instant at which the question was given up or answered. -/
  finish : Nat
  /-- The number of the last attempt, as it was counted. -/
  counted : UInt32
deriving Repr

namespace Attempts

/-- The calls of all attempts, in order. -/
def calls (a : Attempts) : List Call := a.runs.flatMap Run.calls

/-- What the attempts add to the counters. -/
def tally (a : Attempts) : Tally :=
  { (a.runs.map Run.tally).foldl Tally.add Tally.zero with retries := a.retries }

/-- One more run in front, after which a retry was decided. -/
def after (run : Run) (later : Attempts) : Attempts :=
  { later with runs := run :: later.runs, retries := later.retries + 1 }

end Attempts

/-- The end of a pause that starts at an instant, and whether a cancellation ended it. -/
def pause (race : Race) (backoff : Nat) (cancel : Option Nat) (start : Nat) : Nat × Bool :=
  match cutShort? race.beatsPause cancel start (start + backoff) with
  | none => (start + backoff, false)
  | some instant => (instant, true)

/-- Whether an outcome is a failure that may pass. -/
def isRetryable : Outcome → Bool
  | .error failure => failure.isRetryable
  | .ok _ => false

/-- The number after one that is not the last one: the count cannot wrap around. -/
theorem toNat_next_of_lt {number last : UInt32} (below : number < last) :
    (number + 1).toNat = number.toNat + 1 := by
  have bound := UInt32.lt_iff_toNat_lt.mp below
  have size := last.toNat_lt
  rw [UInt32.toNat_add]
  simp only [UInt32.toNat_one]
  omega

namespace Desk

/-- The attempt of a number and those after it, up to the last one that is allowed.  `races` says how
the races of each attempt end. -/
def attempt (desk : Desk) (service : Service) (cancel : Option Nat) (backoff : Nat)
    (query : String) (races : Nat → Race) (last number : UInt32) (start nextCall : Nat) :
    Attempts :=
  let race := races number.toNat
  let run := desk.run service cancel query start nextCall race
  if _allowed : isRetryable run.outcome ∧ number < last then
    let paused := pause race backoff cancel run.finish
    if paused.2 then ⟨[run], 1, run.outcome, paused.1, number⟩
    else
      (desk.attempt service cancel backoff query races last (number + 1) paused.1
        (nextCall + run.calls.length)).after run
  else ⟨[run], 0, run.outcome, run.finish, number⟩
termination_by last.toNat - number.toNat
decreasing_by
  have next := toNat_next_of_lt _allowed.2
  have below := UInt32.lt_iff_toNat_lt.mp _allowed.2
  omega

/-- A question with as many attempts as the policy allows, but at least one. -/
def runWithRetry (desk : Desk) (service : Service) (cancel : Option Nat) (policy : RetryPolicy)
    (query : String) (start nextCall : Nat) (races : Nat → Race := fun _ => .toCancellation) :
    Attempts :=
  desk.attempt service cancel policy.backoffMs query races policy.lastAttempt 1 start nextCall

/-- Several questions that start in the same instant, one call after the other. -/
def runTogether (desk : Desk) (service : Service) (cancel : Option Nat) (start : Nat) :
    List String → Nat → List Run
  | [], _ => []
  | query :: rest, nextCall =>
      let run := desk.run service cancel query start nextCall
      run :: desk.runTogether service cancel start rest (nextCall + run.calls.length)

end Desk

end StudyDesk
