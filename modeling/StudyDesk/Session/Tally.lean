/-
Module: StudyDesk.Session.Tally
Purpose: The counters of a desk.
Main exports:
  Tally, Tally.add, Run.tally, Tally.series
-/
import StudyDesk.Session.Run

namespace StudyDesk

/-- What has been counted: questions done by the label of their outcome, retries decided, and
exchanges whose time was recorded. -/
structure Tally where
  answered : Nat
  rejected : Nat
  emptyQuery : Nat
  serviceError : Nat
  parseFailure : Nat
  schemaViolation : Nat
  retries : Nat
  latencies : Nat
deriving DecidableEq, Repr

namespace Tally

/-- Nothing counted. -/
def zero : Tally := ⟨0, 0, 0, 0, 0, 0, 0, 0⟩

/-- Both counts together. -/
def add (a b : Tally) : Tally :=
  ⟨a.answered + b.answered, a.rejected + b.rejected, a.emptyQuery + b.emptyQuery,
    a.serviceError + b.serviceError, a.parseFailure + b.parseFailure,
    a.schemaViolation + b.schemaViolation, a.retries + b.retries, a.latencies + b.latencies⟩

instance : Add Tally := ⟨add⟩

/-- One question done. -/
def ofOutcome : Outcome → Tally
  | .ok result => if result.valid then { zero with answered := 1 } else { zero with rejected := 1 }
  | .error failure =>
      match failure.kind with
      | .emptyQuery => { zero with emptyQuery := 1 }
      | .serviceError => { zero with serviceError := 1 }
      | .parseFailure => { zero with parseFailure := 1 }
      | .schemaViolation => { zero with schemaViolation := 1 }

/-- One retry decided. -/
def retry : Tally := { zero with retries := 1 }

/-- One exchange over. -/
def latency : Tally := { zero with latencies := 1 }

/-- All questions done. -/
def questions (t : Tally) : Nat :=
  t.answered + t.rejected + t.emptyQuery + t.serviceError + t.parseFailure + t.schemaViolation

/-- The counters under their names, as far as they have been touched.  Exchanges are counted under
the name of the client. -/
def series (client : String) (t : Tally) : List (String × Nat) :=
  let outcome := fun (label : String) =>
    "codetutor_classifications_total\x7boutcome=" ++ label ++ "\x7d"
  [(outcome "answered", t.answered),
    (outcome "rejected", t.rejected),
    (outcome "empty_query", t.emptyQuery),
    (outcome "service_error", t.serviceError),
    (outcome "parse_failure", t.parseFailure),
    (outcome "schema_violation", t.schemaViolation),
    ("codetutor_retries_total", t.retries),
    ("codetutor_inference_latency_us\x7bclient=" ++ client ++ "\x7d", t.latencies)].filter
      fun counter => counter.2 != 0

end Tally

/-- What one question adds to the counters. -/
def Run.tally (run : Run) : Tally :=
  if run.reachedService then Tally.latency + Tally.ofOutcome run.outcome
  else Tally.ofOutcome run.outcome

end StudyDesk
