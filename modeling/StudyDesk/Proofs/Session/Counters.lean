/-
Module: StudyDesk.Proofs.Session.Counters
Purpose: The counters add up: every run is counted as one question.
Main exports:
  Tally.questionsHom, Tally.latenciesHom, Tally.retriesHom, Run.questions_tally,
  Attempts.questions_tally, Attempts.tally_eq_sum
-/
import Mathlib.Algebra.BigOperators.Group.List.Basic
import StudyDesk.Session.Retry

namespace StudyDesk

namespace Tally

theorem add_def (a b : Tally) : a + b = a.add b := rfl

theorem questions_add (a b : Tally) : (a.add b).questions = a.questions + b.questions := by
  simp only [questions, add]
  omega

/-! Counters add up in any order, so that those of several questions at once can be summed. -/

instance : Zero Tally := ⟨zero⟩

theorem zero_def : (0 : Tally) = zero := rfl

instance : AddCommMonoid Tally where
  add_assoc a b c := by simp only [add_def, add, Nat.add_assoc]
  zero_add a := by simp only [add_def, zero_def, add, zero, Nat.zero_add]
  add_zero a := by simp only [add_def, zero_def, add, zero, Nat.add_zero]
  add_comm a b := by simp only [add_def, add, Nat.add_comm]
  nsmul := nsmulRec

/-- So many retries decided. -/
theorem nsmul_retry (count : Nat) : count • retry = { zero with retries := count } := by
  induction count with
  | zero => rfl
  | succ count ih =>
      rw [succ_nsmul, ih]
      rfl

@[simp] theorem add_questions (a b : Tally) : (a + b).questions = a.questions + b.questions :=
  questions_add a b

@[simp] theorem add_retries (a b : Tally) : (a + b).retries = a.retries + b.retries := rfl

@[simp] theorem add_latencies (a b : Tally) : (a + b).latencies = a.latencies + b.latencies := rfl

/-- The questions that were done, as a sum. -/
def questionsHom : Tally →+ ℕ where
  toFun := questions
  map_zero' := rfl
  map_add' := add_questions

/-- The exchanges whose time was recorded, as a sum. -/
def latenciesHom : Tally →+ ℕ where
  toFun := latencies
  map_zero' := rfl
  map_add' := add_latencies

/-- The retries that were decided, as a sum. -/
def retriesHom : Tally →+ ℕ where
  toFun := retries
  map_zero' := rfl
  map_add' := add_retries

/-- Whatever the outcome, it is counted under one label. -/
theorem questions_ofOutcome (outcome : Outcome) : (ofOutcome outcome).questions = 1 := by
  cases outcome with
  | ok result => cases valid : result.valid <;> simp [ofOutcome, valid, questions, zero]
  | error failure => cases kind : failure.kind <;> simp [ofOutcome, kind, questions, zero]

/-- A question done is neither a retry nor an exchange. -/
theorem ofOutcome_only (outcome : Outcome) :
    (ofOutcome outcome).retries = 0 ∧ (ofOutcome outcome).latencies = 0 := by
  cases outcome with
  | ok result => cases valid : result.valid <;> simp [ofOutcome, valid, zero]
  | error failure => cases kind : failure.kind <;> simp [ofOutcome, kind, zero]

end Tally

namespace Run

theorem questions_tally (run : Run) : run.tally.questions = 1 := by
  cases reached : run.reachedService with
  | true =>
      rw [tally, reached, if_pos rfl, Tally.add_def, Tally.questions_add,
        Tally.questions_ofOutcome]
      rfl
  | false => rw [tally, reached, if_neg Bool.false_ne_true, Tally.questions_ofOutcome]

theorem retries_tally (run : Run) : run.tally.retries = 0 := by
  have none := (Tally.ofOutcome_only run.outcome).1
  cases reached : run.reachedService with
  | true =>
      rw [tally, reached, if_pos rfl, Tally.add_def, Tally.add, none]
      rfl
  | false => rw [tally, reached, if_neg Bool.false_ne_true, none]

/-- Runs that are counted after others add as many questions as they are. -/
theorem questions_foldl_tally (runs : List Run) (before : Tally) :
    ((runs.map tally).foldl Tally.add before).questions = before.questions + runs.length := by
  induction runs generalizing before with
  | nil => rfl
  | cons run rest ih =>
      rw [List.map_cons, List.foldl_cons, ih, Tally.questions_add, questions_tally,
        List.length_cons]
      omega

end Run

namespace Attempts

theorem retries_sum_tally (runs : List Run) : (runs.map Run.tally).sum.retries = 0 := by
  induction runs with
  | nil => rfl
  | cons run rest ih =>
      rw [List.map_cons, List.sum_cons, Tally.add_def, Tally.add, ih, Run.retries_tally]

/-- The counters of a question, from its runs and its retries. -/
theorem tally_eq_sum (attempts : Attempts) :
    attempts.tally = (attempts.runs.map Run.tally).sum + attempts.retries • Tally.retry := by
  have folded : (attempts.runs.map Run.tally).foldl Tally.add Tally.zero =
      (attempts.runs.map Run.tally).sum := List.sum_eq_foldl.symm
  have none := retries_sum_tally attempts.runs
  rw [tally, folded, Tally.nsmul_retry]
  simp only [Tally.add_def, Tally.add, Tally.zero, Nat.add_zero, none, Nat.zero_add]

/-- With all its attempts a question is counted as often as it was run. -/
theorem questions_tally (attempts : Attempts) :
    attempts.tally.questions = attempts.runs.length := by
  calc attempts.tally.questions
      = ((attempts.runs.map Run.tally).foldl Tally.add Tally.zero).questions := rfl
    _ = Tally.zero.questions + attempts.runs.length := Run.questions_foldl_tally _ _
    _ = attempts.runs.length := Nat.zero_add _

end Attempts

end StudyDesk
