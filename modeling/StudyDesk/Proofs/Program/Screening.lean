/-
Module: StudyDesk.Proofs.Program.Screening
Purpose: What the check of a question prints tells what becomes of the question when it is asked.
Main exports:
  Desk.passes_iff_admits, Desk.reachedService_iff, Desk.Screens, Desk.check_agrees
-/
import StudyDesk.Program.Output
import StudyDesk.Proofs.Gate.Trimming
import StudyDesk.Proofs.Session.TurnedAway

namespace StudyDesk

namespace Output

/-- What is printed for a question that the gate lets through. -/
def passingText : String := "\x7b\n  \"safe\": true\n\x7d\n"

/-- What is printed for a question that the gate blocks. -/
def blockedText : String := "\x7b\n  \"safe\": false\n\x7d\n"

theorem text_check (desk : Desk) (query : String) :
    (check desk query).text = if desk.gate.passes query then passingText else blockedText := by
  rw [check]
  cases desk.gate.passes query <;> decide +kernel

end Output

namespace Desk

variable {terms : List String} {desk : Desk} {query : String}

/-! ### One gate for both -/

/-- The check looks at the question as it came, the run at the question without the blanks around it;
the gate makes no difference between them. -/
theorem passes_iff_admits (made : Gate.ofTerms? terms = some desk.gate)
    (notBlank : Text.isBlankText query = false) :
    desk.gate.passes query = true ↔ desk.Admits query := by
  rw [Gate.passes, ← Gate.find_trim made, ← Gate.passes, Admits, ← passes_eq_false_iff,
    Bool.not_eq_false]
  exact ⟨fun passed => ⟨notBlank, passed⟩, fun admits => admits.2⟩

theorem check_passing_iff (made : Gate.ofTerms? terms = some desk.gate)
    (notBlank : Text.isBlankText query = false) :
    (Output.check desk query).text = Output.passingText ↔ desk.Admits query := by
  rw [Output.text_check, ← passes_iff_admits made notBlank]
  cases desk.gate.passes query <;> decide

theorem check_blocked_iff (made : Gate.ofTerms? terms = some desk.gate)
    (notBlank : Text.isBlankText query = false) :
    (Output.check desk query).text = Output.blockedText ↔ ¬ desk.Admits query := by
  rw [Output.text_check, ← passes_iff_admits made notBlank]
  cases desk.gate.passes query <;> decide

/-! ### What becomes of a question -/

variable {service : Service} {cancel : Option Nat} {start nextCall : Nat} {race : Race}

/-- Exactly the questions that are admitted get as far as the exchange. -/
theorem reachedService_iff :
    (desk.run service cancel query start nextCall race).reachedService = true ↔
      desk.Admits query := by
  have course := run_course desk service cancel query start nextCall race
  generalize desk.run service cancel query start nextCall race = run at course
  cases course with
  | blank blank =>
      exact iff_of_false (by simp [Run.reachedService, Stage.atOnce])
        (fun admits => not_admits_iff.mpr (.inl blank) admits)
  | blocked _ blocked =>
      exact iff_of_false (by simp [Run.reachedService, Stage.atOnce])
        (fun admits => not_admits_iff.mpr (.inr blocked) admits)
  | failed admits => exact iff_of_true rfl admits
  | delivered admits => exact iff_of_true rfl admits

theorem blocks_of_not_admits (notBlank : Text.isBlankText query = false)
    (refused : ¬ desk.Admits query) : desk.Blocks query := by
  rcases not_admits_iff.mp refused with blank | blocked
  · rw [blank] at notBlank
    cases notBlank
  · exact blocked

/-- What the check of a question tells, whatever the service does, whenever a cancellation comes, and
however often the question may be asked. -/
structure Screens (desk : Desk) (query : String) : Prop where
  /-- One of two texts is printed. -/
  prints : (Output.check desk query).text = Output.passingText ∨
    (Output.check desk query).text = Output.blockedText
  /-- The one says that the question gets as far as the exchange, -/
  passing_iff_run : ∀ service cancel start nextCall race,
    (Output.check desk query).text = Output.passingText ↔
      (desk.run service cancel query start nextCall race).reachedService = true
  /-- the other that the gate turns it away before. -/
  blocked_iff_run : ∀ service cancel start nextCall race,
    let run := desk.run service cancel query start nextCall race
    (Output.check desk query).text = Output.blockedText ↔
      run.outcome = .ok (.rejected Gate.blockedReason) ∧ run.reachedService = false
  /-- So it is with every attempt at it, of which there is at least one, -/
  attempted : ∀ service cancel policy start nextCall races,
    (desk.runWithRetry service cancel policy query start nextCall races).runs ≠ []
  passing_iff_ask : ∀ service cancel policy start nextCall races,
    (Output.check desk query).text = Output.passingText ↔
      ∀ run ∈ (desk.runWithRetry service cancel policy query start nextCall races).runs,
        run.reachedService = true
  /-- and what is printed in the end for a question that is turned away is the rejection. -/
  blocked_iff_ask : ∀ service cancel policy start nextCall races,
    (Output.check desk query).text = Output.blockedText ↔
      Output.ask desk service cancel policy query start nextCall races =
          ⟨(Classification.rejected Gate.blockedReason).toJson, true⟩ ∧
        ∀ run ∈ (desk.runWithRetry service cancel policy query start nextCall races).runs,
          run.reachedService = false

/-- Every attempt at an admitted question gets as far as the exchange, and none at any other. -/
theorem attempts_reachedService (desk : Desk) (service : Service) (cancel : Option Nat)
    (policy : RetryPolicy) (query : String) (start nextCall : Nat) (races : Nat → Race) :
    let runs := (desk.runWithRetry service cancel policy query start nextCall races).runs
    runs ≠ [] ∧ ∀ run ∈ runs, (run.reachedService = true ↔ desk.Admits query) :=
  attempt_runs (P := fun run => run.reachedService = true ↔ desk.Admits query)
    (fun _ _ _ => reachedService_iff) policy.lastAttempt 1 start nextCall

theorem ask_of_blocks (notBlank : Text.isBlankText query = false) (blocked : desk.Blocks query)
    (service : Service) (cancel : Option Nat) (policy : RetryPolicy) (start nextCall : Nat)
    (races : Nat → Race) :
    Output.ask desk service cancel policy query start nextCall races =
      ⟨(Classification.rejected Gate.blockedReason).toJson, true⟩ := by
  rw [Output.ask, runWithRetry_of_blocks notBlank blocked]
  rfl

theorem screens_of_made (made : Gate.ofTerms? terms = some desk.gate)
    (notBlank : Text.isBlankText query = false) : desk.Screens query := by
  have passing := check_passing_iff made notBlank
  have blocked := check_blocked_iff made notBlank
  exact {
    prints := by
      by_cases admits : desk.Admits query
      · exact .inl (passing.mpr admits)
      · exact .inr (blocked.mpr admits)
    passing_iff_run := by
      intro service cancel start nextCall race
      rw [passing, reachedService_iff]
    blocked_iff_run := by
      intro service cancel start nextCall race run
      rw [blocked, ← Bool.not_eq_true, reachedService_iff]
      refine (and_iff_right_of_imp ?_).symm
      intro refused
      exact (run_course ..).of_blocked notBlank (blocks_of_not_admits notBlank refused)
    attempted := by
      intro service cancel policy start nextCall races
      exact (attempts_reachedService desk service cancel policy query start nextCall races).1
    passing_iff_ask := by
      intro service cancel policy start nextCall races
      obtain ⟨nonempty, each⟩ :=
        attempts_reachedService desk service cancel policy query start nextCall races
      rw [passing]
      constructor
      · intro admits run isRun
        exact (each run isRun).mpr admits
      · intro reached
        obtain ⟨run, isRun⟩ := List.exists_mem_of_ne_nil _ nonempty
        exact (each run isRun).mp (reached run isRun)
    blocked_iff_ask := by
      intro service cancel policy start nextCall races
      obtain ⟨nonempty, each⟩ :=
        attempts_reachedService desk service cancel policy query start nextCall races
      rw [blocked]
      constructor
      · intro refused
        refine ⟨ask_of_blocks notBlank (blocks_of_not_admits notBlank refused) .., ?_⟩
        intro run isRun
        exact Bool.eq_false_iff.mpr (mt (each run isRun).mp refused)
      · rintro ⟨-, stopped⟩ admits
        obtain ⟨run, isRun⟩ := List.exists_mem_of_ne_nil _ nonempty
        exact Bool.eq_false_iff.mp (stopped run isRun) ((each run isRun).mpr admits) }

/-- What the check of a question prints agrees with what becomes of it: the gate reports the same of
the question as it came and without the blanks around it, and a question of blanks apart, it is blocked
by the check exactly if it is turned away when it is asked. -/
theorem check_agrees (terms : List String) (desk : Desk)
    (made : Gate.ofTerms? terms = some desk.gate) (query : String) :
    desk.gate.find query = desk.gate.find (Text.trim query) ∧
      (Text.isBlankText query = false → desk.Screens query) :=
  ⟨(Gate.find_trim made query).symm, screens_of_made made⟩

/-- So it is for a term that ends in a sigma, at the end of a question with blanks around it. -/
theorem check_agrees_final_sigma :
    let desk : Desk := { standard with gate := ⟨["οδος"]⟩ }
    let query := "\u2003ΠΕΡΙΟΔΟΣ\n"
    Gate.ofTerms? ["ΟΔΟΣ "] = some desk.gate ∧ Text.isBlankText query = false ∧
      desk.gate.find query = desk.gate.find (Text.trim query) ∧ desk.Screens query := by
  intro desk query
  have made : Gate.ofTerms? ["ΟΔΟΣ "] = some desk.gate := by decide +kernel
  have notBlank : Text.isBlankText query = false := by decide +kernel
  obtain ⟨found, screens⟩ := check_agrees ["ΟΔΟΣ "] desk made query
  exact ⟨made, notBlank, found, screens notBlank⟩

end Desk

end StudyDesk
