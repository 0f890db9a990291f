/-
Module: StudyDesk.Proofs.Session.Trace
Purpose: The stages of a question and its outcome determine each other.
Main exports:
  Stage.atOnce, Stage.withoutReply, Stage.complete, Desk.Admits, Desk.Course, Desk.run_course,
  Desk.RunLaw, Desk.run_obeys_law
-/
import StudyDesk.Proofs.Answer.Acceptance
import StudyDesk.Proofs.Session.Exchange
import StudyDesk.Session.Run

namespace StudyDesk

namespace Stage

/-- The stages of a question that is done as soon as it is received. -/
def atOnce : List Stage := [.received, .done]

/-- The stages of a question whose exchange failed. -/
def withoutReply : List Stage := [.received, .safetyChecked, .prompted, .done]

/-- The stages of a question whose answer was held against the contract. -/
def complete : List Stage := [.received, .safetyChecked, .prompted, .invoked, .validated, .done]

theorem atOnce_ne_withoutReply : atOnce ≠ withoutReply := by decide

theorem atOnce_ne_complete : atOnce ≠ complete := by decide

theorem withoutReply_ne_complete : withoutReply ≠ complete := by decide

end Stage

namespace Desk

/-- A question whose trimmed text holds a term of the deny-list. -/
def Blocks (desk : Desk) (query : String) : Prop :=
  ∃ term, desk.gate.find (Text.trim query) = some term

/-- A question that is neither blank nor blocked. -/
def Admits (desk : Desk) (query : String) : Prop :=
  Text.isBlankText query = false ∧ ¬ desk.Blocks query

/-- The exchange of a question. -/
def stage (desk : Desk) (service : Service) (cancel : Option Nat) (start nextCall : Nat)
    (race : Race) : Exchange :=
  exchange race (service nextCall) desk.timeoutMs cancel start

/-- The call by which a question is put to the service. -/
def call (desk : Desk) (query : String) (start : Nat) : Call :=
  ⟨start, desk.instruction, Text.trim query, desk.params⟩

variable {desk : Desk} {service : Service} {cancel : Option Nat} {query : String}
  {start nextCall : Nat} {race : Race}

theorem passes_eq_false_iff : desk.gate.passes (Text.trim query) = false ↔ desk.Blocks query := by
  rw [Gate.passes, Option.isNone_eq_false_iff, Option.isSome_iff_exists, Blocks]

theorem passes_of_not_blocks (notBlocked : ¬ desk.Blocks query) :
    desk.gate.passes (Text.trim query) = true := by
  rw [← Bool.not_eq_false, passes_eq_false_iff]
  exact notBlocked

instance : Decidable (desk.Blocks query) := decidable_of_iff _ passes_eq_false_iff

instance : Decidable (desk.Admits query) :=
  inferInstanceAs (Decidable (Text.isBlankText query = false ∧ ¬ desk.Blocks query))

theorem stage_ends (desk : Desk) (service : Service) (cancel : Option Nat) (start nextCall : Nat)
    (race : Race) :
    Exchange.Ends (service nextCall) desk.timeoutMs cancel start
      (desk.stage service cancel start nextCall race) :=
  exchange_ends race (service nextCall) desk.timeoutMs cancel start

/-! ### The courses of a question

One constructor for each place where a question can be done: before the exchange, because it is blank
or blocked; after a failed exchange; after an exchange that delivered a text.
-/

/-- The courses that a question can take, each with its whole record. -/
inductive Course (desk : Desk) (service : Service) (cancel : Option Nat) (query : String)
    (start nextCall : Nat) (race : Race) : Run → Prop where
  | blank (blank : Text.isBlankText query = true) :
      Course desk service cancel query start nextCall race
        ⟨Stage.atOnce, .error .emptyQuery, [], start⟩
  | blocked (notBlank : Text.isBlankText query = false) (blocked : desk.Blocks query) :
      Course desk service cancel query start nextCall race
        ⟨Stage.atOnce, .ok (.rejected Gate.blockedReason), [], start⟩
  | failed {fault : InferenceFault} (admits : desk.Admits query)
      (failed : (desk.stage service cancel start nextCall race).outcome = .error fault) :
      Course desk service cancel query start nextCall race
        ⟨Stage.withoutReply, .error (.service fault),
          if (desk.stage service cancel start nextCall race).asked then [desk.call query start]
          else [],
          (desk.stage service cancel start nextCall race).finish⟩
  | delivered {raw : String} (admits : desk.Admits query)
      (delivered : (desk.stage service cancel start nextCall race).outcome = .ok raw) :
      Course desk service cancel query start nextCall race
        ⟨Stage.complete, Contract.validate desk.registry raw,
          if (desk.stage service cancel start nextCall race).asked then [desk.call query start]
          else [],
          (desk.stage service cancel start nextCall race).finish⟩

/-- A question that is neither blank nor blocked goes on to its exchange. -/
theorem consult_course (admits : desk.Admits query) :
    Course desk service cancel query start nextCall race
      (desk.consult service cancel (Text.trim query) start nextCall race) := by
  cases ended : (desk.stage service cancel start nextCall race).outcome with
  | error fault =>
      have course := Course.failed admits ended
      rw [stage] at ended
      simp only [consult, ended]
      exact course
  | ok raw =>
      have course := Course.delivered admits ended
      rw [stage] at ended
      simp only [consult, ended]
      exact course

/-- Every question takes one of the courses. -/
theorem run_course (desk : Desk) (service : Service) (cancel : Option Nat) (query : String)
    (start nextCall : Nat) (race : Race) :
    Course desk service cancel query start nextCall race
      (desk.run service cancel query start nextCall race) := by
  cases blank : Text.isBlankText query with
  | true =>
      rw [run, Text.trim_isEmpty, if_pos blank]
      exact .blank blank
  | false =>
      by_cases blocked : desk.Blocks query
      · rw [run, Text.trim_isEmpty, blank, passes_eq_false_iff.mpr blocked]
        exact .blocked blank blocked
      · rw [run, Text.trim_isEmpty, blank, passes_of_not_blocks blocked]
        exact consult_course ⟨blank, blocked⟩

/-! ### From the trace to the question, and back -/

variable {run : Run}

theorem not_admits_iff : ¬ desk.Admits query ↔
    Text.isBlankText query = true ∨ desk.Blocks query := by
  rw [Admits, not_and_or, not_not, Bool.not_eq_false]

namespace Course

theorem atOnce_iff (course : Course desk service cancel query start nextCall race run) :
    run.stages = Stage.atOnce ↔ Text.isBlankText query = true ∨ desk.Blocks query := by
  cases course with
  | blank blank => exact iff_of_true rfl (.inl blank)
  | blocked _ blocked => exact iff_of_true rfl (.inr blocked)
  | failed admits =>
      exact iff_of_false Stage.atOnce_ne_withoutReply.symm
        (fun early => not_admits_iff.mpr early admits)
  | delivered admits =>
      exact iff_of_false Stage.atOnce_ne_complete.symm
        (fun early => not_admits_iff.mpr early admits)

theorem withoutReply_iff (course : Course desk service cancel query start nextCall race run) :
    run.stages = Stage.withoutReply ↔ desk.Admits query ∧
      ∃ fault, (desk.stage service cancel start nextCall race).outcome = .error fault := by
  cases course with
  | blank blank =>
      exact iff_of_false Stage.atOnce_ne_withoutReply
        (fun late => not_admits_iff.mpr (.inl blank) late.1)
  | blocked _ blocked =>
      exact iff_of_false Stage.atOnce_ne_withoutReply
        (fun late => not_admits_iff.mpr (.inr blocked) late.1)
  | @failed fault admits failed => exact iff_of_true rfl ⟨admits, fault, failed⟩
  | delivered admits delivered =>
      refine iff_of_false Stage.withoutReply_ne_complete.symm ?_
      rintro ⟨-, fault, failed⟩
      rw [delivered] at failed
      cases failed

theorem complete_iff (course : Course desk service cancel query start nextCall race run) :
    run.stages = Stage.complete ↔ desk.Admits query ∧
      ∃ raw, (desk.stage service cancel start nextCall race).outcome = .ok raw := by
  cases course with
  | blank blank =>
      exact iff_of_false Stage.atOnce_ne_complete
        (fun late => not_admits_iff.mpr (.inl blank) late.1)
  | blocked _ blocked =>
      exact iff_of_false Stage.atOnce_ne_complete
        (fun late => not_admits_iff.mpr (.inr blocked) late.1)
  | failed admits failed =>
      refine iff_of_false Stage.withoutReply_ne_complete ?_
      rintro ⟨-, raw, delivered⟩
      rw [failed] at delivered
      cases delivered
  | @delivered raw admits delivered => exact iff_of_true rfl ⟨admits, raw, delivered⟩

theorem of_blank (course : Course desk service cancel query start nextCall race run)
    (blank : Text.isBlankText query = true) : run.outcome = .error .emptyQuery := by
  cases course with
  | blank => rfl
  | blocked notBlank => rw [blank] at notBlank; cases notBlank
  | failed admits => exact absurd admits (not_admits_iff.mpr (.inl blank))
  | delivered admits => exact absurd admits (not_admits_iff.mpr (.inl blank))

theorem of_blocked (course : Course desk service cancel query start nextCall race run)
    (notBlank : Text.isBlankText query = false) (blocked : desk.Blocks query) :
    run.outcome = .ok (.rejected Gate.blockedReason) := by
  cases course with
  | blank blank => rw [blank] at notBlank; cases notBlank
  | blocked => rfl
  | failed admits => exact absurd admits (not_admits_iff.mpr (.inr blocked))
  | delivered admits => exact absurd admits (not_admits_iff.mpr (.inr blocked))

/-- No time passes, and nothing is asked, for a question that is blank or blocked. -/
theorem idle (course : Course desk service cancel query start nextCall race run)
    (early : Text.isBlankText query = true ∨ desk.Blocks query) :
    run.calls = [] ∧ run.finish = start := by
  cases course with
  | blank => exact ⟨rfl, rfl⟩
  | blocked => exact ⟨rfl, rfl⟩
  | failed admits => exact absurd admits (not_admits_iff.mpr early)
  | delivered admits => exact absurd admits (not_admits_iff.mpr early)

/-- Any other question is asked and done as its exchange was. -/
theorem busy (course : Course desk service cancel query start nextCall race run)
    (admits : desk.Admits query) :
    run.calls = (if (desk.stage service cancel start nextCall race).asked
        then [desk.call query start] else []) ∧
      run.finish = (desk.stage service cancel start nextCall race).finish := by
  cases course with
  | blank blank => exact absurd admits (not_admits_iff.mpr (.inl blank))
  | blocked _ blocked => exact absurd admits (not_admits_iff.mpr (.inr blocked))
  | failed => exact ⟨rfl, rfl⟩
  | delivered => exact ⟨rfl, rfl⟩

theorem of_failed (course : Course desk service cancel query start nextCall race run)
    (admits : desk.Admits query) {fault : InferenceFault}
    (failed : (desk.stage service cancel start nextCall race).outcome = .error fault) :
    run.outcome = .error (.service fault) := by
  cases course with
  | blank blank => exact absurd admits (not_admits_iff.mpr (.inl blank))
  | blocked _ blocked => exact absurd admits (not_admits_iff.mpr (.inr blocked))
  | failed _ again =>
      rw [failed] at again
      cases again
      rfl
  | delivered _ delivered => rw [failed] at delivered; cases delivered

theorem of_delivered (course : Course desk service cancel query start nextCall race run)
    (admits : desk.Admits query) {raw : String}
    (delivered : (desk.stage service cancel start nextCall race).outcome = .ok raw) :
    run.outcome = Contract.validate desk.registry raw := by
  cases course with
  | blank blank => exact absurd admits (not_admits_iff.mpr (.inl blank))
  | blocked _ blocked => exact absurd admits (not_admits_iff.mpr (.inr blocked))
  | failed _ failed => rw [delivered] at failed; cases failed
  | delivered _ again =>
      rw [delivered] at again
      cases again
      rfl

end Course

/-! ### From the outcome to the trace -/

/-- What the contract makes of a text is never one of the failures that come before. -/
theorem validate_error_kind {registry : Registry} {raw : String} {failure : RunFailure}
    (invalid : Contract.validate registry raw = .error failure) :
    failure.kind = .parseFailure ∨ failure.kind = .schemaViolation := by
  rcases Contract.validate_cases registry raw with
    ⟨_, _, -, outcome⟩ | ⟨_, _, -, -, outcome⟩ | ⟨_, _, -, -, outcome⟩
  · rw [outcome] at invalid
    cases invalid
    exact .inl rfl
  · rw [outcome] at invalid
    cases invalid
  · rw [outcome] at invalid
    cases invalid
    exact .inr rfl

namespace Course

/-- The category of a failure tells its trace. -/
theorem stages_of_error (course : Course desk service cancel query start nextCall race run)
    {failure : RunFailure} (failed : run.outcome = .error failure) :
    match failure.kind with
    | .emptyQuery => Text.isBlankText query = true ∧ run.stages = Stage.atOnce
    | .serviceError => run.stages = Stage.withoutReply
    | .parseFailure => run.stages = Stage.complete
    | .schemaViolation => run.stages = Stage.complete := by
  cases course with
  | blank blank =>
      cases failed
      exact ⟨blank, rfl⟩
  | blocked => cases failed
  | failed =>
      cases failed
      rfl
  | delivered =>
      rcases validate_error_kind failed with kind | kind <;> rw [kind]

/-- A result comes from the gate or from the contract. -/
theorem stages_of_ok (course : Course desk service cancel query start nextCall race run)
    {result : Classification} (done : run.outcome = .ok result) :
    (run.stages = Stage.atOnce ∧ result = .rejected Gate.blockedReason) ∨
      run.stages = Stage.complete := by
  cases course with
  | blank => cases done
  | blocked =>
      cases done
      exact .inl ⟨rfl, rfl⟩
  | failed => cases done
  | delivered => exact .inr rfl

end Course

/-! ### The law -/

/-- What holds of the record of a question, against its text, its exchange, and the cancellation. -/
structure RunLaw (desk : Desk) (service : Service) (cancel : Option Nat) (query : String)
    (start nextCall : Nat) (race : Race) (run : Run) : Prop where
  /-- There are three traces. -/
  stages : run.stages = Stage.atOnce ∨ run.stages = Stage.withoutReply ∨
    run.stages = Stage.complete
  /-- The first is that of a blank or blocked question, -/
  atOnce_iff : run.stages = Stage.atOnce ↔ Text.isBlankText query = true ∨ desk.Blocks query
  of_blank : Text.isBlankText query = true → run.outcome = .error .emptyQuery
  of_blocked : Text.isBlankText query = false → desk.Blocks query →
    run.outcome = .ok (.rejected Gate.blockedReason)
  /-- for which nothing is asked and no time passes, whatever the cancellation. -/
  idle : Text.isBlankText query = true ∨ desk.Blocks query → run.calls = [] ∧ run.finish = start
  /-- The second is that of any other question whose exchange failed, -/
  withoutReply_iff : run.stages = Stage.withoutReply ↔ desk.Admits query ∧
    ∃ fault, (desk.stage service cancel start nextCall race).outcome = .error fault
  /-- by a fault of the service itself, by the limit, or by the cancellation. -/
  of_failed : ∀ fault, desk.Admits query →
    (desk.stage service cancel start nextCall race).outcome = .error fault →
      run.outcome = .error ⟨.serviceError, fault.message, none, some fault⟩ ∧
        ((service nextCall).outcome = .error fault ∨ fault = .timeout ∨ fault = .cancelled)
  /-- The third is that of any other question whose exchange delivered a text, -/
  complete_iff : run.stages = Stage.complete ↔ desk.Admits query ∧
    ∃ raw, (desk.stage service cancel start nextCall race).outcome = .ok raw
  /-- which is the one that the service gave, and is held against the contract. -/
  of_delivered : ∀ raw, desk.Admits query →
    (desk.stage service cancel start nextCall race).outcome = .ok raw →
      run.outcome = Contract.validate desk.registry raw ∧ (service nextCall).outcome = .ok raw
  /-- In turn an outcome tells its trace: a failure by its category, -/
  of_error : ∀ failure, run.outcome = .error failure →
    match failure.kind with
    | .emptyQuery => Text.isBlankText query = true ∧ run.stages = Stage.atOnce
    | .serviceError => run.stages = Stage.withoutReply
    | .parseFailure => run.stages = Stage.complete
    | .schemaViolation => run.stages = Stage.complete
  /-- and a result by whether it is the one that the gate gives. -/
  of_ok : ∀ result, run.outcome = .ok result →
    (run.stages = Stage.atOnce ∧ result = .rejected Gate.blockedReason) ∨
      run.stages = Stage.complete
  /-- The service is asked at most once, -/
  calls : run.calls = [] ∨ run.calls = [desk.call query start]
  /-- and exactly once unless the cancellation was there when the exchange began. -/
  called : desk.Admits query → (∀ instant, cancel = some instant → start < instant) →
    run.calls = [desk.call query start]
  /-- The exchange ended with the first of its events, and the question with the exchange. -/
  ends : Exchange.Ends (service nextCall) desk.timeoutMs cancel start
    (desk.stage service cancel start nextCall race)
  finish : desk.Admits query → run.finish = (desk.stage service cancel start nextCall race).finish

namespace Course

theorem stages (course : Course desk service cancel query start nextCall race run) :
    run.stages = Stage.atOnce ∨ run.stages = Stage.withoutReply ∨ run.stages = Stage.complete := by
  cases course with
  | blank => exact .inl rfl
  | blocked => exact .inl rfl
  | failed => exact .inr (.inl rfl)
  | delivered => exact .inr (.inr rfl)

theorem calls (course : Course desk service cancel query start nextCall race run) :
    run.calls = [] ∨ run.calls = [desk.call query start] := by
  by_cases admits : desk.Admits query
  · rw [(course.busy admits).1]
    cases (desk.stage service cancel start nextCall race).asked with
    | true => exact .inr rfl
    | false => exact .inl rfl
  · exact .inl (course.idle (not_admits_iff.mp admits)).1

theorem called (course : Course desk service cancel query start nextCall race run)
    (admits : desk.Admits query) (later : ∀ instant, cancel = some instant → start < instant) :
    run.calls = [desk.call query start] := by
  have ends := stage_ends desk service cancel start nextCall race
  rw [(course.busy admits).1, if_pos (ends.asked_of_later later)]

end Course

/-- The record of every question obeys the law, whatever the service does and whenever the
cancellation comes. -/
theorem run_obeys_law (desk : Desk) (service : Service) (cancel : Option Nat) (query : String)
    (start nextCall : Nat) (race : Race) :
    desk.RunLaw service cancel query start nextCall race
      (desk.run service cancel query start nextCall race) := by
  have course := run_course desk service cancel query start nextCall race
  have ends := stage_ends desk service cancel start nextCall race
  exact {
    stages := course.stages
    atOnce_iff := course.atOnce_iff
    of_blank := course.of_blank
    of_blocked := course.of_blocked
    idle := course.idle
    withoutReply_iff := course.withoutReply_iff
    of_failed := fun _ admits failed => ⟨course.of_failed admits failed, ends.error_source failed⟩
    complete_iff := course.complete_iff
    of_delivered := fun _ admits delivered =>
      ⟨course.of_delivered admits delivered, ends.ok_source delivered⟩
    of_error := fun _ => course.stages_of_error
    of_ok := fun _ => course.stages_of_ok
    calls := course.calls
    called := course.called
    ends := ends
    finish := fun admits => (course.busy admits).2 }

end Desk

end StudyDesk
