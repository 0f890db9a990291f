/-
Module: StudyDesk.Proofs.Session.Attempts
Purpose: How many attempts a question takes that nobody cancels, and how long they last.
Main exports:
  InferenceFault.MayPass, Outcome.MayPass, Desk.waitFor, Inquiry, Inquiry.run, Inquiry.Attempting,
  Inquiry.loop_attempting, Inquiry.RetryLaw, Desk.runWithRetry_obeys_law
-/
import Mathlib.Algebra.BigOperators.Group.Finset.Basic
import Mathlib.Order.Bounds.Defs
import StudyDesk.Proofs.Session.Counters
import StudyDesk.Proofs.Session.Trace

namespace StudyDesk

/-! ### What may pass -/

/-- The faults that may pass: the limit, a busy service, a lost connection, and the errors that the
service reports of itself. -/
inductive InferenceFault.MayPass : InferenceFault → Prop where
  | timeout : MayPass .timeout
  | rateLimited (detail : String) : MayPass (.rateLimited detail)
  | transport (detail : String) : MayPass (.transport detail)
  | status {code : Nat} (body : String) (least : 500 ≤ code) (most : code ≤ 599) :
      MayPass (.status code body)

theorem InferenceFault.isTransient_iff {fault : InferenceFault} :
    fault.isTransient = true ↔ fault.MayPass := by
  constructor
  · intro transient
    cases fault with
    | timeout => exact .timeout
    | rateLimited detail => exact .rateLimited detail
    | transport detail => exact .transport detail
    | status code body =>
        simp only [isTransient, Bool.and_eq_true, decide_eq_true_eq] at transient
        exact .status body transient.1 transient.2
    | authentication | malformedResponse | cancelled => cases transient
  · intro mayPass
    cases mayPass with
    | timeout | rateLimited | transport => rfl
    | status body least most => simp [isTransient, least, most]

/-- An outcome that another run may better: the service failed, by a fault that may pass. -/
def Outcome.MayPass (outcome : Outcome) : Prop :=
  ∃ fault : InferenceFault, outcome = .error (.service fault) ∧ fault.MayPass

theorem Outcome.MayPass.isRetryable {outcome : Outcome} (mayPass : Outcome.MayPass outcome) :
    StudyDesk.isRetryable outcome = true := by
  obtain ⟨fault, rfl, mayPass⟩ := mayPass
  exact InferenceFault.isTransient_iff.mpr mayPass

/-- In 32 bits the last attempt has the number that the policy gives it. -/
theorem RetryPolicy.toNat_lastAttempt (maxAttempts : UInt32) (backoff : Nat) :
    (RetryPolicy.lastAttempt ⟨maxAttempts.toNat, backoff⟩).toNat = max 1 maxAttempts.toNat := by
  have size := maxAttempts.toNat_lt
  have fits : max maxAttempts.toNat 1 < 2 ^ 32 := by omega
  rw [lastAttempt, UInt32.toNat_ofNat', Nat.mod_eq_of_lt fits, Nat.max_comm]

/-- A number of attempts that fits into 32 bits is the number of the last one, unless it is zero. -/
theorem RetryPolicy.toNat_lastAttempt_of_fits (policy : RetryPolicy)
    (fits : policy.maxAttempts < UInt32.size) :
    policy.lastAttempt.toNat = max 1 policy.maxAttempts := by
  have same : (UInt32.ofNat policy.maxAttempts).toNat = policy.maxAttempts :=
    UInt32.toNat_ofNat_of_lt fits
  have last := toNat_lastAttempt (UInt32.ofNat policy.maxAttempts) policy.backoffMs
  rw [same] at last
  exact last

namespace Desk

variable {desk : Desk} {service : Service} {cancel : Option Nat} {query : String}
  {start nextCall : Nat} {race : Race} {run : Run}

/-! ### One run -/

/-- A question knows of the service and of the cancellation only how its exchange went. -/
theorem run_congr {service' : Service} {cancel' : Option Nat} {race' : Race}
    (same : desk.stage service cancel start nextCall race =
      desk.stage service' cancel' start nextCall race') :
    desk.run service cancel query start nextCall race =
      desk.run service' cancel' query start nextCall race' := by
  unfold stage at same
  rw [run, run, consult, consult, same]

/-- An answer that the contract refuses is not asked for again. -/
theorem isRetryable_validate (registry : Registry) (raw : String) :
    isRetryable (Contract.validate registry raw) = false := by
  cases validated : Contract.validate registry raw with
  | ok result => rfl
  | error failure =>
      rcases validate_error_kind validated with kind | kind <;>
        simp [isRetryable, RunFailure.isRetryable, kind]

/-- Only a question whose exchange failed by a fault that may pass is worth another run. -/
theorem Course.of_retryable (course : Course desk service cancel query start nextCall race run)
    (retryable : isRetryable run.outcome = true) :
    desk.Admits query ∧
      ∃ fault, run.outcome = .error (.service fault) ∧ fault.isTransient = true := by
  cases course with
  | blank => cases retryable
  | blocked => cases retryable
  | @failed fault admits => exact ⟨admits, fault, rfl, retryable⟩
  | @delivered raw =>
      rw [isRetryable_validate] at retryable
      cases retryable

/-- How long a question waits for a reply, when nobody cancels it. -/
def waitFor (desk : Desk) (query : String) (reply : Reply) : Nat :=
  if desk.Admits query then reply.wait desk.timeoutMs else 0

theorem finish_uncancelled :
    (desk.run service none query start nextCall race).finish =
      start + desk.waitFor query (service nextCall) := by
  have course := run_course desk service none query start nextCall race
  by_cases admits : desk.Admits query
  · rw [(course.busy admits).2, stage, exchange_none, awaitReply_finish, waitFor, if_pos admits]
  · rw [(course.idle (not_admits_iff.mp admits)).2, waitFor, if_neg admits, Nat.add_zero]

theorem calls_uncancelled :
    (desk.run service none query start nextCall race).calls =
      if desk.Admits query then [desk.call query start] else [] := by
  have course := run_course desk service none query start nextCall race
  by_cases admits : desk.Admits query
  · rw [if_pos admits]
    exact course.called admits (by intro instant fired; cases fired)
  · rw [if_neg admits]
    exact (course.idle (not_admits_iff.mp admits)).1

/-! ### One round of the loop -/

variable {backoff : Nat} {races : Nat → Race} {last number : UInt32}

/-- An attempt that is not retried is the last one. -/
theorem attempt_last
    (ran : desk.run service cancel query start nextCall (races number.toNat) = run)
    (stays : ¬ (isRetryable run.outcome = true ∧ number < last)) :
    desk.attempt service cancel backoff query races last number start nextCall =
      ⟨[run], 0, run.outcome, run.finish, number⟩ := by
  subst ran
  rw [attempt]
  simp only [stays, dite_false]

/-- So is one whose pause is cancelled, though a retry was decided. -/
theorem attempt_cut {instant : Nat}
    (ran : desk.run service cancel query start nextCall (races number.toNat) = run)
    (retryable : isRetryable run.outcome = true) (below : number < last)
    (paused : pause (races number.toNat) backoff cancel run.finish = (instant, true)) :
    desk.attempt service cancel backoff query races last number start nextCall =
      ⟨[run], 1, run.outcome, instant, number⟩ := by
  subst ran
  rw [attempt]
  simp only [retryable, below, and_self, dite_true, paused, if_true]

/-- Any other is followed by the next. -/
theorem attempt_again {instant : Nat}
    (ran : desk.run service cancel query start nextCall (races number.toNat) = run)
    (retryable : isRetryable run.outcome = true) (below : number < last)
    (paused : pause (races number.toNat) backoff cancel run.finish = (instant, false)) :
    desk.attempt service cancel backoff query races last number start nextCall =
      (desk.attempt service cancel backoff query races last (number + 1) instant
        (nextCall + run.calls.length)).after run := by
  subst ran
  rw [attempt]
  simp only [retryable, below, and_self, dite_true, paused, Bool.false_eq_true, if_false]

/-- An attempt whose outcome stays is the only one. -/
theorem attempt_of_stays
    (stays : isRetryable (desk.run service cancel query start nextCall
      (races number.toNat)).outcome = false) :
    desk.attempt service cancel backoff query races last number start nextCall =
      let run := desk.run service cancel query start nextCall (races number.toNat)
      ⟨[run], 0, run.outcome, run.finish, number⟩ :=
  attempt_last rfl fun again => Bool.false_ne_true (stays.symm.trans again.1)

/-- What holds of the outcome of every run holds of the outcome of the attempts. -/
theorem attempt_outcome {P : Outcome → Prop}
    (each : ∀ start nextCall race, P (desk.run service cancel query start nextCall race).outcome)
    (last number : UInt32) (start nextCall : Nat) :
    P (desk.attempt service cancel backoff query races last number start nextCall).outcome := by
  fun_induction desk.attempt service cancel backoff query races last number start nextCall with
  | case1 => apply each
  | case2 number start nextCall race run again paused goes ih => exact ih
  | case3 => apply each

/-- What holds of every run holds of each of the attempts, and there is at least one. -/
theorem attempt_runs {P : Run → Prop}
    (each : ∀ start nextCall race, P (desk.run service cancel query start nextCall race))
    (last number : UInt32) (start nextCall : Nat) :
    let runs := (desk.attempt service cancel backoff query races last number start nextCall).runs
    runs ≠ [] ∧ ∀ run ∈ runs, P run := by
  fun_induction desk.attempt service cancel backoff query races last number start nextCall with
  | case1 => exact ⟨List.cons_ne_nil _ _, List.forall_mem_singleton.mpr (each _ _ _)⟩
  | case2 number start nextCall race run again paused goes ih =>
      exact ⟨List.cons_ne_nil _ _, List.forall_mem_cons.mpr ⟨each _ _ _, ih.2⟩⟩
  | case3 => exact ⟨List.cons_ne_nil _ _, List.forall_mem_singleton.mpr (each _ _ _)⟩

/-- A run whose outcome stays is the last one, and no retry is decided behind it. -/
theorem attempt_of_split {attempts : Attempts} {earlier later : List Run}
    (made : desk.attempt service cancel backoff query races last number start nextCall = attempts)
    (split : attempts.runs = earlier ++ run :: later) (stays : isRetryable run.outcome = false) :
    later = [] ∧ attempts.outcome = run.outcome ∧ attempts.retries = earlier.length := by
  subst made
  fun_induction desk.attempt service cancel backoff query races last number start nextCall
    generalizing earlier with
  | case1 number start nextCall race first again paused =>
      -- the only run is one that is worth another
      cases earlier with
      | nil =>
          obtain ⟨rfl, -⟩ := List.cons.inj split
          exact absurd again.1 (by simp [stays])
      | cons => simp at split
  | case2 number start nextCall race first again paused goes =>
      rename_i ih
      cases earlier with
      | nil =>
          obtain ⟨rfl, -⟩ := List.cons.inj split
          exact absurd again.1 (by simp [stays])
      | cons run' earlier =>
          obtain ⟨ended, told, decided⟩ := ih (List.cons.inj split).2
          exact ⟨ended, told, congrArg (· + 1) decided⟩
  | case3 number start nextCall race ends =>
      cases earlier with
      | nil =>
          obtain ⟨rfl, rfl⟩ := List.cons.inj split
          exact ⟨rfl, rfl, rfl⟩
      | cons => simp at split

/-- Without a cancellation there are no races. -/
theorem run_uncancelled :
    desk.run service none query start nextCall race =
      desk.run service none query start nextCall := rfl

end Desk

/-- A question with all that its attempts depend on when nobody cancels it. -/
structure Inquiry where
  desk : Desk
  service : Service
  backoff : Nat
  query : String
  /-- The instant at which the question comes in. -/
  start : Nat
  /-- How many calls the service has answered before. -/
  nextCall : Nat

namespace Inquiry

/-! ### The schedule

Without a cancellation the attempts that a question could take are fixed from the start.  They are
numbered here by how many others come before, so each is put to the service with the call after theirs
and starts a pause after the end of the one before.
-/

/-- The instant at which an attempt starts. -/
def startOf (inquiry : Inquiry) : Nat → Nat
  | 0 => inquiry.start
  | before + 1 =>
      (inquiry.desk.run inquiry.service none inquiry.query (inquiry.startOf before)
        (inquiry.nextCall + before)).finish + inquiry.backoff

/-- The record of an attempt. -/
def run (inquiry : Inquiry) (before : Nat) : Run :=
  inquiry.desk.run inquiry.service none inquiry.query (inquiry.startOf before)
    (inquiry.nextCall + before)

/-- How long an attempt waits for its reply. -/
def wait (inquiry : Inquiry) (before : Nat) : Nat :=
  inquiry.desk.waitFor inquiry.query (inquiry.service (inquiry.nextCall + before))

variable {inquiry : Inquiry} {last before number : Nat} {attempts : Attempts}

theorem finish_run (inquiry : Inquiry) (before : Nat) :
    (inquiry.run before).finish = inquiry.startOf before + inquiry.wait before :=
  Desk.finish_uncancelled

theorem calls_run (inquiry : Inquiry) (before : Nat) :
    (inquiry.run before).calls =
      if inquiry.desk.Admits inquiry.query then
        [inquiry.desk.call inquiry.query (inquiry.startOf before)] else [] :=
  Desk.calls_uncancelled

theorem of_retryable (retryable : isRetryable (inquiry.run before).outcome = true) :
    inquiry.desk.Admits inquiry.query ∧
      ∃ fault, (inquiry.run before).outcome = .error (.service fault) ∧
        fault.isTransient = true :=
  (Desk.run_course ..).of_retryable retryable

/-- The runs after which another one is allowed are those that failed by a fault that may pass. -/
theorem isRetryable_run_iff :
    isRetryable (inquiry.run before).outcome = true ↔
      Outcome.MayPass (inquiry.run before).outcome := by
  constructor
  · intro retryable
    obtain ⟨-, fault, failed, transient⟩ := of_retryable retryable
    exact ⟨fault, failed, InferenceFault.isTransient_iff.mp transient⟩
  · exact Outcome.MayPass.isRetryable

/-- The start of an attempt, from the waits and the pauses before it. -/
theorem startOf_eq (inquiry : Inquiry) (before : Nat) :
    inquiry.startOf before =
      inquiry.start + ∑ k ∈ Finset.range before, inquiry.wait k + before * inquiry.backoff := by
  induction before with
  | zero => simp [startOf]
  | succ before ih =>
      have finish := inquiry.finish_run before
      rw [ih, run] at finish
      rw [startOf, finish, Finset.sum_range_succ, Nat.add_mul, Nat.one_mul]
      omega

/-- The whole takes what its attempts wait, and the pauses in between. -/
theorem finish_run_last (inquiry : Inquiry) (positive : 0 < number) :
    (inquiry.run (number - 1)).finish =
      inquiry.start + ∑ k ∈ Finset.range number, inquiry.wait k +
        (number - 1) * inquiry.backoff := by
  obtain ⟨before, rfl⟩ := Nat.exists_eq_add_one.mpr positive
  rw [Nat.add_sub_cancel, finish_run, startOf_eq, Finset.sum_range_succ]
  omega

/-- A question that is asked at all is asked once in every attempt, as the attempt starts. -/
theorem calls_eq (runs : attempts.runs = (List.range number).map inquiry.run) :
    attempts.calls = if inquiry.desk.Admits inquiry.query then
      (List.range number).map fun k => inquiry.desk.call inquiry.query (inquiry.startOf k)
      else [] := by
  rw [Attempts.calls, runs, List.flatMap_map]
  simp only [calls_run]
  by_cases admits : inquiry.desk.Admits inquiry.query
  · simp only [if_pos admits]
    exact List.map_eq_flatMap.symm
  · simp only [if_neg admits]
    exact List.flatMap_eq_nil_iff.mpr fun _ _ => rfl

/-! ### From the loop to the schedule -/

/-- The attempts from one on, and the number of the last of them: the attempt that is as far as they
may go or has an outcome that stays, with only failures that may pass before. -/
inductive Attempting (inquiry : Inquiry) (last : Nat) : Nat → Nat → Attempts → Prop where
  | final {before : Nat} {counter : UInt32} (counted : counter.toNat = before + 1)
      (within : before + 1 ≤ last)
      (ends : before + 1 = last ∨ isRetryable (inquiry.run before).outcome = false) :
      Attempting inquiry last before (before + 1)
        ⟨[inquiry.run before], 0, (inquiry.run before).outcome, (inquiry.run before).finish,
          counter⟩
  | again {before number : Nat} {later : Attempts}
      (retryable : isRetryable (inquiry.run before).outcome = true)
      (rest : Attempting inquiry last (before + 1) number later) :
      Attempting inquiry last before number (later.after (inquiry.run before))

/-- The loop of attempts, where it comes to an attempt. -/
def loop (inquiry : Inquiry) (races : Nat → Race) (limit counter : UInt32) (before : Nat) :
    Attempts :=
  inquiry.desk.attempt inquiry.service none inquiry.backoff inquiry.query races limit counter
    (inquiry.startOf before) (inquiry.nextCall + before)

variable {limit counter : UInt32}

/-- An attempt that may be followed by another is, after the pause. -/
theorem loop_again (races : Nat → Race) (below : counter < limit)
    (retryable : isRetryable (inquiry.run before).outcome = true) :
    inquiry.loop races limit counter before =
      (inquiry.loop races limit (counter + 1) (before + 1)).after (inquiry.run before) := by
  have oneCall : (inquiry.run before).calls.length = 1 := by
    rw [calls_run, if_pos (of_retryable retryable).1]
    rfl
  have paused : pause (races counter.toNat) inquiry.backoff none (inquiry.run before).finish =
      (inquiry.startOf (before + 1), false) := rfl
  rw [loop, Desk.attempt_again Desk.run_uncancelled retryable below paused, ← run, oneCall]
  rfl

/-- An attempt that none may follow is the last. -/
theorem loop_final (races : Nat → Race)
    (ends : counter = limit ∨ isRetryable (inquiry.run before).outcome = false) :
    inquiry.loop races limit counter before =
      ⟨[inquiry.run before], 0, (inquiry.run before).outcome, (inquiry.run before).finish,
        counter⟩ := by
  rw [loop]
  refine Desk.attempt_last Desk.run_uncancelled ?_
  rintro ⟨retryable, below⟩
  rcases ends with rfl | stays
  · exact UInt32.lt_irrefl counter below
  · exact Bool.false_ne_true (stays.symm.trans retryable)

/-- The loop goes through the schedule, from the attempt that its counter stands at to the first
that ends it. -/
theorem loop_attempting (inquiry : Inquiry) (races : Nat → Race)
    (counted : counter.toNat = before + 1) (within : before + 1 ≤ limit.toNat) :
    ∃ number, inquiry.Attempting limit.toNat before number
      (inquiry.loop races limit counter before) := by
  -- the attempts that are left become fewer, and the counter keeps up with the schedule
  induction left : limit.toNat - counter.toNat generalizing counter before with
  | zero =>
      have atLimit : counter = limit := UInt32.toNat_inj.mp (by omega)
      refine ⟨before + 1, ?_⟩
      rw [loop_final races (.inl atLimit)]
      exact .final counted within (.inl (by omega))
  | succ left ih =>
      cases retryable : isRetryable (inquiry.run before).outcome with
      | false =>
          refine ⟨before + 1, ?_⟩
          rw [loop_final races (.inr retryable)]
          exact .final counted within (.inr retryable)
      | true =>
          have below : counter < limit := UInt32.lt_iff_toNat_lt.mpr (by omega)
          have next : (counter + 1).toNat = before + 1 + 1 := by
            rw [toNat_next_of_lt below, counted]
          obtain ⟨number, rest⟩ := ih next (by omega) (by omega)
          refine ⟨number, ?_⟩
          rw [loop_again races below retryable]
          exact .again retryable rest

/-! ### What the attempts amount to

Every fact is proved by induction along the schedule, from the last attempt back.
-/

namespace Attempting

theorem bounds (attempting : inquiry.Attempting last before number attempts) :
    before < number ∧ number ≤ last := by
  induction attempting with
  | final counted within ends => exact ⟨Nat.lt_succ_self _, within⟩
  | again retryable rest ih => exact ⟨Nat.lt_of_succ_lt ih.1, ih.2⟩

/-- What comes before the last attempt may pass. -/
theorem earlier (attempting : inquiry.Attempting last before number attempts) :
    ∀ k, before ≤ k → k + 1 < number → isRetryable (inquiry.run k).outcome = true := by
  induction attempting with
  | final counted within ends =>
      intro k fromHere early
      omega
  | again retryable rest ih =>
      intro k fromHere early
      rcases Nat.eq_or_lt_of_le fromHere with rfl | later
      · exact retryable
      · exact ih k later early

theorem ends (attempting : inquiry.Attempting last before number attempts) :
    number = last ∨ isRetryable (inquiry.run (number - 1)).outcome = false := by
  induction attempting with
  | final counted within ends =>
      rw [Nat.add_sub_cancel]
      exact ends
  | again retryable rest ih => exact ih

theorem runs_eq (attempting : inquiry.Attempting last before number attempts) :
    attempts.runs = (List.range' before (number - before)).map inquiry.run := by
  induction attempting with
  | final counted within ends => simp
  | @again before number later retryable rest ih =>
      obtain ⟨below, -⟩ := rest.bounds
      have oneMore : number - before = number - (before + 1) + 1 := by omega
      rw [oneMore, List.range'_succ, List.map_cons, ← ih]
      rfl

theorem retries_eq (attempting : inquiry.Attempting last before number attempts) :
    attempts.retries = number - 1 - before := by
  induction attempting with
  | final counted within ends => simp
  | again retryable rest ih =>
      obtain ⟨below, -⟩ := rest.bounds
      simp only [Attempts.after, ih]
      omega

/-- The last attempt has the last word. -/
theorem last_eq (attempting : inquiry.Attempting last before number attempts) :
    attempts.outcome = (inquiry.run (number - 1)).outcome ∧
      attempts.finish = (inquiry.run (number - 1)).finish ∧
      attempts.counted.toNat = number := by
  induction attempting with
  | final counted within ends =>
      simp only [Nat.add_sub_cancel, true_and]
      exact counted
  | again retryable rest ih =>
      rw [Attempts.after]
      exact ih

/-- The last attempt is the first that ends the loop. -/
theorem isLeast (attempting : inquiry.Attempting last 0 number attempts) :
    IsLeast {k | 1 ≤ k ∧ (k = last ∨ isRetryable (inquiry.run (k - 1)).outcome = false)}
      number := by
  obtain ⟨positive, within⟩ := attempting.bounds
  refine ⟨⟨positive, attempting.ends⟩, ?_⟩
  rintro k ⟨first, atLimit | stays⟩
  · rw [atLimit]
    exact within
  · by_contra early
    have retryable := attempting.earlier (k - 1) (Nat.zero_le _) (by omega)
    rw [stays] at retryable
    cases retryable

end Attempting

/-! ### The law -/

/-- What holds of the record of a question with its attempts, when nobody cancels it and `number` of
them are made. -/
structure RetryLaw (inquiry : Inquiry) (maxAttempts : UInt32) (number : Nat)
    (attempts : Attempts) : Prop where
  /-- The last attempt is the first that is as far as they may go, or has an outcome that is no failure
  of the service that may pass. -/
  least : IsLeast {k | 1 ≤ k ∧ (k = max 1 maxAttempts.toNat ∨
    ¬ Outcome.MayPass (inquiry.run (k - 1)).outcome)} number
  /-- The runs are those of the schedule, -/
  runs : attempts.runs = (List.range number).map inquiry.run
  /-- and the last of them has the last word. -/
  outcome : attempts.outcome = (inquiry.run (number - 1)).outcome
  /-- Whatever came before was such a failure. -/
  earlier : ∀ k, k + 1 < number → Outcome.MayPass (inquiry.run k).outcome
  /-- The counters go up by one question for each attempt, and by one retry for each but the first. -/
  questions : attempts.tally.questions = number
  retries : attempts.tally.retries = number - 1
  /-- The attempts were counted without overflow. -/
  counted : attempts.counted.toNat = number
  /-- Each attempt starts a pause after the end of the one before, -/
  separated : ∀ k, k + 1 < number →
    inquiry.startOf (k + 1) = (inquiry.run k).finish + inquiry.backoff
  /-- puts its one call to the service as it starts, -/
  calls : attempts.calls = if inquiry.desk.Admits inquiry.query then
    (List.range number).map fun k => inquiry.desk.call inquiry.query (inquiry.startOf k) else []
  /-- and lasts as long as it waits for a reply. -/
  finish : attempts.finish =
    inquiry.start + ∑ k ∈ Finset.range number, inquiry.wait k + (number - 1) * inquiry.backoff

end Inquiry

/-- A question that nobody cancels is asked until its outcome stays or its attempts are used up,
whatever the policy and the service. -/
theorem Desk.runWithRetry_obeys_law (desk : Desk) (service : Service) (maxAttempts : UInt32)
    (backoff : Nat) (query : String) (start nextCall : Nat) (races : Nat → Race) :
    ∃ number, Inquiry.RetryLaw ⟨desk, service, backoff, query, start, nextCall⟩ maxAttempts number
      (desk.runWithRetry service none ⟨maxAttempts.toNat, backoff⟩ query start nextCall races) := by
  let inquiry : Inquiry := ⟨desk, service, backoff, query, start, nextCall⟩
  have limit := RetryPolicy.toNat_lastAttempt maxAttempts backoff
  obtain ⟨number, attempting⟩ : ∃ number,
      inquiry.Attempting (max 1 maxAttempts.toNat) 0 number
        (desk.runWithRetry service none ⟨maxAttempts.toNat, backoff⟩ query start nextCall
          races) := by
    rw [← limit]
    exact inquiry.loop_attempting races rfl (by omega)
  obtain ⟨outcome, finish, counted⟩ := attempting.last_eq
  have runs := attempting.runs_eq
  rw [Nat.sub_zero, ← List.range_eq_range'] at runs
  refine ⟨number, ?_⟩
  exact {
    least := by
      simp only [← Inquiry.isRetryable_run_iff, Bool.not_eq_true]
      exact attempting.isLeast
    runs := runs
    outcome := outcome
    earlier := fun k early =>
      Inquiry.isRetryable_run_iff.mp (attempting.earlier k (Nat.zero_le k) early)
    questions := by rw [Attempts.questions_tally, runs, List.length_map, List.length_range]
    retries := attempting.retries_eq
    counted := counted
    separated := fun _ _ => rfl
    calls := Inquiry.calls_eq runs
    finish := finish.trans (inquiry.finish_run_last attempting.bounds.1) }

end StudyDesk
