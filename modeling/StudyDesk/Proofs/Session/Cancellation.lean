/-
Module: StudyDesk.Proofs.Session.Cancellation
Purpose: A cancellation cuts the attempts at a question off where it finds them, and changes nothing
  of what came before.
Main exports:
  Inquiry.cutRun, Inquiry.Cut, Inquiry.loop_cut, Inquiry.CancelLaw, Desk.runWithRetry_cancelled
-/
import StudyDesk.Proofs.Session.Attempts

namespace StudyDesk

namespace Desk

variable {desk : Desk} {service : Service} {cancel : Option Nat} {query : String}
  {start nextCall : Nat} {race : Race}

/-! ### One run -/

/-- The record of a question whose exchange failed. -/
theorem run_of_failed (admits : desk.Admits query) {fault : InferenceFault}
    (failed : (desk.stage service cancel start nextCall race).outcome = .error fault) :
    desk.run service cancel query start nextCall race =
      ⟨Stage.withoutReply, .error (.service fault),
        if (desk.stage service cancel start nextCall race).asked then [desk.call query start]
        else [],
        (desk.stage service cancel start nextCall race).finish⟩ := by
  have course := run_course desk service cancel query start nextCall race
  have outcome := course.of_failed admits failed
  have stages := course.withoutReply_iff.mpr ⟨admits, fault, failed⟩
  obtain ⟨calls, finish⟩ := course.busy admits
  rw [← stages, ← outcome, ← calls, ← finish]

/-- Without an exchange a cancellation has nothing to cut short. -/
theorem run_of_not_admits (idle : ¬ desk.Admits query) (service : Service) (cancel : Option Nat)
    (start nextCall : Nat) (race : Race) :
    desk.run service cancel query start nextCall race =
      desk.run service none query start nextCall := by
  have early := not_admits_iff.mp idle
  by_cases blank : Text.isBlankText query = true
  · rw [run, run, Text.trim_isEmpty, if_pos blank, if_pos blank]
  · have blocked := passes_eq_false_iff.mpr (early.resolve_left blank)
    rw [run, run, Text.trim_isEmpty, if_neg blank, if_neg blank, blocked]
    rfl

/-- So there is one attempt, whenever a cancellation comes. -/
theorem runWithRetry_of_not_admits (idle : ¬ desk.Admits query) (service : Service)
    (cancel : Option Nat) (policy : RetryPolicy) (start nextCall : Nat) (races : Nat → Race) :
    desk.runWithRetry service cancel policy query start nextCall races =
      let run := desk.run service none query start nextCall
      ⟨[run], 0, run.outcome, run.finish, 1⟩ := by
  have stays : isRetryable (desk.run service none query start nextCall).outcome = false := by
    by_contra retryable
    have course := run_course desk service none query start nextCall .toCancellation
    exact idle (course.of_retryable (Bool.not_eq_false _ ▸ retryable)).1
  have same := run_of_not_admits idle service cancel start nextCall (races (1 : UInt32).toNat)
  rw [← same] at stays
  rw [runWithRetry, attempt_of_stays stays, same]

end Desk

/-- A pause that a cancellation comes into, or after: it ends there, or is over by then. -/
theorem pause_cases (race : Race) (backoff : Nat) {instant start : Nat} (begun : start ≤ instant) :
    (pause race backoff (some instant) start = (start + backoff, false) ∧
        start + backoff ≤ instant) ∨
      (pause race backoff (some instant) start = (instant, true) ∧ instant ≤ start + backoff) := by
  rw [pause]
  cases cut : cutShort? race.beatsPause (some instant) start (start + backoff) with
  | none =>
      refine .inl ⟨rfl, ?_⟩
      have late := cutShort?_eq_none_iff.mp cut instant rfl
      omega
  | some ended =>
      obtain ⟨c, fired, rfl, early⟩ := cutShort?_eq_some_iff.mp cut
      cases fired
      rw [Nat.max_eq_left begun] at early ⊢
      exact .inr ⟨rfl, by omega⟩

namespace Inquiry

variable {inquiry : Inquiry} {instant before number : Nat} {full cut : Attempts}

/-! ### The schedule in time -/

theorem startOf_le_finish (inquiry : Inquiry) (k : Nat) :
    inquiry.startOf k ≤ (inquiry.run k).finish := by
  rw [finish_run]
  exact Nat.le_add_right _ _

theorem finish_le_startOf (inquiry : Inquiry) (k : Nat) :
    (inquiry.run k).finish ≤ inquiry.startOf (k + 1) := Nat.le_add_right _ _

theorem startOf_mono (inquiry : Inquiry) : Monotone inquiry.startOf :=
  monotone_nat_of_le_succ fun k => (inquiry.startOf_le_finish k).trans (inquiry.finish_le_startOf k)

theorem finish_mono (inquiry : Inquiry) : Monotone fun k => (inquiry.run k).finish :=
  monotone_nat_of_le_succ fun k => (inquiry.finish_le_startOf k).trans
    (inquiry.startOf_le_finish (k + 1))

/-- The record of an attempt whose exchange a cancellation cut short. -/
def cutRun (inquiry : Inquiry) (before instant : Nat) (asked : Bool) : Run :=
  ⟨Stage.withoutReply, .error (.service .cancelled),
    if asked then [inquiry.desk.call inquiry.query (inquiry.startOf before)] else [], instant⟩

/-- The record of an attempt when a cancellation comes. -/
def runUntil (inquiry : Inquiry) (instant before : Nat) (race : Race) : Run :=
  inquiry.desk.run inquiry.service (some instant) inquiry.query (inquiry.startOf before)
    (inquiry.nextCall + before) race

/-- An attempt that begins before the cancellation is over by then, or cut short by it. -/
theorem runUntil_cases (admits : inquiry.desk.Admits inquiry.query) (race : Race)
    (begun : inquiry.startOf before ≤ instant) :
    (inquiry.runUntil instant before race = inquiry.run before ∧
        (inquiry.run before).finish ≤ instant) ∨
      ∃ asked, (asked = false → instant ≤ inquiry.startOf before) ∧
        instant ≤ (inquiry.run before).finish ∧
        inquiry.runUntil instant before race = inquiry.cutRun before instant asked := by
  have whole : (inquiry.run before).finish =
      (awaitReply (inquiry.service (inquiry.nextCall + before)) inquiry.desk.timeoutMs
        (inquiry.startOf before)).finish := by
    rw [finish_run, awaitReply_finish, wait, Desk.waitFor, if_pos admits]
  cases short : cutShort? race.beatsExchange (some instant) (inquiry.startOf before)
      (inquiry.run before).finish with
  | none =>
      have late := cutShort?_eq_none_iff.mp short instant rfl
      refine .inl ⟨Desk.run_congr ?_, by omega⟩
      rw [whole] at short
      rw [Desk.stage, Desk.stage, exchange_none, exchange]
      simp only [short]
  | some ended =>
      obtain ⟨c, fired, rfl, early⟩ := cutShort?_eq_some_iff.mp short
      cases fired
      rw [whole] at short
      rw [Nat.max_eq_left begun] at early short
      have stage : inquiry.desk.stage inquiry.service (some instant) (inquiry.startOf before)
          (inquiry.nextCall + before) race = ⟨.error .cancelled, instant,
            inquiry.startOf before < instant || !race.beatsExchange⟩ := by
        rw [Desk.stage, exchange]
        simp only [short]
      refine .inr ⟨inquiry.startOf before < instant || !race.beatsExchange, ?_, by omega, ?_⟩
      · intro unasked
        simp only [Bool.or_eq_false_iff, decide_eq_false_iff_not] at unasked
        omega
      · have failed : (inquiry.desk.stage inquiry.service (some instant) (inquiry.startOf before)
            (inquiry.nextCall + before) race).outcome = .error .cancelled := by rw [stage]
        rw [runUntil, Desk.run_of_failed admits failed, stage]
        rfl

/-! ### From the loop to the cut -/

/-- The attempts from one on when a cancellation comes, beside the same when none comes. -/
inductive Cut (inquiry : Inquiry) (instant : Nat) : Nat → Nat → Attempts → Attempts → Prop where
  /-- The last attempt is over by then. -/
  | last {before : Nat} {full : Attempts} (runs : full.runs = [inquiry.run before])
      (retries : full.retries = 0) (finish : full.finish = (inquiry.run before).finish)
      (passed : (inquiry.run before).finish ≤ instant) :
      Cut inquiry instant before (before + 1) full full
  /-- The cancellation comes into an attempt. -/
  | inRun {before number : Nat} {full : Attempts} {asked : Bool} {counter : UInt32}
      (within : before < number) (begun : inquiry.startOf before ≤ instant)
      (early : instant ≤ (inquiry.run before).finish)
      (unasked : asked = false → instant ≤ inquiry.startOf before) :
      Cut inquiry instant before number full
        ⟨[inquiry.cutRun before instant asked], 0, .error (.service .cancelled), instant, counter⟩
  /-- The cancellation comes into a pause. -/
  | inPause {before number : Nat} {full : Attempts} {counter : UInt32}
      (within : before + 1 < number) (passed : (inquiry.run before).finish ≤ instant)
      (early : instant ≤ inquiry.startOf (before + 1)) :
      Cut inquiry instant before number full
        ⟨[inquiry.run before], 1, (inquiry.run before).outcome, instant, counter⟩
  /-- The next attempt begins before the cancellation. -/
  | again {before number : Nat} {later laterCut : Attempts}
      (begun : inquiry.startOf (before + 1) ≤ instant)
      (rest : Cut inquiry instant (before + 1) number later laterCut) :
      Cut inquiry instant before number (later.after (inquiry.run before))
        (laterCut.after (inquiry.run before))

/-- The loop of attempts when a cancellation comes, where it comes to an attempt. -/
def cutLoop (inquiry : Inquiry) (instant : Nat) (races : Nat → Race) (limit counter : UInt32)
    (before : Nat) : Attempts :=
  inquiry.desk.attempt inquiry.service (some instant) inquiry.backoff inquiry.query races limit
    counter (inquiry.startOf before) (inquiry.nextCall + before)

variable {limit counter : UInt32} {races : Nat → Race}

theorem cutLoop_short {asked : Bool}
    (short : inquiry.runUntil instant before (races counter.toNat) =
      inquiry.cutRun before instant asked) :
    inquiry.cutLoop instant races limit counter before =
      ⟨[inquiry.cutRun before instant asked], 0, .error (.service .cancelled), instant,
        counter⟩ := by
  have stays : isRetryable (inquiry.runUntil instant before (races counter.toNat)).outcome =
      false := by
    rw [short]
    rfl
  rw [cutLoop, Desk.attempt_of_stays stays, ← runUntil, short]
  rfl

theorem cutLoop_final
    (same : inquiry.runUntil instant before (races counter.toNat) = inquiry.run before)
    (ends : counter = limit ∨ isRetryable (inquiry.run before).outcome = false) :
    inquiry.cutLoop instant races limit counter before =
      ⟨[inquiry.run before], 0, (inquiry.run before).outcome, (inquiry.run before).finish,
        counter⟩ := by
  rw [cutLoop]
  refine Desk.attempt_last same ?_
  rintro ⟨retryable, below⟩
  rcases ends with rfl | stays
  · exact UInt32.lt_irrefl counter below
  · exact Bool.false_ne_true (stays.symm.trans retryable)

/-- After an attempt that may be followed by another, the cancellation comes into the pause or
after it. -/
theorem cutLoop_again
    (same : inquiry.runUntil instant before (races counter.toNat) = inquiry.run before)
    (below : counter < limit) (retryable : isRetryable (inquiry.run before).outcome = true)
    (passed : (inquiry.run before).finish ≤ instant) :
    (inquiry.startOf (before + 1) ≤ instant ∧
        inquiry.cutLoop instant races limit counter before =
          (inquiry.cutLoop instant races limit (counter + 1) (before + 1)).after
            (inquiry.run before)) ∨
      (instant ≤ inquiry.startOf (before + 1) ∧
        inquiry.cutLoop instant races limit counter before =
          ⟨[inquiry.run before], 1, (inquiry.run before).outcome, instant, counter⟩) := by
  have oneCall : (inquiry.run before).calls.length = 1 := by
    rw [calls_run, if_pos (of_retryable retryable).1]
    rfl
  rcases pause_cases (races counter.toNat) inquiry.backoff passed with
    ⟨paused, inTime⟩ | ⟨paused, early⟩
  · refine .inl ⟨inTime, ?_⟩
    rw [cutLoop, Desk.attempt_again same retryable below paused, oneCall]
    rfl
  · refine .inr ⟨early, ?_⟩
    rw [cutLoop, Desk.attempt_cut same retryable below paused]

/-- At the last attempt, the cancellation comes into it or after it. -/
theorem cut_final (admits : inquiry.desk.Admits inquiry.query) (plain races : Nat → Race)
    (ends : counter = limit ∨ isRetryable (inquiry.run before).outcome = false)
    (begun : inquiry.startOf before ≤ instant) :
    inquiry.Cut instant before (before + 1) (inquiry.loop plain limit counter before)
      (inquiry.cutLoop instant races limit counter before) := by
  rw [loop_final plain ends]
  rcases runUntil_cases admits (races counter.toNat) begun with
    ⟨same, passed⟩ | ⟨asked, unasked, early, short⟩
  · rw [cutLoop_final same ends]
    exact .last rfl rfl (by dsimp only) passed
  · rw [cutLoop_short short]
    exact .inRun (Nat.lt_succ_self before) begun early unasked

/-- The loop with a cancellation follows the loop without one up to the cut. -/
theorem loop_cut (admits : inquiry.desk.Admits inquiry.query) (plain races : Nat → Race)
    (counted : counter.toNat = before + 1) (within : before + 1 ≤ limit.toNat)
    (begun : inquiry.startOf before ≤ instant) :
    ∃ number, inquiry.Attempting limit.toNat before number
        (inquiry.loop plain limit counter before) ∧
      inquiry.Cut instant before number (inquiry.loop plain limit counter before)
        (inquiry.cutLoop instant races limit counter before) := by
  -- as for the loop alone: the attempts that are left become fewer
  induction left : limit.toNat - counter.toNat generalizing counter before with
  | zero =>
      have atLimit : counter = limit := UInt32.toNat_inj.mp (by omega)
      refine ⟨before + 1, ?_, cut_final admits plain races (.inl atLimit) begun⟩
      rw [loop_final plain (.inl atLimit)]
      exact .final counted within (.inl (by omega))
  | succ left ih =>
      cases retryable : isRetryable (inquiry.run before).outcome with
      | false =>
          refine ⟨before + 1, ?_, cut_final admits plain races (.inr retryable) begun⟩
          rw [loop_final plain (.inr retryable)]
          exact .final counted within (.inr retryable)
      | true =>
          have below : counter < limit := UInt32.lt_iff_toNat_lt.mpr (by omega)
          have next : (counter + 1).toNat = before + 1 + 1 := by
            rw [toNat_next_of_lt below, counted]
          have nextWithin : before + 1 + 1 ≤ limit.toNat := by omega
          obtain ⟨number, rest⟩ := inquiry.loop_attempting plain next nextWithin
          have attempting := Attempting.again retryable rest
          rw [← loop_again plain below retryable] at attempting
          rcases runUntil_cases admits (races counter.toNat) begun with
            ⟨same, passed⟩ | ⟨asked, unasked, early, short⟩
          · rcases cutLoop_again same below retryable passed with ⟨begins, step⟩ | ⟨early, step⟩
            · obtain ⟨number, rest, restCut⟩ := ih next nextWithin begins (by omega)
              rw [step, loop_again plain below retryable]
              exact ⟨number, .again retryable rest, .again begins restCut⟩
            · rw [step]
              exact ⟨number, attempting, .inPause rest.bounds.1 passed early⟩
          · rw [cutLoop_short short]
            exact ⟨number, attempting, .inRun attempting.bounds.1 begun early unasked⟩

/-! ### What a cut leaves

Every fact is proved by induction along the schedule, from the cut back.
-/

namespace Cut

/-- The attempts are over with the cancellation, or before. -/
theorem finish_le (isCut : inquiry.Cut instant before number full cut) : cut.finish ≤ instant := by
  induction isCut with
  | last runs retries finish passed =>
      rw [finish]
      exact passed
  | inRun => exact Nat.le_refl _
  | inPause => exact Nat.le_refl _
  | again begun rest ih => exact ih

/-- No call is made after the cancellation. -/
theorem calls_le (isCut : inquiry.Cut instant before number full cut) :
    ∀ call ∈ cut.calls, call.time ≤ instant := by
  have ofRun : ∀ k, inquiry.startOf k ≤ instant → ∀ call ∈ (inquiry.run k).calls,
      call.time ≤ instant := by
    intro k begun call made
    rw [calls_run] at made
    split_ifs at made
    · rw [List.mem_singleton.mp made]
      exact begun
    · cases made
  induction isCut with
  | @last before full runs retries finish passed =>
      rw [Attempts.calls, runs, List.flatMap_singleton]
      exact ofRun before ((inquiry.startOf_le_finish before).trans passed)
  | @inRun before number full asked counter within begun =>
      intro call made
      rw [Attempts.calls, List.flatMap_singleton, cutRun] at made
      split_ifs at made
      · rw [List.mem_singleton.mp made]
        exact begun
      · cases made
  | @inPause before number full counter within passed =>
      rw [Attempts.calls, List.flatMap_singleton]
      exact ofRun before ((inquiry.startOf_le_finish before).trans passed)
  | @again before number later laterCut begun rest ih =>
      intro call made
      rw [Attempts.calls, Attempts.after, List.flatMap_cons, List.mem_append] at made
      rcases made with here | later
      · exact ofRun before ((inquiry.startOf_mono (Nat.le_succ before)).trans begun) call here
      · exact ih call later

/-- A cancellation after the last attempt changes nothing. -/
theorem eq_of_late (isCut : inquiry.Cut instant before number full cut)
    (late : (inquiry.run (number - 1)).finish < instant) : cut = full := by
  induction isCut with
  | last => rfl
  | @inRun before number full asked counter within begun early =>
      have order := inquiry.finish_mono (Nat.le_sub_one_of_lt within)
      dsimp only at order
      omega
  | @inPause before number full counter within passed early =>
      have order := inquiry.finish_mono (Nat.le_sub_one_of_lt within)
      have next := inquiry.startOf_le_finish (before + 1)
      dsimp only at order
      omega
  | again begun rest ih => rw [ih late]

/-- The attempts that are over when one begins. -/
def earlier (inquiry : Inquiry) (before k : Nat) : List Run :=
  (List.range' before (k - before)).map inquiry.run

theorem earlier_self (inquiry : Inquiry) (k : Nat) : earlier inquiry k k = [] := by
  rw [earlier, Nat.sub_self]
  rfl

theorem earlier_cons {k : Nat} (below : before < k) :
    earlier inquiry before k = inquiry.run before :: earlier inquiry (before + 1) k := by
  have oneMore : k - before = k - (before + 1) + 1 := by omega
  rw [earlier, oneMore, List.range'_succ, List.map_cons, earlier]

/-- A cancellation inside an attempt ends that attempt, and the question with it. -/
theorem inside_run (isCut : inquiry.Cut instant before number full cut) {k : Nat}
    (fromHere : before ≤ k) (within : k < number) (begun : inquiry.startOf k < instant)
    (early : instant < (inquiry.run k).finish) :
    cut.runs = earlier inquiry before k ++ [inquiry.cutRun k instant true] ∧
      cut.retries = k - before ∧ cut.outcome = .error (.service .cancelled) ∧
        cut.finish = instant := by
  induction isCut with
  | @last before full runs retries finish passed =>
      obtain rfl : before = k := by omega
      omega
  | @inRun before number full asked counter _ started ends unasked =>
      obtain rfl : before = k := by
        by_contra other
        have order := inquiry.startOf_mono (by omega : before + 1 ≤ k)
        have next := inquiry.finish_le_startOf before
        omega
      obtain rfl : asked = true := by
        by_contra unaskedHere
        have := unasked (Bool.eq_false_iff.mpr unaskedHere)
        omega
      rw [earlier_self, Nat.sub_self]
      dsimp only
      exact ⟨rfl, rfl, rfl, rfl⟩
  | @inPause before number full counter _ passed ends =>
      rcases Nat.eq_or_lt_of_le fromHere with rfl | later
      · omega
      · have order := inquiry.startOf_mono (Nat.succ_le_of_lt later)
        dsimp only [Nat.succ_eq_add_one] at order
        omega
  | @again before number later laterCut started rest ih =>
      rcases Nat.eq_or_lt_of_le fromHere with rfl | after
      · have next := inquiry.finish_le_startOf before
        omega
      · obtain ⟨runs, retries, outcome, finish⟩ := ih after within
        refine ⟨?_, ?_, outcome, finish⟩
        · rw [Attempts.after, runs, earlier_cons after]
          rfl
        · simp only [Attempts.after, retries]
          omega

/-- A cancellation inside a pause leaves the attempts before it, and the outcome of the last. -/
theorem inside_pause (isCut : inquiry.Cut instant before number full cut) {k : Nat}
    (fromHere : before ≤ k) (within : k + 1 < number) (passed : (inquiry.run k).finish < instant)
    (early : instant < inquiry.startOf (k + 1)) :
    cut.runs = earlier inquiry before (k + 1) ∧ cut.retries = k + 1 - before ∧
      cut.outcome = (inquiry.run k).outcome ∧ cut.finish = instant := by
  induction isCut with
  | last => omega
  | @inRun before number full asked counter _ started ends unasked =>
      have order := inquiry.finish_mono fromHere
      dsimp only at order
      omega
  | @inPause before number full counter _ _ ends =>
      obtain rfl : before = k := by
        by_contra other
        have order := inquiry.startOf_mono (by omega : before + 1 ≤ k)
        have next := inquiry.startOf_le_finish k
        omega
      rw [earlier_cons (Nat.lt_succ_self before), earlier_self, Nat.add_sub_cancel_left]
      dsimp only
      exact ⟨rfl, rfl, rfl, rfl⟩
  | @again before number later laterCut started rest ih =>
      rcases Nat.eq_or_lt_of_le fromHere with rfl | after
      · omega
      · obtain ⟨runs, retries, outcome, finish⟩ := ih after within
        refine ⟨?_, ?_, outcome, finish⟩
        · rw [Attempts.after, runs, ← earlier_cons (Nat.lt_succ_of_lt after)]
        · simp only [Attempts.after, retries]
          omega

/-- There is one run more than there are retries, unless the cancellation came into a pause. -/
theorem balance (isCut : inquiry.Cut instant before number full cut) :
    cut.runs.length = cut.retries + 1 ∨
      cut.runs.length = cut.retries ∧ ∃ k, before ≤ k ∧ k + 1 < number ∧
        (inquiry.run k).finish ≤ instant ∧ instant ≤ inquiry.startOf (k + 1) ∧
        cut.runs = earlier inquiry before (k + 1) := by
  induction isCut with
  | last runs retries =>
      rw [runs, retries]
      exact .inl rfl
  | inRun => exact .inl rfl
  | @inPause before number full counter within passed early =>
      refine .inr ⟨rfl, before, Nat.le_refl before, within, passed, early, ?_⟩
      rw [earlier_cons (Nat.lt_succ_self before), earlier_self]
  | @again before number later laterCut begun rest ih =>
      rcases ih with longer | ⟨same, k, fromHere, within, passed, early, runs⟩
      · left
        rw [Attempts.after, List.length_cons, longer]
      · refine .inr ⟨?_, k, by omega, within, passed, early, ?_⟩
        · rw [Attempts.after, List.length_cons, same]
        · rw [Attempts.after, runs, ← earlier_cons (by omega)]

end Cut

/-! ### The law -/

theorem earlier_zero (inquiry : Inquiry) (k : Nat) :
    Cut.earlier inquiry 0 k = (List.range k).map inquiry.run := by
  rw [Cut.earlier, Nat.sub_zero, List.range_eq_range']

/-- What holds of the record `cut` of a question with its attempts when a cancellation comes at an
instant after the question, beside the record `full` of the same question when none comes. -/
structure CancelLaw (inquiry : Inquiry) (maxAttempts : UInt32) (instant : Nat)
    (full cut : Attempts) : Prop where
  /-- The runs without a cancellation are those of the schedule. -/
  schedule : full.runs = (List.range full.runs.length).map inquiry.run
  /-- The service is not asked any more after the cancellation, -/
  calls : inquiry.desk.Admits inquiry.query → ∀ call ∈ cut.calls, call.time ≤ instant
  /-- and a question that is not done by then is done at that instant. -/
  finish : inquiry.desk.Admits inquiry.query → ¬ cut.finish < instant → cut.finish = instant
  /-- A cancellation inside an attempt ends it with a failure that is not retried. -/
  insideRun : inquiry.desk.Admits inquiry.query → ∀ k, k < full.runs.length →
    inquiry.startOf k < instant → instant < inquiry.startOf k + inquiry.wait k →
      cut.outcome = .error (.service .cancelled) ∧ isRetryable cut.outcome = false ∧
        cut.finish = instant ∧
        cut.runs = (List.range k).map inquiry.run ++ [inquiry.cutRun k instant true] ∧
        cut.tally.questions = k + 1 ∧ cut.tally.retries = k
  /-- A cancellation inside a pause leaves the failure that there was; the pause has been counted,
  though no run follows it. -/
  insidePause : inquiry.desk.Admits inquiry.query → ∀ k, k + 1 < full.runs.length →
    (inquiry.run k).finish < instant → instant < inquiry.startOf (k + 1) →
      cut.outcome = (inquiry.run k).outcome ∧ cut.finish = instant ∧
        cut.runs = (List.range (k + 1)).map inquiry.run ∧
        cut.tally.questions = k + 1 ∧ cut.tally.retries = k + 1
  /-- Unless the cancellation came into a pause, there is one run more than there are retries. -/
  balance : inquiry.desk.Admits inquiry.query →
    cut.tally.questions = cut.tally.retries + 1 ∨
      cut.tally.questions = cut.tally.retries ∧ ∃ k, k + 1 < full.runs.length ∧
        (inquiry.run k).finish ≤ instant ∧ instant ≤ inquiry.startOf (k + 1) ∧
        cut.runs = (List.range (k + 1)).map inquiry.run
  /-- A cancellation after the end changes nothing. -/
  late : inquiry.desk.Admits inquiry.query → full.finish < instant → cut = full
  /-- To a question that is blank or blocked no cancellation makes a difference, not even one that was
  there before it. -/
  idle : ¬ inquiry.desk.Admits inquiry.query → ∀ cancel races,
    inquiry.desk.runWithRetry inquiry.service cancel ⟨maxAttempts.toNat, inquiry.backoff⟩
      inquiry.query inquiry.start inquiry.nextCall races = full

variable {maxAttempts : UInt32} {last : Nat}

theorem length_runs (attempting : inquiry.Attempting last 0 number full) :
    full.runs.length = number := by
  rw [attempting.runs_eq, List.length_map, List.length_range', Nat.sub_zero]

/-- The law of a question that is put to the service, from its cut. -/
theorem cancelLaw_of_cut (admits : inquiry.desk.Admits inquiry.query)
    (attempting : inquiry.Attempting last 0 number full)
    (isCut : inquiry.Cut instant 0 number full cut) :
    inquiry.CancelLaw maxAttempts instant full cut := by
  obtain ⟨-, finish, -⟩ := attempting.last_eq
  have length := length_runs attempting
  have runs : full.runs = (List.range number).map inquiry.run := by
    rw [attempting.runs_eq, Nat.sub_zero, List.range_eq_range']
  exact {
    schedule := by rw [length, runs]
    calls := fun _ => isCut.calls_le
    finish := fun _ notBefore => Nat.le_antisymm isCut.finish_le (Nat.le_of_not_lt notBefore)
    insideRun := by
      intro _ k within begun early
      rw [length] at within
      rw [← finish_run] at early
      obtain ⟨runs, retries, outcome, finish⟩ :=
        isCut.inside_run (Nat.zero_le k) within begun early
      rw [earlier_zero] at runs
      refine ⟨outcome, by rw [outcome]; rfl, finish, runs, ?_, retries⟩
      rw [Attempts.questions_tally, runs, List.length_append, List.length_map, List.length_range,
        List.length_singleton]
    insidePause := by
      intro _ k within passed early
      rw [length] at within
      obtain ⟨runs, retries, outcome, finish⟩ :=
        isCut.inside_pause (Nat.zero_le k) within passed early
      rw [earlier_zero] at runs
      refine ⟨outcome, finish, runs, ?_, retries⟩
      rw [Attempts.questions_tally, runs, List.length_map, List.length_range]
    balance := by
      intro _
      rw [Attempts.questions_tally]
      rcases isCut.balance with longer | ⟨same, k, -, within, passed, early, runs⟩
      · exact .inl longer
      · rw [earlier_zero] at runs
        exact .inr ⟨same, k, by rw [length]; exact within, passed, early, runs⟩
    late := by
      intro _ passed
      rw [finish] at passed
      exact isCut.eq_of_late passed
    idle := fun idle => absurd admits idle }

/-- The law of a question that is not, from its one attempt. -/
theorem cancelLaw_of_not_admits (idle : ¬ inquiry.desk.Admits inquiry.query)
    (once : ∀ cancel races,
      inquiry.desk.runWithRetry inquiry.service cancel ⟨maxAttempts.toNat, inquiry.backoff⟩
        inquiry.query inquiry.start inquiry.nextCall races =
          ⟨[inquiry.run 0], 0, (inquiry.run 0).outcome, (inquiry.run 0).finish, 1⟩) :
    inquiry.CancelLaw maxAttempts instant
      ⟨[inquiry.run 0], 0, (inquiry.run 0).outcome, (inquiry.run 0).finish, 1⟩ cut where
  schedule := rfl
  calls := fun admits => absurd admits idle
  finish := fun admits => absurd admits idle
  insideRun := fun admits => absurd admits idle
  insidePause := fun admits => absurd admits idle
  balance := fun admits => absurd admits idle
  late := fun admits => absurd admits idle
  idle := fun _ => once

end Inquiry

/-- A cancellation that comes at or after the start of a question cuts its attempts off where it finds
them, whatever the policy and the service, and however its races end. -/
theorem Desk.runWithRetry_cancelled (desk : Desk) (service : Service) (maxAttempts : UInt32)
    (backoff : Nat) (query : String) (start after nextCall : Nat) (races : Nat → Race) :
    Inquiry.CancelLaw ⟨desk, service, backoff, query, start, nextCall⟩ maxAttempts (start + after)
      (desk.runWithRetry service none ⟨maxAttempts.toNat, backoff⟩ query start nextCall)
      (desk.runWithRetry service (some (start + after)) ⟨maxAttempts.toNat, backoff⟩ query start
        nextCall races) := by
  let inquiry : Inquiry := ⟨desk, service, backoff, query, start, nextCall⟩
  by_cases admits : desk.Admits query
  · have limit := RetryPolicy.toNat_lastAttempt maxAttempts backoff
    have counted : (1 : UInt32).toNat = 0 + 1 := rfl
    have within : 0 + 1 ≤ (RetryPolicy.lastAttempt ⟨maxAttempts.toNat, backoff⟩).toNat := by omega
    obtain ⟨number, attempting, isCut⟩ := inquiry.loop_cut admits (fun _ => .toCancellation) races
      counted within (Nat.le_add_right start after)
    exact inquiry.cancelLaw_of_cut admits attempting isCut
  · have once := fun cancel races => runWithRetry_of_not_admits admits service cancel
      ⟨maxAttempts.toNat, backoff⟩ start nextCall races
    rw [once none]
    exact inquiry.cancelLaw_of_not_admits admits once

end StudyDesk
