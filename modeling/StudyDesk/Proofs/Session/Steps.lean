/-
Module: StudyDesk.Proofs.Session.Steps
Purpose: A question with its attempts as a machine that takes one step after the other.
Main exports:
  Ending, Finished, Visit, Visit.next?, Visit.play?, Visit.Step, Desk.Concludes, Visit.Sound,
  Visit.tally, Visit.play_sound
-/
import Mathlib.Tactic.Abel
import StudyDesk.Proofs.Session.Attempts

namespace StudyDesk

/-!
The loop of attempts gives the record of a question in one piece.  Where several questions are
at the desk at once, what matters is in which steps each record comes about, and what each step counts.
A step of the machine is what a question does without a wait; between two steps any other question may
take one of its own.  Time is left out: how an exchange or a pause ended is an event of the step that
follows it.
-/

/-- How an exchange ended. -/
inductive Ending where
  | reply (outcome : Except InferenceFault String)
  | limit
  | cancellation

/-- What a question has from an exchange that ended so. -/
def Ending.outcome : Ending → Except InferenceFault String
  | .reply outcome => outcome
  | .limit => .error .timeout
  | .cancellation => .error .cancelled

/-- A run that is done and counted. -/
structure Finished where
  stages : List Stage
  outcome : Outcome
  /-- How its exchange ended, if it had one. -/
  ending : Option Ending

/-- What a finished run has added to the counters. -/
def Finished.tally (run : Finished) : Tally :=
  (if run.ending.isSome then Tally.latency else 0) + Tally.ofOutcome run.outcome

/-- A finished run is one question, no retry, and as many exchanges as it had. -/
theorem Finished.counts_tally (run : Finished) :
    run.tally.questions = 1 ∧ run.tally.retries = 0 ∧
      run.tally.latencies = if run.ending.isSome then 1 else 0 := by
  obtain ⟨retries, latencies⟩ := Tally.ofOutcome_only run.outcome
  rw [tally, Tally.add_questions, Tally.add_retries, Tally.add_latencies,
    Tally.questions_ofOutcome, retries, latencies]
  cases run.ending.isSome <;> exact ⟨rfl, rfl, rfl⟩

/-- What finished runs have added to the counters together. -/
theorem Finished.counts_sum (runs : List Finished) :
    (runs.map tally).sum.questions = runs.length ∧ (runs.map tally).sum.retries = 0 ∧
      (runs.map tally).sum.latencies = runs.countP (·.ending.isSome) := by
  induction runs with
  | nil => exact ⟨rfl, rfl, rfl⟩
  | cons run rest ih =>
      obtain ⟨questions, retries, latencies⟩ := counts_tally run
      obtain ⟨questionsRest, retriesRest, latenciesRest⟩ := ih
      simp only [List.map_cons, List.sum_cons, Tally.add_questions, Tally.add_retries,
        Tally.add_latencies, List.length_cons, List.countP_cons]
      omega

namespace Visit

/-- What happens to a question. -/
inductive Event where
  /-- It goes on by itself. -/
  | proceed
  | exchange (ending : Ending)
  | pause (cancelled : Bool)

/-- Where a question is between two steps. -/
inductive Phase where
  | received
  /-- Past the gate, with the service not asked yet. -/
  | prompted
  | waiting
  | invoked (raw : String)
  /-- The outcome is there, but not counted. -/
  | decided (outcome : Outcome)
  /-- The run is counted, and whether to retry is open. -/
  | returned (run : Finished)
  | pausing
  | answered (run : Finished)
  /-- Cancelled in a pause. -/
  | abandoned

namespace Phase

/-- The run that is done but was not retried. -/
def finished : Phase → List Finished
  | returned run | answered run => [run]
  | _ => []

/-- Whether a run is going on. -/
def isOpen : Phase → Bool
  | received | prompted | waiting | invoked _ | decided _ => true
  | _ => false

/-- How many of the attempts that were begun have not been retried. -/
def unretried : Phase → Nat
  | pausing | abandoned => 0
  | _ => 1

/-- Whether the question has got its answer, or was given up. -/
def isOver : Phase → Bool
  | answered _ | abandoned => true
  | _ => false

end Phase

end Visit

/-- A question at the desk: the text, the number of the last attempt that it may take and of the
present one, and what has come of it. -/
structure Visit where
  query : String
  last : UInt32
  number : UInt32
  phase : Visit.Phase
  /-- The trace of the run that is going on, -/
  stages : List Stage
  /-- and how its exchange ended. -/
  ending : Option Ending
  /-- The runs after which a retry was decided. -/
  retried : List Finished

namespace Visit

/-- A visit as an attempt begins. -/
def begun (query : String) (last number : UInt32) (retried : List Finished) : Visit :=
  ⟨query, last, number, .received, [.received], none, retried⟩

/-- A question that comes in. -/
def fresh (query : String) (policy : RetryPolicy) : Visit := begun query policy.lastAttempt 1 []

/-- The runs that are done, in order. -/
def finished (v : Visit) : List Finished := v.retried ++ v.phase.finished

/-- A visit when its exchange is over. -/
def exchanged (v : Visit) (ending : Ending) : Visit :=
  match ending.outcome with
  | .error fault => { v with phase := .decided (.error (.service fault)), ending := some ending }
  | .ok raw =>
      { v with phase := .invoked raw, stages := v.stages ++ [.invoked], ending := some ending }

/-- The step of a visit that goes on by itself, and what it counts. -/
def proceed? (desk : Desk) (v : Visit) : Option (Visit × Tally) :=
  match v.phase with
  | .received =>
      let question := Text.trim v.query
      if question.isEmpty then some ({ v with phase := .decided (.error .emptyQuery) }, 0)
      else if !desk.gate.passes question then
        some ({ v with phase := .decided (.ok (.rejected Gate.blockedReason)) }, 0)
      else
        some ({ v with phase := .prompted, stages := v.stages ++ [.safetyChecked, .prompted] }, 0)
  | .prompted => some ({ v with phase := .waiting }, 0)
  | .invoked raw =>
      some ({ v with
        phase := .decided (Contract.validate desk.registry raw)
        stages := v.stages ++ [.validated] }, 0)
  | .decided outcome =>
      some ({ v with phase := .returned ⟨v.stages ++ [.done], outcome, v.ending⟩ },
        Tally.ofOutcome outcome)
  | .returned run =>
      if isRetryable run.outcome ∧ v.number < v.last then
        some ({ v with phase := .pausing, retried := v.retried ++ [run] }, Tally.retry)
      else some ({ v with phase := .answered run }, 0)
  | _ => none

/-- The step of a visit at an event, and what it counts.  A cancellation may come before the service
is asked; nothing else ends an exchange that has not begun. -/
def next? (desk : Desk) (v : Visit) : Event → Option (Visit × Tally)
  | .proceed => v.proceed? desk
  | .exchange ending =>
      match v.phase, ending with
      | .waiting, _ => some (v.exchanged ending, Tally.latency)
      | .prompted, .cancellation => some (v.exchanged .cancellation, Tally.latency)
      | _, _ => none
  | .pause cancelled =>
      match v.phase with
      | .pausing =>
          if cancelled then some ({ v with phase := .abandoned }, 0)
          else some ({ v with
            number := v.number + 1, phase := .received, stages := [.received], ending := none }, 0)
      | _ => none

/-- The steps of a visit at one event after the other, and what they count together. -/
def play? (desk : Desk) (v : Visit) : List Event → Option (Visit × Tally)
  | [] => some (v, 0)
  | event :: rest =>
      (v.next? desk event).bind fun next =>
        (next.1.play? desk rest).map fun final => (final.1, next.2 + final.2)

/-! ### The steps one by one -/

variable {desk : Desk} {v v' v'' : Visit} {event : Event} {events : List Event}
  {counted counted' : Tally}

/-- The steps that a visit can take, each with its guard, its effect, and what it counts. -/
inductive Step (desk : Desk) (v : Visit) : Event → Visit → Tally → Prop where
  | blank (here : v.phase = .received) (blank : Text.isBlankText v.query = true) :
      Step desk v .proceed { v with phase := .decided (.error .emptyQuery) } 0
  | blocked (here : v.phase = .received) (notBlank : Text.isBlankText v.query = false)
      (blocked : desk.Blocks v.query) :
      Step desk v .proceed { v with phase := .decided (.ok (.rejected Gate.blockedReason)) } 0
  | admitted (here : v.phase = .received) (admits : desk.Admits v.query) :
      Step desk v .proceed
        { v with phase := .prompted, stages := v.stages ++ [.safetyChecked, .prompted] } 0
  | ask (here : v.phase = .prompted) : Step desk v .proceed { v with phase := .waiting } 0
  | failed {ending : Ending} {fault : InferenceFault}
      (here : v.phase = .waiting ∨ v.phase = .prompted ∧ ending = .cancellation)
      (failed : ending.outcome = .error fault) :
      Step desk v (.exchange ending)
        { v with phase := .decided (.error (.service fault)), ending := some ending } Tally.latency
  | delivered {ending : Ending} {raw : String} (here : v.phase = .waiting)
      (delivered : ending.outcome = .ok raw) :
      Step desk v (.exchange ending)
        { v with phase := .invoked raw, stages := v.stages ++ [.invoked], ending := some ending }
        Tally.latency
  | validate {raw : String} (here : v.phase = .invoked raw) :
      Step desk v .proceed
        { v with
          phase := .decided (Contract.validate desk.registry raw)
          stages := v.stages ++ [.validated] } 0
  | count {outcome : Outcome} (here : v.phase = .decided outcome) :
      Step desk v .proceed
        { v with phase := .returned ⟨v.stages ++ [.done], outcome, v.ending⟩ }
        (Tally.ofOutcome outcome)
  | retry {run : Finished} (here : v.phase = .returned run)
      (retryable : isRetryable run.outcome = true) (below : v.number < v.last) :
      Step desk v .proceed { v with phase := .pausing, retried := v.retried ++ [run] } Tally.retry
  | answer {run : Finished} (here : v.phase = .returned run)
      (stays : ¬ (isRetryable run.outcome = true ∧ v.number < v.last)) :
      Step desk v .proceed { v with phase := .answered run } 0
  | resume (here : v.phase = .pausing) :
      Step desk v (.pause false)
        { v with
          number := v.number + 1, phase := .received, stages := [.received], ending := none } 0
  | abandon (here : v.phase = .pausing) :
      Step desk v (.pause true) { v with phase := .abandoned } 0

theorem step_of_proceed (taken : v.proceed? desk = some (v', counted)) :
    v.Step desk .proceed v' counted := by
  unfold proceed? at taken
  split at taken
  case h_1 here =>
    simp only [Text.trim_isEmpty] at taken
    split_ifs at taken with blank refused
    · cases taken
      exact .blank here blank
    · cases taken
      rw [Bool.not_eq_true', Desk.passes_eq_false_iff] at refused
      exact .blocked here (Bool.not_eq_true _ ▸ blank) refused
    · cases taken
      rw [Bool.not_eq_true', Desk.passes_eq_false_iff] at refused
      exact .admitted here ⟨Bool.not_eq_true _ ▸ blank, refused⟩
  case h_2 here =>
    cases taken
    exact .ask here
  case h_3 raw here =>
    cases taken
    exact .validate here
  case h_4 outcome here =>
    cases taken
    exact .count here
  case h_5 run here =>
    split_ifs at taken with again
    · cases taken
      exact .retry here again.1 again.2
    · cases taken
      exact .answer here again
  case h_6 => cases taken

theorem step_of_exchanged {ending : Ending}
    (here : v.phase = .waiting ∨ v.phase = .prompted ∧ ending = .cancellation) :
    v.Step desk (.exchange ending) (v.exchanged ending) Tally.latency := by
  cases ended : ending.outcome with
  | error fault =>
      have failed : v.Step desk (.exchange ending) _ Tally.latency := .failed here ended
      simpa only [exchanged, ended] using failed
  | ok raw =>
      rcases here with here | ⟨-, rfl⟩
      · have delivered : v.Step desk (.exchange ending) _ Tally.latency := .delivered here ended
        simpa only [exchanged, ended] using delivered
      · cases ended

/-- Whatever a visit does is one of its steps. -/
theorem step_of_next (taken : v.next? desk event = some (v', counted)) :
    v.Step desk event v' counted := by
  cases event with
  | proceed => exact step_of_proceed taken
  | exchange ending =>
      simp only [next?] at taken
      split at taken
      case h_1 here =>
        cases taken
        exact step_of_exchanged (.inl here)
      case h_2 here =>
        cases taken
        exact step_of_exchanged (.inr ⟨here, rfl⟩)
      case h_3 => cases taken
  | pause cancelled =>
      simp only [next?] at taken
      split at taken
      case h_1 here =>
        cases cancelled with
        | true =>
            cases taken
            exact .abandon here
        | false =>
            cases taken
            exact .resume here
      case h_2 => cases taken

/-- And each of the steps can be taken. -/
theorem next_of_step (step : v.Step desk event v' counted) :
    v.next? desk event = some (v', counted) := by
  cases step with
  | blank here blank => simp [next?, proceed?, here, Text.trim_isEmpty, blank]
  | blocked here notBlank blocked =>
      simp [next?, proceed?, here, Text.trim_isEmpty, notBlank, Desk.passes_eq_false_iff.mpr blocked]
  | admitted here admits =>
      simp [next?, proceed?, here, Text.trim_isEmpty, admits.1, Desk.passes_of_not_blocks admits.2]
  | ask here | validate here | count here => simp [next?, proceed?, here]
  | failed here failed =>
      rcases here with here | ⟨here, rfl⟩
      · simp [next?, here, exchanged, failed]
      · cases failed
        simp [next?, here, exchanged, Ending.outcome]
  | delivered here delivered => simp [next?, here, exchanged, delivered]
  | retry here retryable below => simp [next?, proceed?, here, retryable, below]
  | answer here stays => simp [next?, proceed?, here, stays]
  | resume here | abandon here => simp [next?, here]

end Visit

/-! ### What a finished run is -/

/-- The runs that a question can have been done with, against how their exchanges ended. -/
inductive Desk.Concludes (desk : Desk) (query : String) : Finished → Prop where
  | blank (blank : Text.isBlankText query = true) :
      Concludes desk query ⟨Stage.atOnce, .error .emptyQuery, none⟩
  | blocked (notBlank : Text.isBlankText query = false) (blocked : desk.Blocks query) :
      Concludes desk query ⟨Stage.atOnce, .ok (.rejected Gate.blockedReason), none⟩
  | failed {ending : Ending} {fault : InferenceFault} (admits : desk.Admits query)
      (failed : ending.outcome = .error fault) :
      Concludes desk query ⟨Stage.withoutReply, .error (.service fault), some ending⟩
  | delivered {ending : Ending} {raw : String} (admits : desk.Admits query)
      (delivered : ending.outcome = .ok raw) :
      Concludes desk query ⟨Stage.complete, Contract.validate desk.registry raw, some ending⟩

namespace Visit

variable {desk : Desk} {v v' : Visit} {event : Event} {events : List Event} {counted : Tally}

/-! ### The invariant -/

/-- What holds of the run that is going on, or that is done, where a visit is. -/
def AtPhase (desk : Desk) (v : Visit) : Prop :=
  match v.phase with
  | .received => v.stages = [.received] ∧ v.ending = none
  | .prompted | .waiting =>
      desk.Admits v.query ∧ v.stages = [.received, .safetyChecked, .prompted] ∧ v.ending = none
  | .invoked raw =>
      desk.Admits v.query ∧ v.stages = [.received, .safetyChecked, .prompted, .invoked] ∧
        ∃ ending, v.ending = some ending ∧ ending.outcome = .ok raw
  | .decided outcome => desk.Concludes v.query ⟨v.stages ++ [.done], outcome, v.ending⟩
  | .returned run => desk.Concludes v.query run
  | .answered run =>
      desk.Concludes v.query run ∧ ¬ (isRetryable run.outcome = true ∧ v.number < v.last)
  | .pausing | .abandoned => v.retried ≠ []

/-- What holds of a visit between any two steps. -/
structure Sound (desk : Desk) (v : Visit) : Prop where
  here : v.AtPhase desk
  /-- Only failures that may pass were retried, -/
  retried : ∀ run ∈ v.retried, desk.Concludes v.query run ∧ isRetryable run.outcome = true
  /-- the attempts were counted without overflow, -/
  numbered : v.number.toNat = v.retried.length + v.phase.unretried
  /-- and stay within the limit. -/
  within : v.retried = [] ∨ v.retried.length < v.last.toNat

theorem sound_fresh (desk : Desk) (query : String) (policy : RetryPolicy) :
    (fresh query policy).Sound desk where
  here := ⟨rfl, rfl⟩
  retried := by
    intro run member
    cases member
  numbered := rfl
  within := .inl rfl

/-- Within a run only what is known of the run changes. -/
theorem Sound.within_run {phase : Phase} {stages : List Stage} {ending : Option Ending}
    (sound : v.Sound desk) (unretried : phase.unretried = v.phase.unretried)
    (here : AtPhase desk { v with phase := phase, stages := stages, ending := ending }) :
    Sound desk { v with phase := phase, stages := stages, ending := ending } where
  here := here
  retried := sound.retried
  numbered := by rw [unretried]; exact sound.numbered
  within := sound.within

/-- After a retry was decided the pause begins. -/
theorem Sound.retry {run : Finished} (sound : v.Sound desk) (here : v.phase = .returned run)
    (retryable : isRetryable run.outcome = true) (below : v.number < v.last) :
    Sound desk { v with phase := .pausing, retried := v.retried ++ [run] } where
  here := List.append_ne_nil_of_right_ne_nil _ (List.cons_ne_nil _ _)
  retried := by
    have concludes := sound.here
    rw [AtPhase, here] at concludes
    intro other member
    rcases List.mem_append.mp member with before | last
    · exact sound.retried other before
    · rw [List.mem_singleton.mp last]
      exact ⟨concludes, retryable⟩
  numbered := by
    have numbered := sound.numbered
    rw [here] at numbered
    rw [List.length_append]
    exact numbered
  within := by
    have numbered := sound.numbered
    have bound := UInt32.lt_iff_toNat_lt.mp below
    rw [here] at numbered
    right
    rw [List.length_append]
    exact numbered ▸ bound

/-- After the pause comes the next attempt. -/
theorem Sound.resume (sound : v.Sound desk) (here : v.phase = .pausing) :
    Sound desk { v with
      number := v.number + 1, phase := .received, stages := [.received], ending := none } where
  here := ⟨rfl, rfl⟩
  retried := sound.retried
  numbered := by
    have numbered : v.number.toNat = v.retried.length := by
      have numbered := sound.numbered
      rw [here] at numbered
      exact numbered
    have fits : v.retried.length + 1 < 2 ^ 32 := by
      have size := v.last.toNat_lt
      rcases sound.within with none | below
      · rw [none]
        decide
      · omega
    rw [UInt32.toNat_add, numbered]
    exact Nat.mod_eq_of_lt fits
  within := sound.within

/-- Every step keeps the invariant. -/
theorem sound_step (step : v.Step desk event v' counted) (sound : v.Sound desk) :
    v'.Sound desk := by
  have now := sound.here
  unfold AtPhase at now
  cases step with
  | blank here blank =>
      rw [here] at now
      refine sound.within_run (by rw [here]; rfl) ?_
      show desk.Concludes v.query ⟨v.stages ++ [.done], _, v.ending⟩
      rw [now.1, now.2]
      exact .blank blank
  | blocked here notBlank blocked =>
      rw [here] at now
      refine sound.within_run (by rw [here]; rfl) ?_
      show desk.Concludes v.query ⟨v.stages ++ [.done], _, v.ending⟩
      rw [now.1, now.2]
      exact .blocked notBlank blocked
  | admitted here admits =>
      rw [here] at now
      refine sound.within_run (by rw [here]; rfl) ⟨admits, ?_, now.2⟩
      rw [now.1]
      rfl
  | ask here =>
      rw [here] at now
      exact sound.within_run (by rw [here]; rfl) now
  | failed here failed =>
      have now : desk.Admits v.query ∧ v.stages = [.received, .safetyChecked, .prompted] ∧
          v.ending = none := by
        rcases here with here | ⟨here, -⟩ <;> rwa [here] at now
      refine sound.within_run (by rcases here with here | ⟨here, -⟩ <;> rw [here] <;> rfl) ?_
      show desk.Concludes v.query ⟨v.stages ++ [.done], _, _⟩
      rw [now.2.1]
      exact .failed now.1 failed
  | @delivered ending raw here delivered =>
      rw [here] at now
      obtain ⟨admits, stages, -⟩ := now
      refine sound.within_run (by rw [here]; rfl) ⟨admits, ?_, ending, rfl, delivered⟩
      rw [stages]
      rfl
  | validate here =>
      rw [here] at now
      obtain ⟨admits, stages, ending, ended, delivered⟩ := now
      refine sound.within_run (by rw [here]; rfl) ?_
      show desk.Concludes v.query ⟨(v.stages ++ [.validated]) ++ [.done], _, v.ending⟩
      rw [stages, ended]
      exact .delivered admits delivered
  | count here =>
      rw [here] at now
      exact sound.within_run (by rw [here]; rfl) now
  | retry here retryable below => exact sound.retry here retryable below
  | answer here stays =>
      rw [here] at now
      exact sound.within_run (by rw [here]; rfl) ⟨now, stays⟩
  | resume here => exact sound.resume here
  | abandon here =>
      rw [here] at now
      exact sound.within_run (by rw [here]; rfl) now

/-! ### The counters -/

/-- What the run that is going on has added to the counters. -/
def pending (v : Visit) : Tally :=
  if v.phase.isOpen && v.ending.isSome then Tally.latency else 0

/-- What a visit has added to the counters. -/
def tally (v : Visit) : Tally :=
  (v.finished.map Finished.tally).sum + v.pending + v.retried.length • Tally.retry

theorem tally_fresh (query : String) (policy : RetryPolicy) : (fresh query policy).tally = 0 := rfl

theorem finished_of_open (isOpen : v.phase.isOpen = true) : v.finished = v.retried := by
  cases here : v.phase with
  | received | prompted | waiting | invoked | decided =>
      rw [finished, here]
      exact List.append_nil _
  | returned | pausing | answered | abandoned =>
      rw [here] at isOpen
      cases isOpen

theorem tally_of_open (isOpen : v.phase.isOpen = true) :
    v.tally = (v.retried.map Finished.tally).sum +
      (if v.ending.isSome then Tally.latency else 0) + v.retried.length • Tally.retry := by
  rw [tally, finished_of_open isOpen, pending, isOpen, Bool.true_and]

/-- Within a run nothing is counted as long as its exchange goes on. -/
theorem tally_within_run {phase : Phase} {stages : List Stage} (isOpen : v.phase.isOpen = true)
    (stays : phase.isOpen = true) :
    tally { v with phase := phase, stages := stages } = v.tally + 0 := by
  rw [tally_of_open isOpen, tally_of_open stays, add_zero]

/-- The end of the exchange is counted. -/
theorem tally_exchanged {phase : Phase} {stages : List Stage} {ending : Ending}
    (isOpen : v.phase.isOpen = true) (stays : phase.isOpen = true) (before : v.ending = none) :
    tally { v with phase := phase, stages := stages, ending := some ending } =
      v.tally + Tally.latency := by
  rw [tally_of_open isOpen, tally_of_open stays, before]
  simp only [Option.isSome_some, Option.isSome_none, if_true, Bool.false_eq_true, if_false]
  abel

/-- The end of the run is counted. -/
theorem tally_count {outcome : Outcome} (here : v.phase = .decided outcome) :
    tally { v with phase := .returned ⟨v.stages ++ [.done], outcome, v.ending⟩ } =
      v.tally + Tally.ofOutcome outcome := by
  have isOpen : v.phase.isOpen = true := by rw [here]; rfl
  rw [tally_of_open isOpen]
  simp only [tally, finished, pending, Phase.finished, Phase.isOpen, Bool.false_and,
    Bool.false_eq_true, if_false, List.map_append, List.sum_append, List.map_cons, List.map_nil,
    List.sum_singleton, Finished.tally]
  abel

/-- So is a retry. -/
theorem tally_retry {run : Finished} (here : v.phase = .returned run) :
    tally { v with phase := .pausing, retried := v.retried ++ [run] } =
      v.tally + Tally.retry := by
  simp only [tally, finished, pending, here, Phase.finished, Phase.isOpen, Bool.false_and,
    Bool.false_eq_true, if_false, List.append_nil, List.length_append, List.length_singleton,
    succ_nsmul, add_assoc]

/-- Every step adds to the counters what the visit has added by then. -/
theorem tally_step (step : v.Step desk event v' counted) (sound : v.Sound desk) :
    v'.tally = v.tally + counted := by
  have now := sound.here
  unfold AtPhase at now
  cases step with
  | blank here | blocked here | admitted here | ask here | validate here =>
      exact tally_within_run (by rw [here]; rfl) rfl
  | failed here failed =>
      have before : v.ending = none := by
        rcases here with here | ⟨here, -⟩ <;> rw [here] at now <;> exact now.2.2
      exact tally_exchanged (by rcases here with here | ⟨here, -⟩ <;> rw [here] <;> rfl) rfl before
  | delivered here delivered =>
      rw [here] at now
      exact tally_exchanged (by rw [here]; rfl) rfl now.2.2
  | count here => exact tally_count here
  | retry here retryable below => exact tally_retry here
  | answer here stays => simp [tally, finished, pending, here, Phase.finished, Phase.isOpen]
  | resume here => simp [tally, finished, pending, here, Phase.finished, Phase.isOpen]
  | abandon here => simp [tally, finished, pending, here, Phase.finished, Phase.isOpen]

/-- How many exchanges are over. -/
def exchanges (v : Visit) : Nat :=
  v.finished.countP (·.ending.isSome) +
    if v.phase.isOpen && v.ending.isSome then 1 else 0

/-- How many runs have come to their exchange. -/
def prompted (v : Visit) : Nat :=
  v.finished.countP (·.stages.contains .prompted) +
    if v.phase.isOpen && v.stages.contains .prompted then 1 else 0

theorem counts_pending (v : Visit) :
    v.pending.questions = 0 ∧ v.pending.retries = 0 ∧
      v.pending.latencies = if v.phase.isOpen && v.ending.isSome then 1 else 0 := by
  rw [pending]
  cases v.phase.isOpen && v.ending.isSome <;> exact ⟨rfl, rfl, rfl⟩

/-- What a visit has added to the counters, one by one. -/
theorem counts_tally (v : Visit) :
    v.tally.questions = v.finished.length ∧ v.tally.latencies = v.exchanges ∧
      v.tally.retries = v.retried.length := by
  obtain ⟨questions, retries, latencies⟩ := Finished.counts_sum v.finished
  obtain ⟨noQuestion, noRetry, pending⟩ := v.counts_pending
  rw [tally, Tally.nsmul_retry]
  refine ⟨?_, ?_, ?_⟩
  · rw [Tally.add_questions, Tally.add_questions, questions, noQuestion]
    rfl
  · rw [Tally.add_latencies, Tally.add_latencies, latencies, pending]
    rfl
  · rw [Tally.add_retries, Tally.add_retries, retries, noRetry]
    exact Nat.zero_add _

/-- A run that had an exchange has come to it. -/
theorem prompted_of_ending {query : String} {run : Finished}
    (concludes : desk.Concludes query run) (ended : run.ending.isSome = true) :
    run.stages.contains .prompted = true := by
  cases concludes with
  | blank | blocked => cases ended
  | failed | delivered => rfl

/-- Every finished run of a visit is one that its question can have been done with. -/
theorem Sound.concludes (sound : v.Sound desk) :
    ∀ run ∈ v.finished, desk.Concludes v.query run := by
  have now := sound.here
  unfold AtPhase at now
  intro run member
  rcases List.mem_append.mp member with before | last
  · exact (sound.retried run before).1
  · cases here : v.phase with
    | returned done =>
        rw [here] at now last
        rw [List.mem_singleton.mp last]
        exact now
    | answered done =>
        rw [here] at now last
        rw [List.mem_singleton.mp last]
        exact now.1
    | received | prompted | waiting | invoked | decided | pausing | abandoned =>
        rw [here] at last
        cases last

/-- Exchanges are over only where runs have come to them. -/
theorem exchanges_le_prompted (sound : v.Sound desk) : v.exchanges ≤ v.prompted := by
  have finished : v.finished.countP (·.ending.isSome) ≤
      v.finished.countP (·.stages.contains .prompted) :=
    List.countP_mono_left fun run member => prompted_of_ending (sound.concludes run member)
  have current : v.phase.isOpen = true → v.ending.isSome = true →
      v.stages.contains .prompted = true := by
    intro isOpen ended
    have now := sound.here
    unfold AtPhase at now
    cases here : v.phase with
    | received =>
        rw [here] at now
        rw [now.2] at ended
        cases ended
    | prompted | waiting =>
        rw [here] at now
        rw [now.2.1]
        rfl
    | invoked raw =>
        rw [here] at now
        rw [now.2.1]
        rfl
    | decided outcome =>
        rw [here] at now
        have reached := prompted_of_ending now ended
        simpa using reached
    | returned | pausing | answered | abandoned =>
        rw [here] at isOpen
        cases isOpen
  rw [exchanges, prompted]
  by_cases atEnd : (v.phase.isOpen && v.ending.isSome) = true
  · obtain ⟨isOpen, ended⟩ := Bool.and_eq_true_iff.mp atEnd
    rw [current isOpen ended, isOpen, ended]
    exact Nat.add_le_add_right finished 1
  · rw [if_neg atEnd]
    exact finished.trans (Nat.le_add_right _ _)

/-! ### Whole plays -/

/-- What a visit is about never changes. -/
theorem step_keeps (step : v.Step desk event v' counted) :
    v'.query = v.query ∧ v'.last = v.last := by
  cases step <;> exact ⟨rfl, rfl⟩

/-- After any steps the invariant holds, and what they count is what the visit has added. -/
theorem play_sound (sound : v.Sound desk) (played : v.play? desk events = some (v', counted)) :
    v'.Sound desk ∧ v'.tally = v.tally + counted ∧ v'.query = v.query ∧ v'.last = v.last := by
  induction events generalizing v counted with
  | nil =>
      cases played
      exact ⟨sound, (add_zero _).symm, rfl, rfl⟩
  | cons event rest ih =>
      obtain ⟨⟨next, first⟩, taken, later⟩ := Option.bind_eq_some_iff.mp played
      obtain ⟨⟨final, others⟩, playedRest, ends⟩ := Option.map_eq_some_iff.mp later
      cases ends
      have step := step_of_next taken
      obtain ⟨query, last⟩ := step_keeps step
      obtain ⟨soundFinal, tallied, sameQuery, sameLast⟩ := ih (sound_step step sound) playedRest
      refine ⟨soundFinal, ?_, sameQuery.trans query, sameLast.trans last⟩
      rw [tallied, tally_step step sound, add_assoc]

end Visit

end StudyDesk
