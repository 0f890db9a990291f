/-
Module: StudyDesk.Proofs.Session.Alone
Purpose: Step by step a question comes to the records that the loop of attempts gives it, and to no
  others.
Main exports:
  Desk.Loop, Desk.attempt_loop, Desk.Loop.attained, Visit.Sound.loop, Visit.play_loop,
  Visit.Agrees, Visit.play_of_runWithRetry, Visit.runWithRetry_of_play
-/
import StudyDesk.Proofs.Session.Steps

namespace StudyDesk

/-- What a run has in common with the record that the machine keeps of it. -/
def Run.summary (run : Run) : List Stage × Outcome := (run.stages, run.outcome)

@[inherit_doc Run.summary]
def Finished.summary (run : Finished) : List Stage × Outcome := (run.stages, run.outcome)

namespace Desk

variable {desk : Desk} {service : Service} {cancel : Option Nat} {query : String}
  {start nextCall : Nat} {race : Race} {run : Run} {finished : Finished}

/-! ### One run -/

/-- A run whose exchange ended in the same way has the same trace and the same outcome. -/
theorem Course.summary_eq (course : Course desk service cancel query start nextCall race run)
    (concludes : desk.Concludes query finished)
    (same : ∀ ending, finished.ending = some ending →
      (desk.stage service cancel start nextCall race).outcome = ending.outcome) :
    run.summary = finished.summary := by
  have stagesOf := course.stages
  cases concludes with
  | blank blank =>
      have stages := course.atOnce_iff.mpr (.inl blank)
      have outcome := course.of_blank blank
      rw [Run.summary, stages, outcome, Finished.summary]
  | blocked notBlank blocked =>
      have stages := course.atOnce_iff.mpr (.inr blocked)
      have outcome := course.of_blocked notBlank blocked
      rw [Run.summary, stages, outcome, Finished.summary]
  | @failed ending fault admits failed =>
      have ended := (same ending rfl).trans failed
      have stages := course.withoutReply_iff.mpr ⟨admits, fault, ended⟩
      have outcome := course.of_failed admits ended
      rw [Run.summary, stages, outcome, Finished.summary]
  | @delivered ending raw admits delivered =>
      have ended := (same ending rfl).trans delivered
      have stages := course.complete_iff.mpr ⟨admits, raw, ended⟩
      have outcome := course.of_delivered admits ended
      rw [Run.summary, stages, outcome, Finished.summary]

/-- Every exchange ended in one of the ways that the machine knows. -/
theorem exists_ending (desk : Desk) (service : Service) (cancel : Option Nat)
    (start nextCall : Nat) (race : Race) :
    ∃ ending : Ending, (desk.stage service cancel start nextCall race).outcome = ending.outcome := by
  have ends := desk.stage_ends service cancel start nextCall race
  cases ended : desk.stage service cancel start nextCall race with
  | mk outcome finish asked =>
      rw [ended] at ends
      cases ends with
      | reply => exact ⟨.reply (service nextCall).outcome, rfl⟩
      | limit => exact ⟨.limit, rfl⟩
      | cancellation => exact ⟨.cancellation, rfl⟩

/-- Every run is one that the machine can come to. -/
theorem Course.concludes (course : Course desk service cancel query start nextCall race run) :
    ∃ finished, desk.Concludes query finished ∧ run.summary = finished.summary := by
  obtain ⟨ending, ended⟩ := desk.exists_ending service cancel start nextCall race
  cases course with
  | blank blank => exact ⟨_, .blank blank, rfl⟩
  | blocked notBlank blocked => exact ⟨_, .blocked notBlank blocked, rfl⟩
  | failed admits failed => exact ⟨_, .failed admits (ended.symm.trans failed), rfl⟩
  | delivered admits delivered => exact ⟨_, .delivered admits (ended.symm.trans delivered), rfl⟩

/-- A run that is retried had an exchange, and nobody cancelled it. -/
theorem Concludes.of_retryable (concludes : desk.Concludes query finished)
    (retryable : isRetryable finished.outcome = true) :
    desk.Admits query ∧ finished.ending ≠ some .cancellation := by
  cases concludes with
  | blank | blocked => cases retryable
  | @failed ending fault admits failed =>
      refine ⟨admits, ?_⟩
      rintro ⟨⟩
      cases failed
      cases retryable
  | delivered =>
      rw [isRetryable_validate] at retryable
      cases retryable

/-! ### All attempts

What the loop of attempts comes to, without its times: the runs, and the number of retries.  The number
of retries is that of the runs but one, unless a cancellation came into a pause.
-/

/-- The runs that a question can have from an attempt on, and how many of them were retried. -/
inductive Loop (desk : Desk) (query : String) (last : UInt32) :
    UInt32 → List Finished → Nat → Prop where
  | answered {number : UInt32} {run : Finished} (concludes : desk.Concludes query run)
      (stays : ¬ (isRetryable run.outcome = true ∧ number < last)) :
      Loop desk query last number [run] 0
  | abandoned {number : UInt32} {run : Finished} (concludes : desk.Concludes query run)
      (retryable : isRetryable run.outcome = true) (below : number < last) :
      Loop desk query last number [run] 1
  | again {number : UInt32} {run : Finished} {rest : List Finished} {retries : Nat}
      (concludes : desk.Concludes query run) (retryable : isRetryable run.outcome = true)
      (below : number < last) (later : Loop desk query last (number + 1) rest retries) :
      Loop desk query last number (run :: rest) (retries + 1)

/-- The record of all attempts has those runs, those retries, and the outcome of the last run. -/
structure Shows (records : List Finished) (retries : Nat) (attempts : Attempts) : Prop where
  runs : attempts.runs.map Run.summary = records.map Finished.summary
  retries : attempts.retries = retries
  outcome : some attempts.outcome = records.getLast?.map Finished.outcome

theorem outcome_eq_of_summary (same : run.summary = finished.summary) :
    run.outcome = finished.outcome := congrArg Prod.snd same

theorem shows_single {retries finish : Nat} {counter : UInt32}
    (same : run.summary = finished.summary) :
    Shows [finished] retries ⟨[run], retries, run.outcome, finish, counter⟩ where
  runs := congrArg (fun summary => [summary]) same
  retries := rfl
  outcome := congrArg some (outcome_eq_of_summary same)

theorem Shows.after {rest : List Finished} {retries : Nat} {later : Attempts}
    (shows : Shows rest retries later) (same : run.summary = finished.summary) :
    Shows (finished :: rest) (retries + 1) (later.after run) where
  runs := by rw [Attempts.after, List.map_cons, List.map_cons, same, shows.runs]
  retries := congrArg (· + 1) shows.retries
  outcome := by
    have outcome := shows.outcome
    rw [List.getLast?_cons]
    cases last : rest.getLast? with
    | none =>
        rw [last] at outcome
        cases outcome
    | some final =>
        rw [last] at outcome
        exact outcome

variable {backoff retries : Nat} {races races' : Nat → Race} {last number : UInt32}
  {records : List Finished}

/-! ### From the loop of attempts to its records -/

/-- Whatever the loop of attempts comes to are records that the question can have. -/
theorem attempt_loop (desk : Desk) (service : Service) (cancel : Option Nat) (backoff : Nat)
    (query : String) (races : Nat → Race) (last number : UInt32) (start nextCall : Nat) :
    ∃ records retries, desk.Loop query last number records retries ∧
      Shows records retries
        (desk.attempt service cancel backoff query races last number start nextCall) := by
  fun_induction desk.attempt service cancel backoff query races last number start nextCall with
  | case1 number start nextCall race run again paused cut =>
      obtain ⟨finished, concludes, same⟩ :=
        (run_course desk service cancel query start nextCall race).concludes
      rw [outcome_eq_of_summary same] at again
      exact ⟨_, _, .abandoned concludes again.1 again.2, shows_single same⟩
  | case2 number start nextCall race run again paused uncut ih =>
      obtain ⟨finished, concludes, same⟩ :=
        (run_course desk service cancel query start nextCall race).concludes
      obtain ⟨records, retries, later, shows⟩ := ih
      rw [outcome_eq_of_summary same] at again
      exact ⟨_, _, .again concludes again.1 again.2 later, shows.after same⟩
  | case3 number start nextCall race run stays =>
      obtain ⟨finished, concludes, same⟩ :=
        (run_course desk service cancel query start nextCall race).concludes
      rw [outcome_eq_of_summary same] at stays
      exact ⟨_, _, .answered concludes stays, shows_single same⟩

/-! ### From the records to a loop of attempts

The service that gives the records says what their exchanges ended with, at once, or never where the
limit ended them.  Where a cancellation ended the last exchange or the last pause, it comes as that
begins; the races of the attempts before are lost to it.
-/

/-- The loop from an attempt on depends on the replies and the races from there on. -/
theorem attempt_congr {service' : Service} (services : ∀ k, nextCall ≤ k → service k = service' k)
    (sameRaces : ∀ k, number.toNat ≤ k → races k = races' k) :
    desk.attempt service cancel backoff query races last number start nextCall =
      desk.attempt service' cancel backoff query races' last number start nextCall := by
  have same : ∀ (number : UInt32) (start nextCall : Nat), service nextCall = service' nextCall →
      races number.toNat = races' number.toNat →
      desk.run service' cancel query start nextCall (races' number.toNat) =
        desk.run service cancel query start nextCall (races number.toNat) := by
    intro number start nextCall sameReply sameRace
    rw [sameRace]
    refine run_congr ?_
    rw [stage, stage, sameReply]
  fun_induction desk.attempt service cancel backoff query races last number start nextCall with
  | case1 number start nextCall race run again paused cut =>
      have sameRace := sameRaces _ (Nat.le_refl _)
      have ran := same number start nextCall (services _ (Nat.le_refl _)) sameRace
      have ends : pause (races' number.toNat) backoff cancel run.finish = (paused.1, true) := by
        rw [← sameRace, ← cut]
      exact (attempt_cut ran again.1 again.2 ends).symm
  | case2 number start nextCall race run again paused uncut ih =>
      have sameRace := sameRaces _ (Nat.le_refl _)
      have ran := same number start nextCall (services _ (Nat.le_refl _)) sameRace
      have ends : pause (races' number.toNat) backoff cancel run.finish = (paused.1, false) := by
        rw [← sameRace, ← Bool.eq_false_of_not_eq_true uncut]
      have next := toNat_next_of_lt again.2
      rw [attempt_again ran again.1 again.2 ends,
        ih (fun k later => services k (by omega)) (fun k later => sameRaces k (by omega))]
  | case3 number start nextCall race run stays =>
      have sameRace := sameRaces _ (Nat.le_refl _)
      have ran := same number start nextCall (services _ (Nat.le_refl _)) sameRace
      exact (attempt_last ran stays).symm

end Desk

/-- A reply after which an exchange ends so. -/
def Ending.asReply : Ending → Reply
  | .reply outcome => ⟨outcome, some 0⟩
  | .limit => ⟨.error .timeout, none⟩
  | .cancellation => ⟨.error .cancelled, none⟩

/-- A reply after which a run ends so. -/
def Finished.asReply (run : Finished) : Reply :=
  run.ending.elim ⟨.error .timeout, none⟩ Ending.asReply

/-- The cancellation of a run that began at an instant, if a cancellation ended it. -/
def Finished.cancelAt (start : Nat) (run : Finished) : Option Nat :=
  match run.ending with
  | some .cancellation => some start
  | _ => none

/-- An exchange that nobody cancels ends with the reply. -/
theorem Ending.awaitReply_asReply {ending : Ending} (uncancelled : ending ≠ .cancellation)
    (limit start : Nat) : (awaitReply ending.asReply limit start).outcome = ending.outcome := by
  cases ending with
  | reply outcome =>
      have inTime : 0 ≤ limit := Nat.zero_le limit
      simp only [awaitReply, asReply, inTime, if_true]
      rfl
  | limit => rfl
  | cancellation => exact absurd rfl uncancelled

namespace Desk

variable {desk : Desk} {service : Service} {cancel : Option Nat} {query : String}
  {start nextCall : Nat} {race : Race} {finished : Finished} {ending : Ending}

/-- A cancellation that is not before the end of an exchange, and loses its race, changes nothing. -/
theorem stage_of_late
    (late : ∀ c, cancel = some c → start + (service nextCall).wait desk.timeoutMs ≤ c)
    (loses : race.beatsExchange = false) :
    desk.stage service cancel start nextCall race =
      awaitReply (service nextCall) desk.timeoutMs start := by
  rw [← awaitReply_finish] at late
  simp only [stage, exchange, loses, cutShort?_of_late late]

/-- One that is there when the exchange begins ends it. -/
theorem stage_of_cancelled :
    (desk.stage service (some start) start nextCall .toCancellation).outcome =
      .error .cancelled := by
  have forward : start ≤ (awaitReply (service nextCall) desk.timeoutMs start).finish := by
    rw [awaitReply_finish]
    exact Nat.le_add_right _ _
  simp only [stage, exchange, Race.toCancellation, cutShort?_of_early forward]

/-- Nor does it change a pause, -/
theorem pause_of_late {backoff : Nat} (late : ∀ c, cancel = some c → start + backoff ≤ c)
    (loses : race.beatsPause = false) : pause race backoff cancel start = (start + backoff, false) := by
  simp only [pause, loses, cutShort?_of_late late]

/-- unless it is there when the pause begins. -/
theorem pause_of_cancelled {backoff : Nat} (wins : race.beatsPause = true) :
    pause race backoff (some start) start = (start, true) := by
  simp only [pause, wins, cutShort?_of_early (Nat.le_add_right start backoff)]

/-- With its reply and its cancellation, the exchange of a run ends as it did. -/
theorem stage_asReply (replies : service nextCall = finished.asReply)
    (ended : finished.ending = some ending) :
    (desk.stage service (finished.cancelAt start) start nextCall .toCancellation).outcome =
      ending.outcome := by
  by_cases cancelled : ending = .cancellation
  · rw [cancelled] at ended ⊢
    rw [Finished.cancelAt, ended]
    exact stage_of_cancelled
  · have uncancelled : finished.cancelAt start = none := by
      rw [Finished.cancelAt, ended]
      cases ending with
      | reply | limit => rfl
      | cancellation => exact absurd rfl cancelled
    rw [uncancelled, stage, exchange_none, replies, Finished.asReply, ended]
    exact Ending.awaitReply_asReply cancelled _ _

/-- A run that is retried is the same under a later cancellation that loses its race. -/
theorem run_of_retried {run : Run} (ran : desk.run service cancel query start nextCall race = run)
    (concludes : desk.Concludes query finished)
    (retryable : isRetryable finished.outcome = true) (replies : service nextCall = finished.asReply)
    (late : ∀ c, cancel = some c → start + finished.asReply.wait desk.timeoutMs ≤ c)
    (loses : race.beatsExchange = false) :
    run.summary = finished.summary ∧
      run.finish = start + finished.asReply.wait desk.timeoutMs ∧ run.calls.length = 1 := by
  obtain ⟨admits, uncancelled⟩ := concludes.of_retryable retryable
  have course := run_course desk service cancel query start nextCall race
  rw [ran] at course
  rw [← replies] at late
  have staged := stage_of_late late loses
  obtain ⟨calls, finish⟩ := course.busy admits
  refine ⟨course.summary_eq concludes ?_, ?_, ?_⟩
  · intro ending ended
    rw [staged, replies, Finished.asReply, ended]
    refine Ending.awaitReply_asReply ?_ _ _
    rintro rfl
    exact uncancelled ended
  · rw [finish, staged, awaitReply_finish, replies]
  · have asked : (desk.stage service cancel start nextCall race).asked = true := by
      rw [staged]
      rcases awaitReply_cases (service nextCall) desk.timeoutMs start with
        ⟨_, _, _, ended⟩ | ⟨_, ended⟩ <;> rw [ended]
    rw [calls, asked]
    rfl

variable {backoff retries : Nat} {last number : UInt32} {records : List Finished}

/-- The loop of attempts comes to those records from some attempt on, for some service and some
cancellation that is not before the attempt. -/
def Attained (desk : Desk) (query : String) (last number : UInt32) (backoff start nextCall : Nat)
    (records : List Finished) (retries : Nat) : Prop :=
  ∃ service cancel races, (∀ c, cancel = some c → start ≤ c) ∧
    Shows records retries
      (desk.attempt service cancel backoff query races last number start nextCall)

theorem attained_answered (concludes : desk.Concludes query finished)
    (stays : ¬ (isRetryable finished.outcome = true ∧ number < last)) :
    desk.Attained query last number backoff start nextCall [finished] 0 := by
  let service : Service := fun _ => finished.asReply
  have course := run_course desk service (finished.cancelAt start) query start nextCall
    .toCancellation
  have same := course.summary_eq concludes fun ending ended => stage_asReply rfl ended
  rw [← outcome_eq_of_summary same] at stays
  have ends : desk.attempt service (finished.cancelAt start) backoff query
      (fun _ => .toCancellation) last number start nextCall = ⟨[_], 0, _, _, number⟩ :=
    attempt_last rfl stays
  refine ⟨service, finished.cancelAt start, fun _ => .toCancellation, ?_, ?_⟩
  · intro c fired
    rw [Finished.cancelAt] at fired
    split at fired
    · cases fired
      exact Nat.le_refl start
    · cases fired
  · rw [ends]
    exact shows_single same

theorem attained_abandoned (concludes : desk.Concludes query finished)
    (retryable : isRetryable finished.outcome = true) (below : number < last) :
    desk.Attained query last number backoff start nextCall [finished] 1 := by
  let service : Service := fun _ => finished.asReply
  let instant := start + finished.asReply.wait desk.timeoutMs
  let race : Race := ⟨false, true⟩
  obtain ⟨run, ran⟩ : ∃ run, desk.run service (some instant) query start nextCall race = run :=
    ⟨_, rfl⟩
  obtain ⟨same, finish, -⟩ := run_of_retried ran concludes retryable rfl
    (by rintro _ ⟨⟩; exact Nat.le_refl _) rfl
  have paused : pause race backoff (some instant) run.finish = (instant, true) := by
    rw [finish]
    exact pause_of_cancelled rfl
  rw [← outcome_eq_of_summary same] at retryable
  have ends : desk.attempt service (some instant) backoff query (fun _ => race) last number
      start nextCall = ⟨[run], 1, run.outcome, instant, number⟩ :=
    attempt_cut ran retryable below paused
  refine ⟨service, some instant, fun _ => race, ?_, ?_⟩
  · rintro _ ⟨⟩
    exact Nat.le_add_right _ _
  · rw [ends]
    exact shows_single same

theorem attained_again {rest : List Finished} (concludes : desk.Concludes query finished)
    (retryable : isRetryable finished.outcome = true) (below : number < last)
    (later : desk.Attained query last (number + 1) backoff
      (start + finished.asReply.wait desk.timeoutMs + backoff) (nextCall + 1) rest retries) :
    desk.Attained query last number backoff start nextCall (finished :: rest) (retries + 1) := by
  obtain ⟨service, cancel, races, late, shows⟩ := later
  -- the reply and the race of this attempt come in front of those of the others
  let services : Service := fun k => if k = nextCall then finished.asReply else service k
  let allRaces : Nat → Race := fun k => if k = number.toNat then ⟨false, false⟩ else races k
  have replies : services nextCall = finished.asReply := if_pos rfl
  have first : allRaces number.toNat = ⟨false, false⟩ := if_pos rfl
  obtain ⟨run, ran⟩ : ∃ run, desk.run services cancel query start nextCall
      (allRaces number.toNat) = run := ⟨_, rfl⟩
  obtain ⟨same, finish, calls⟩ := run_of_retried ran concludes retryable replies
    (fun c fired => (Nat.le_add_right _ backoff).trans (late c fired)) (by rw [first])
  have paused : pause (allRaces number.toNat) backoff cancel run.finish =
      (start + finished.asReply.wait desk.timeoutMs + backoff, false) := by
    rw [finish, first]
    exact pause_of_late late rfl
  rw [← outcome_eq_of_summary same] at retryable
  have next := toNat_next_of_lt below
  have continues : ∀ start, desk.attempt services cancel backoff query allRaces last (number + 1)
      start (nextCall + 1) =
        desk.attempt service cancel backoff query races last (number + 1) start (nextCall + 1) := by
    intro start
    refine attempt_congr ?_ ?_
    · intro k later
      exact if_neg (by omega)
    · intro k later
      exact if_neg (by omega)
  refine ⟨services, cancel, allRaces, ?_, ?_⟩
  · intro c fired
    have after := late c fired
    omega
  · rw [attempt_again ran retryable below paused, calls, continues]
    exact shows.after same

/-- Whatever records a question can have, the loop of attempts comes to them. -/
theorem Loop.attained (loop : desk.Loop query last number records retries) (backoff : Nat)
    (start nextCall : Nat) :
    desk.Attained query last number backoff start nextCall records retries := by
  induction loop generalizing start nextCall with
  | answered concludes stays => exact attained_answered concludes stays
  | abandoned concludes retryable below => exact attained_abandoned concludes retryable below
  | again concludes retryable below later ih =>
      exact attained_again concludes retryable below (ih _ _)

/-- Retried runs in front of records make records again. -/
theorem Loop.of_earlier {earlier : List Finished} {final : UInt32}
    (retried : ∀ run ∈ earlier, desk.Concludes query run ∧ isRetryable run.outcome = true)
    (counted : final.toNat = number.toNat + earlier.length)
    (within : earlier = [] ∨ number.toNat + earlier.length ≤ last.toNat)
    (loop : desk.Loop query last final records retries) :
    desk.Loop query last number (earlier ++ records) (retries + earlier.length) := by
  induction earlier generalizing number with
  | nil =>
      obtain rfl : final = number := UInt32.toNat_inj.mp counted
      exact loop
  | cons run rest ih =>
      rw [List.length_cons] at counted within
      have room := within.resolve_left (List.cons_ne_nil run rest)
      have below : number < last := UInt32.lt_iff_toNat_lt.mpr (by omega)
      have next := toNat_next_of_lt below
      obtain ⟨concludes, retryable⟩ := retried run List.mem_cons_self
      have later : desk.Loop query last (number + 1) (rest ++ records) (retries + rest.length) :=
        ih (fun other member => retried other (List.mem_cons_of_mem run member))
          (by omega) (.inr (by omega))
      exact .again concludes retryable below later

end Desk

namespace Visit

variable {desk : Desk} {v v' v'' : Visit} {events more : List Event} {counted counted' : Tally}
  {query : String} {policy : RetryPolicy}

/-! ### From the machine to the records -/

/-- A visit that is over has records that the question can have. -/
theorem Sound.loop (sound : v.Sound desk) (atEnd : v.phase.isOver = true) :
    desk.Loop v.query v.last 1 v.finished v.retried.length := by
  have now := sound.here
  have numbered := sound.numbered
  have one : (1 : UInt32).toNat = 1 := rfl
  unfold AtPhase at now
  cases here : v.phase with
  | answered run =>
      rw [here] at now numbered
      have last : desk.Loop v.query v.last v.number [run] 0 := .answered now.1 now.2
      have counted : v.number.toNat = (1 : UInt32).toNat + v.retried.length := by
        rw [numbered, one, Nat.add_comm]
        rfl
      have within := sound.within.imp_right (Nat.succ_le_of_lt ·)
      rw [Nat.succ_eq_one_add, ← one] at within
      have loop := last.of_earlier sound.retried counted within
      rw [Nat.zero_add] at loop
      rw [finished, here]
      exact loop
  | abandoned =>
      rw [here] at now numbered
      -- the last of the runs is the one whose pause was cancelled
      obtain ⟨earlier, run, split⟩ := (List.eq_nil_or_concat' v.retried).resolve_left now
      have retried := sound.retried
      have room := sound.within.resolve_left now
      have attempts : v.number.toNat = v.retried.length := numbered
      rw [split, List.length_append, List.length_singleton] at attempts room
      rw [split] at retried
      obtain ⟨concludes, retryable⟩ := retried run (List.mem_append_right _ List.mem_cons_self)
      have below : v.number < v.last := UInt32.lt_iff_toNat_lt.mpr (by omega)
      have last : desk.Loop v.query v.last v.number [run] 1 :=
        .abandoned concludes retryable below
      have loop : desk.Loop v.query v.last 1 (earlier ++ [run]) (1 + earlier.length) :=
        last.of_earlier (fun other member => retried other (List.mem_append_left _ member))
          (by omega) (.inr (by omega))
      rw [finished, here, split, List.length_append, List.length_singleton, Nat.add_comm]
      exact (List.append_nil (earlier ++ [run])).symm ▸ loop
  | received | prompted | waiting | invoked | decided | returned | pausing =>
      rw [here] at atEnd
      cases atEnd

/-! ### From the records to the machine -/

theorem play_cons {event : Visit.Event} (step : v.Step desk event v' counted)
    (rest : v'.play? desk events = some (v'', counted')) :
    v.play? desk (event :: events) = some (v'', counted + counted') := by
  rw [play?, next_of_step step, Option.bind_some, rest]
  rfl

theorem play_append (first : v.play? desk events = some (v', counted))
    (second : v'.play? desk more = some (v'', counted')) :
    v.play? desk (events ++ more) = some (v'', counted + counted') := by
  induction events generalizing v counted with
  | nil =>
      cases first
      rw [List.nil_append, second, zero_add]
  | cons event rest ih =>
      obtain ⟨⟨next, one⟩, taken, later⟩ := Option.bind_eq_some_iff.mp first
      obtain ⟨⟨final, others⟩, playedRest, ends⟩ := Option.map_eq_some_iff.mp later
      cases ends
      rw [List.cons_append, play_cons (step_of_next taken) (ih playedRest), add_assoc]

variable {last number : UInt32}

/-- A visit that begins an attempt can come to every run that the question can have. -/
theorem play_run {run : Finished} (concludes : desk.Concludes query run) (last number : UInt32)
    (retried : List Finished) :
    ∃ events counted stages, (begun query last number retried).play? desk events =
      some (⟨query, last, number, .returned run, stages, run.ending, retried⟩, counted) := by
  cases concludes with
  | blank blank =>
      exact ⟨[.proceed, .proceed], _, _, play_cons (.blank rfl blank) (play_cons (.count rfl) rfl)⟩
  | blocked notBlank blocked =>
      exact ⟨[.proceed, .proceed], _, _,
        play_cons (.blocked rfl notBlank blocked) (play_cons (.count rfl) rfl)⟩
  | @failed ending fault admits failed =>
      exact ⟨[.proceed, .proceed, .exchange ending, .proceed], _, _,
        play_cons (.admitted rfl admits) (play_cons (.ask rfl)
          (play_cons (.failed (.inl rfl) failed) (play_cons (.count rfl) rfl)))⟩
  | @delivered ending raw admits delivered =>
      exact ⟨[.proceed, .proceed, .exchange ending, .proceed, .proceed], _, _,
        play_cons (.admitted rfl admits) (play_cons (.ask rfl)
          (play_cons (.delivered rfl delivered) (play_cons (.validate rfl)
            (play_cons (.count rfl) rfl))))⟩

/-- A visit that begins an attempt can come to all the records that the question can have from there
on. -/
theorem play_loop {records : List Finished} {retries : Nat}
    (loop : desk.Loop query last number records retries) (retried : List Finished) :
    ∃ events counted v, (begun query last number retried).play? desk events = some (v, counted) ∧
      v.phase.isOver = true ∧ v.finished = retried ++ records ∧
      v.retried.length = retried.length + retries := by
  induction loop generalizing retried with
  | @answered number run concludes stays =>
      obtain ⟨events, counted, stages, played⟩ :=
        play_run concludes last number retried
      have ends : play? desk ⟨query, last, number, .returned run, stages, run.ending, retried⟩
          [.proceed] = some (⟨query, last, number, .answered run, stages, run.ending, retried⟩, _) :=
        play_cons (.answer rfl stays) rfl
      exact ⟨_, _, _, play_append played ends, rfl, rfl, rfl⟩
  | @abandoned number run concludes retryable below =>
      obtain ⟨events, counted, stages, played⟩ :=
        play_run concludes last number retried
      have ends : play? desk ⟨query, last, number, .returned run, stages, run.ending, retried⟩
          [.proceed, .pause true] =
            some (⟨query, last, number, .abandoned, stages, run.ending, retried ++ [run]⟩, _) :=
        play_cons (.retry rfl retryable below) (play_cons (.abandon rfl) rfl)
      refine ⟨_, _, _, play_append played ends, rfl, List.append_nil _, ?_⟩
      exact List.length_append
  | @again number run rest retries concludes retryable below later ih =>
      obtain ⟨events, counted, stages, played⟩ :=
        play_run concludes last number retried
      obtain ⟨more, countedMore, v, playedMore, atEnd, finished, length⟩ := ih (retried ++ [run])
      have ends : play? desk ⟨query, last, number, .returned run, stages, run.ending, retried⟩
          (.proceed :: .pause false :: more) = some (v, _) :=
        play_cons (.retry rfl retryable below) (play_cons (.resume rfl) playedMore)
      refine ⟨_, _, _, play_append played ends, atEnd, ?_, ?_⟩
      · rw [finished, List.append_assoc]
        rfl
      · rw [length, List.length_append, List.length_singleton, Nat.add_assoc, Nat.add_comm 1]

end Visit

/-! ### The counters -/

/-- What a run adds to the counters, by its trace and its outcome. -/
def tallyOf (summary : List Stage × Outcome) : Tally :=
  if summary.1.contains .prompted then Tally.latency + Tally.ofOutcome summary.2
  else Tally.ofOutcome summary.2

namespace Desk

variable {desk : Desk} {query : String} {finished : Finished} {records : List Finished}
  {retries : Nat} {attempts : Attempts}

theorem Concludes.tally_eq (concludes : desk.Concludes query finished) :
    finished.tally = tallyOf finished.summary := by
  cases concludes with
  | blank | blocked => exact zero_add _
  | failed | delivered => rfl

/-- The loop of attempts counts what the machine counts. -/
theorem Shows.tally_eq (shows : Shows records retries attempts)
    (concludes : ∀ run ∈ records, desk.Concludes query run) :
    attempts.tally = (records.map Finished.tally).sum + retries • Tally.retry := by
  have runs : attempts.runs.map Run.tally = records.map Finished.tally :=
    calc attempts.runs.map Run.tally
        = attempts.runs.map (tallyOf ∘ Run.summary) := rfl
      _ = (attempts.runs.map Run.summary).map tallyOf := List.map_map.symm
      _ = (records.map Finished.summary).map tallyOf := by rw [shows.runs]
      _ = records.map (tallyOf ∘ Finished.summary) := List.map_map
      _ = records.map Finished.tally :=
          List.map_congr_left fun run member => (concludes run member).tally_eq.symm
  rw [Attempts.tally_eq_sum, runs, shows.retries]

end Desk

namespace Visit

variable {desk : Desk} {v : Visit} {events : List Event} {counted : Tally} {query : String}
  {policy : RetryPolicy}

/-- A visit that is over beside the record that the loop of attempts gives: the same runs with the same
outcomes, as many retries, the same last word, and the same counters. -/
structure Agrees (v : Visit) (attempts : Attempts) : Prop where
  atEnd : v.phase.isOver = true
  shows : Desk.Shows v.finished v.retried.length attempts
  tally : attempts.tally = v.tally

theorem Sound.agrees {attempts : Attempts} (sound : v.Sound desk) (atEnd : v.phase.isOver = true)
    (shows : Desk.Shows v.finished v.retried.length attempts) : v.Agrees attempts where
  atEnd := atEnd
  shows := shows
  tally := by
    have closed : v.phase.isOpen = false := by
      cases here : v.phase with
      | answered | abandoned => rfl
      | received | prompted | waiting | invoked | decided | returned | pausing =>
          rw [here] at atEnd
          cases atEnd
    rw [shows.tally_eq sound.concludes, tally, pending, closed, Bool.false_and,
      if_neg Bool.false_ne_true, add_zero]

/-- Whatever the loop of attempts comes to, the machine can come to. -/
theorem play_of_runWithRetry (desk : Desk) (service : Service) (cancel : Option Nat)
    (policy : RetryPolicy) (query : String) (start nextCall : Nat) (races : Nat → Race) :
    ∃ events v counted, (fresh query policy).play? desk events = some (v, counted) ∧
      v.Agrees (desk.runWithRetry service cancel policy query start nextCall races) := by
  obtain ⟨records, retries, loop, shows⟩ := desk.attempt_loop service cancel policy.backoffMs query
    races policy.lastAttempt 1 start nextCall
  obtain ⟨events, counted, v, played, atEnd, finished, length⟩ := play_loop loop []
  obtain ⟨sound, -⟩ := play_sound (sound_fresh desk query policy) played
  rw [List.nil_append] at finished
  rw [List.length_nil, Nat.zero_add] at length
  rw [← finished, ← length] at shows
  exact ⟨events, v, counted, played, sound.agrees atEnd shows⟩

/-- Whatever the machine comes to, the loop of attempts comes to, for some service and some
cancellation. -/
theorem runWithRetry_of_play
    (played : (fresh query policy).play? desk events = some (v, counted))
    (atEnd : v.phase.isOver = true) (start nextCall : Nat) :
    ∃ service cancel races,
      v.Agrees (desk.runWithRetry service cancel policy query start nextCall races) := by
  obtain ⟨sound, -, sameQuery, sameLast⟩ := play_sound (sound_fresh desk query policy) played
  have loop := sound.loop atEnd
  rw [sameQuery, sameLast] at loop
  obtain ⟨service, cancel, races, -, shows⟩ := loop.attained policy.backoffMs start nextCall
  exact ⟨service, cancel, races, sound.agrees atEnd shows⟩

end Visit

end StudyDesk
