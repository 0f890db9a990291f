/-
Module: StudyDesk.Proofs.Session.Interleaving
Purpose: Questions that are at the desk at once do not disturb each other, and the counters balance.
Main exports:
  Ticket, Hall, Hall.play?, Hall.own, Hall.alone_of_play, Hall.play_of_alone, Hall.play_of_solo,
  Hall.Law, Hall.play_obeys_law
-/
import Mathlib.Algebra.BigOperators.Pi
import Mathlib.Algebra.Order.BigOperators.Group.Finset
import StudyDesk.Proofs.Session.Alone

namespace StudyDesk

/-- A question with the policy for its attempts; one that is run by itself has the policy that allows
no retry. -/
structure Ticket where
  query : String
  policy : RetryPolicy

/-- The visit of a question that comes in. -/
def Ticket.fresh (ticket : Ticket) : Visit := Visit.fresh ticket.query ticket.policy

/-- The questions at one desk, and what has been counted since they came in. -/
structure Hall (ι : Type) where
  visits : ι → Visit
  tally : Tally

namespace Hall

variable {ι : Type} [DecidableEq ι]

/-- All questions come in. -/
def opened (tickets : ι → Ticket) : Hall ι := ⟨fun i => (tickets i).fresh, 0⟩

/-- One of the visits has moved on and counted something; the others are where they were. -/
def moved (hall : Hall ι) (i : ι) (v : Visit) (counted : Tally) : Hall ι :=
  ⟨Function.update hall.visits i v, hall.tally + counted⟩

/-- A step of one of the visits. -/
def next? (desk : Desk) (hall : Hall ι) (i : ι) (event : Visit.Event) : Option (Hall ι) :=
  ((hall.visits i).next? desk event).map fun next => hall.moved i next.1 next.2

/-- One step after the other, in any order of the visits. -/
def play? (desk : Desk) (hall : Hall ι) : List (ι × Visit.Event) → Option (Hall ι)
  | [] => some hall
  | (i, event) :: rest => (hall.next? desk i event).bind fun next => next.play? desk rest

/-- The steps that a visit takes itself. -/
def own (trace : List (ι × Visit.Event)) (i : ι) : List Visit.Event :=
  (trace.filter (·.1 = i)).map Prod.snd

variable {desk : Desk} {hall hall' : Hall ι} {trace : List (ι × Visit.Event)} {i j : ι}
  {v : Visit} {counted : Tally}

theorem visits_moved_self : (hall.moved i v counted).visits i = v := Function.update_self ..

theorem visits_moved_of_ne (other : i ≠ j) : (hall.moved j v counted).visits i = hall.visits i :=
  Function.update_of_ne other ..

theorem own_cons_self (i : ι) (event : Visit.Event) (trace : List (ι × Visit.Event)) :
    own ((i, event) :: trace) i = event :: own trace i := by
  simp [own]

theorem own_cons_of_ne (other : i ≠ j) (event : Visit.Event) (trace : List (ι × Visit.Event)) :
    own ((j, event) :: trace) i = own trace i := by
  simp [own, other.symm]

/-! ### Each visit by itself -/

variable [Fintype ι]

/-- Each visit goes as its own steps alone take it, and the counters take up what each of them
counts. -/
theorem alone_of_play (played : hall.play? desk trace = some hall') :
    ∃ counted : ι → Tally,
      (∀ i, (hall.visits i).play? desk (own trace i) = some (hall'.visits i, counted i)) ∧
        hall'.tally = hall.tally + ∑ i, counted i := by
  induction trace generalizing hall with
  | nil =>
      cases played
      refine ⟨fun _ => 0, fun _ => rfl, ?_⟩
      rw [Finset.sum_const_zero, add_zero]
  | cons step rest ih =>
      obtain ⟨j, event⟩ := step
      obtain ⟨between, taken, playedRest⟩ := Option.bind_eq_some_iff.mp played
      obtain ⟨⟨v, first⟩, moves, rfl⟩ := Option.map_eq_some_iff.mp taken
      obtain ⟨later, alone, tallied⟩ := ih playedRest
      refine ⟨Pi.single j first + later, ?_, ?_⟩
      · intro i
        have goesOn := alone i
        by_cases same : i = j
        · subst same
          rw [visits_moved_self] at goesOn
          rw [own_cons_self, Visit.play?, moves, Option.bind_some, goesOn, Pi.add_apply,
            Pi.single_eq_same]
          rfl
        · rw [visits_moved_of_ne same] at goesOn
          rw [own_cons_of_ne same, goesOn, Pi.add_apply, Pi.single_eq_of_ne same, zero_add]
      · simp only [Pi.add_apply, Finset.sum_add_distrib, Finset.sum_pi_single', Finset.mem_univ,
          if_true, tallied, moved, add_assoc]

omit [Fintype ι] in
/-- Where each visit can take its own steps, they can be taken in any order. -/
theorem plays_of_alone
    (alone : ∀ i, ((hall.visits i).play? desk (own trace i)).isSome = true) :
    ∃ hall', hall.play? desk trace = some hall' := by
  induction trace generalizing hall with
  | nil => exact ⟨hall, rfl⟩
  | cons step rest ih =>
      obtain ⟨j, event⟩ := step
      obtain ⟨final, goes⟩ := Option.isSome_iff_exists.mp (alone j)
      rw [own_cons_self] at goes
      obtain ⟨⟨v, first⟩, moves, later⟩ := Option.bind_eq_some_iff.mp goes
      obtain ⟨last, playedRest, -⟩ := Option.map_eq_some_iff.mp later
      have goesOn : ∀ i, (((hall.moved j v first).visits i).play? desk (own rest i)).isSome =
          true := by
        intro i
        by_cases same : i = j
        · subst same
          rw [visits_moved_self, playedRest]
          rfl
        · rw [visits_moved_of_ne same, ← own_cons_of_ne same event]
          exact alone i
      obtain ⟨hall', played⟩ := ih goesOn
      refine ⟨hall', ?_⟩
      rw [play?, next?, moves]
      exact played

/-- So whatever the visits do alone they do at once, in any order of their steps. -/
theorem play_of_alone {visits : ι → Visit} {counted : ι → Tally}
    (alone : ∀ i, (hall.visits i).play? desk (own trace i) = some (visits i, counted i)) :
    hall.play? desk trace = some ⟨visits, hall.tally + ∑ i, counted i⟩ := by
  obtain ⟨⟨visits', tally⟩, played⟩ := plays_of_alone fun i => Option.isSome_of_eq_some (alone i)
  obtain ⟨counted', again, tallied⟩ := alone_of_play played
  have same : ∀ i, visits' i = visits i ∧ counted' i = counted i := by
    intro i
    exact Prod.mk.inj (Option.some.inj ((again i).symm.trans (alone i)))
  obtain rfl : visits' = visits := funext fun i => (same i).1
  obtain rfl : counted' = counted := funext fun i => (same i).2
  rw [played, ← tallied]

/-! ### From the visits to the hall -/

variable {tickets : ι → Ticket}

/-- A visit among others is the one that it would be alone. -/
theorem visit_of_play (played : (opened tickets).play? desk trace = some hall) (i : ι) :
    (tickets i).fresh.play? desk (own trace i) = some (hall.visits i, (hall.visits i).tally) ∧
      (hall.visits i).Sound desk ∧ (hall.visits i).query = (tickets i).query ∧
        (hall.visits i).last = (tickets i).policy.lastAttempt := by
  obtain ⟨counted, alone, -⟩ := alone_of_play played
  have fresh : (tickets i).fresh.Sound desk := Visit.sound_fresh desk _ _
  obtain ⟨sound, tally, about⟩ := Visit.play_sound fresh (alone i)
  rw [Ticket.fresh, Visit.tally_fresh, zero_add] at tally
  rw [tally]
  exact ⟨alone i, sound, about⟩

/-- What was counted is what the visits count alone. -/
theorem tally_of_play (played : (opened tickets).play? desk trace = some hall) :
    hall.tally = ∑ i, (hall.visits i).tally := by
  obtain ⟨counted, alone, tallied⟩ := alone_of_play played
  have count : ∀ i, counted i = (hall.visits i).tally := by
    intro i
    have same := (alone i).symm.trans (visit_of_play played i).1
    exact (Prod.mk.inj (Option.some.inj same)).2
  rw [tallied]
  exact (zero_add _).trans (Finset.sum_congr rfl fun i _ => count i)

/-- The counters one by one, from what the visits have come to. -/
theorem counts_of_play (played : (opened tickets).play? desk trace = some hall) :
    hall.tally.questions = ∑ i, (hall.visits i).finished.length ∧
      hall.tally.latencies = ∑ i, (hall.visits i).exchanges ∧
      hall.tally.retries = ∑ i, (hall.visits i).retried.length := by
  have sum : ∀ count : Tally →+ ℕ, count hall.tally = ∑ i, count (hall.visits i).tally := by
    intro count
    rw [tally_of_play played, map_sum]
  have each := fun i => (hall.visits i).counts_tally
  refine ⟨?_, ?_, ?_⟩
  · exact (sum Tally.questionsHom).trans (Finset.sum_congr rfl fun i _ => (each i).1)
  · exact (sum Tally.latenciesHom).trans (Finset.sum_congr rfl fun i _ => (each i).2.1)
  · exact (sum Tally.retriesHom).trans (Finset.sum_congr rfl fun i _ => (each i).2.2)

/-- Whatever questions come to by themselves they can come to at once, in any order of their steps, and
the counters go up by what they count by themselves. -/
theorem play_of_solo (desk : Desk) (tickets : ι → Ticket) (attempts : ι → Attempts)
    (solo : ∀ i, ∃ service cancel start nextCall races, attempts i =
      desk.runWithRetry service cancel (tickets i).policy (tickets i).query start nextCall races) :
    ∃ events : ι → List Visit.Event, ∀ trace, (∀ i, own trace i = events i) →
      ∃ hall : Hall ι, (opened tickets).play? desk trace = some hall ∧
        (∀ i, (hall.visits i).Agrees (attempts i)) ∧ hall.tally = ∑ i, (attempts i).tally := by
  have alone : ∀ i, ∃ events v counted,
      (tickets i).fresh.play? desk events = some (v, counted) ∧ v.Agrees (attempts i) := by
    intro i
    obtain ⟨service, cancel, start, nextCall, races, same⟩ := solo i
    rw [same]
    exact Visit.play_of_runWithRetry desk service cancel _ _ start nextCall races
  choose events visits counted played agrees using alone
  refine ⟨events, fun trace interleaves => ?_⟩
  have together : (opened tickets).play? desk trace =
      some ⟨visits, (opened tickets).tally + ∑ i, counted i⟩ :=
    play_of_alone fun i => (interleaves i).symm ▸ played i
  refine ⟨_, together, agrees, (tally_of_play together).trans ?_⟩
  exact Finset.sum_congr rfl fun i _ => (agrees i).tally.symm

/-! ### The law -/

/-- What holds of questions at one desk after any steps of theirs, in any order. -/
structure Law (desk : Desk) (tickets : ι → Ticket) (trace : List (ι × Visit.Event))
    (hall : Hall ι) : Prop where
  /-- Each visit is where its own steps alone take it, -/
  alone : ∀ i, (tickets i).fresh.play? desk (own trace i) =
    some (hall.visits i, (hall.visits i).tally)
  /-- and what was counted is what each of them counts alone. -/
  tally : hall.tally = ∑ i, (hall.visits i).tally
  /-- A run that is done has the trace and the outcome of any run of its question by itself whose
  exchange ends in the same way, -/
  alike : ∀ i, ∀ finished ∈ (hall.visits i).finished, ∀ service cancel start nextCall race,
    (∀ ending, finished.ending = some ending →
      (desk.stage service cancel start nextCall race).outcome = ending.outcome) →
    let run := desk.run service cancel (tickets i).query start nextCall race
    finished.stages = run.stages ∧ finished.outcome = run.outcome
  /-- and there is such a run at any instant. -/
  attained : ∀ i, ∀ finished ∈ (hall.visits i).finished, ∀ start nextCall,
    ∃ service cancel race, ∀ ending, finished.ending = some ending →
      (desk.stage service cancel start nextCall race).outcome = ending.outcome
  /-- A visit that is over has the record of its question by itself, with all its attempts. -/
  solo : ∀ i, (hall.visits i).phase.isOver = true → ∀ start nextCall,
    ∃ service cancel races, (hall.visits i).Agrees (desk.runWithRetry service cancel
      (tickets i).policy (tickets i).query start nextCall races)
  /-- The outcomes that were counted are those of the runs that are done, -/
  questions : hall.tally.questions = ∑ i, (hall.visits i).finished.length
  /-- the times that were recorded are those of the exchanges that are over, -/
  latencies : hall.tally.latencies = ∑ i, (hall.visits i).exchanges
  /-- which are no more than the runs that came to them, -/
  prompted : hall.tally.latencies ≤ ∑ i, (hall.visits i).prompted
  /-- and the retries that were counted are the failures that a pause came after, -/
  retries : hall.tally.retries = ∑ i, (hall.visits i).retried.length
  /-- all of which may pass. -/
  retried : ∀ i, ∀ finished ∈ (hall.visits i).retried, isRetryable finished.outcome = true
  /-- A question that is run by itself is never retried. -/
  single : ∀ i, (tickets i).policy = .none → (hall.visits i).retried = []
  /-- The same steps of each visit can be taken in any other order, and come to the same. -/
  settled : ∀ trace', (∀ i, own trace' i = own trace i) →
    (opened tickets).play? desk trace' = some hall

/-- However the steps of questions at one desk interleave, none disturbs another, and the counters
balance. -/
theorem play_obeys_law (desk : Desk) (tickets : ι → Ticket) (trace : List (ι × Visit.Event))
    (hall : Hall ι) (played : (opened tickets).play? desk trace = some hall) :
    hall.Law desk tickets trace := by
  have alone := visit_of_play played
  have total := tally_of_play played
  obtain ⟨questions, latencies, retries⟩ := counts_of_play played
  exact {
    alone := fun i => (alone i).1
    tally := total
    alike := by
      intro i finished member service cancel start nextCall race same
      obtain ⟨-, sound, query, -⟩ := alone i
      have concludes := sound.concludes finished member
      rw [query] at concludes
      have course := desk.run_course service cancel (tickets i).query start nextCall race
      exact Prod.mk.inj (course.summary_eq concludes same).symm
    attained := by
      intro i finished member start nextCall
      exact ⟨fun _ => finished.asReply, finished.cancelAt start, .toCancellation,
        fun ending ended => Desk.stage_asReply rfl ended⟩
    solo := fun i atEnd => Visit.runWithRetry_of_play (alone i).1 atEnd
    questions := questions
    latencies := latencies
    prompted := by
      rw [latencies]
      exact Finset.sum_le_sum fun i _ => Visit.exchanges_le_prompted (alone i).2.1
    retries := retries
    retried := fun i finished member => ((alone i).2.1.retried finished member).2
    single := by
      intro i once
      obtain ⟨-, sound, -, last⟩ := alone i
      have allowed : (hall.visits i).last.toNat = 1 := by
        rw [last, once]
        rfl
      refine sound.within.elim id fun within => List.length_eq_zero_iff.mp ?_
      omega
    settled := by
      intro trace' same
      have again : (opened tickets).play? desk trace' =
          some ⟨hall.visits, (opened tickets).tally + ∑ i, (hall.visits i).tally⟩ :=
        play_of_alone fun i => (same i).symm ▸ (alone i).1
      have nothing : (opened tickets).tally = 0 := rfl
      rw [again, nothing, zero_add, ← total] }

/-- A question, and beside it one that the gate turns away. -/
def plainAndBlocked (plain : Bool) : Ticket :=
  cond plain ⟨"What is a list?", .standard⟩ ⟨"hack", .none⟩

/-- The service is busy when it is first asked, and the second time the question is cancelled. -/
def busyThenCancelled : List (Bool × Visit.Event) :=
  [(true, .proceed), (true, .proceed), (false, .proceed),
    (true, .exchange (.reply (.error (.rateLimited "busy")))), (true, .proceed), (false, .proceed),
    (true, .proceed), (false, .proceed), (true, .pause false), (true, .proceed),
    (true, .exchange .cancellation), (true, .proceed), (true, .proceed)]

/-- So it is where a question is retried and cancelled while another is turned away. -/
theorem play_plainAndBlocked : ∃ hall : Hall Bool,
    (opened plainAndBlocked).play? .standard busyThenCancelled = some hall ∧
      hall.tally =
        { Tally.zero with rejected := 1, serviceError := 2, retries := 1, latencies := 2 } ∧
      hall.Law .standard plainAndBlocked busyThenCancelled := by
  have counts : ((opened plainAndBlocked).play? .standard busyThenCancelled).map Hall.tally =
      some { Tally.zero with rejected := 1, serviceError := 2, retries := 1, latencies := 2 } := by
    decide +kernel
  obtain ⟨hall, played, tallied⟩ := Option.map_eq_some_iff.mp counts
  exact ⟨hall, played, tallied, play_obeys_law _ _ _ _ played⟩

end Hall

end StudyDesk
