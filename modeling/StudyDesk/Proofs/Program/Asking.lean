/-
Module: StudyDesk.Proofs.Program.Asking
Purpose: The requests that go out for a question, and the outcome, from the replies that come in.
Main exports:
  Question.request, Question.Ends, Question.Attempted, Question.attempts_attempted,
  Question.standAfter_early, Question.standAfter_last, Question.ReplyLaw,
  Question.ask_obeys_replies
-/
import Mathlib.Order.Bounds.Basic
import StudyDesk.Program.Task
import StudyDesk.Proofs.Inference.Verdict

namespace StudyDesk

/-! ### One exchange -/

/-- Whatever comes over a connection comes at once, or never. -/
theorem Client.awaitReply_reply {client : Client} (canSend : client.canSend = true)
    (transfer : Transfer) (limit start : Nat) :
    (awaitReply (client.reply transfer) limit start).outcome = client.outcome transfer := by
  cases transfer with
  | silent => simp [reply, canSend, awaitReply, outcome]
  | answered | closed | cutOff => simp [reply, canSend, awaitReply]

/-- A question that is sent has the outcome of its exchange. -/
theorem Desk.run_outcome_of_admits {desk : Desk} {query : String} (admits : desk.Admits query)
    (service : Service) (cancel : Option Nat) (start nextCall : Nat) (race : Race) :
    (desk.run service cancel query start nextCall race).outcome =
      .ofExchange desk.registry (desk.stage service cancel start nextCall race).outcome := by
  have course := run_course desk service cancel query start nextCall race
  cases ended : (desk.stage service cancel start nextCall race).outcome with
  | error fault => exact course.of_failed admits ended
  | ok raw =>
      rw [Outcome.ofExchange]
      exact course.of_delivered admits ended

/-- A command succeeds that has a result. -/
theorem Output.success_ofOutcome_iff {outcome : Outcome} :
    (ofOutcome outcome).success = true ↔ ∃ result, outcome = .ok result := by
  cases outcome with
  | ok result => simp [ofOutcome, good]
  | error failure => simp [ofOutcome]

namespace Question

variable {question : Question} {transfer other : Nat → Transfer} {number : Nat}

/-! ### All exchanges -/

/-- The request that goes out for a question. -/
def request (question : Question) : Request :=
  question.client.request question.desk.instruction (Text.trim question.query) question.desk.params

/-- The outcome that a transfer gives a question. -/
def outcomeOf (question : Question) (transfer : Transfer) : Outcome :=
  .ofExchange question.desk.registry (question.client.outcome transfer)

/-- The numbers of the exchanges that may be the last: the one that is as far as the policy allows, and
those that give an outcome which stays. -/
def Ends (question : Question) (transfer : Nat → Transfer) (number : Nat) : Prop :=
  1 ≤ number ∧ (number = max 1 question.policy.maxAttempts ∨
    isRetryable (question.outcomeOf (transfer (number - 1))) = false)

/-- What the record says of a question for which `number` exchanges are made. -/
structure Attempted (question : Question) (transfer : Nat → Transfer) (number : Nat)
    (attempts : Attempts) : Prop where
  /-- The last exchange is the first that may be. -/
  least : IsLeast {k | question.Ends transfer k} number
  /-- The same request goes out for each of them. -/
  requests : requests question.client attempts.calls = List.replicate number question.request
  /-- The last of them gives the outcome. -/
  outcome : attempts.outcome = question.outcomeOf (transfer (number - 1))

/-- The question as an inquiry over connections. -/
def inquiry (question : Question) (transfer : Nat → Transfer) : Inquiry where
  desk := question.desk
  service := fun n => question.client.reply (transfer n)
  backoff := question.policy.backoffMs
  query := question.query
  start := 0
  nextCall := 0

theorem outcome_run (canSend : question.client.canSend = true)
    (admits : question.desk.Admits question.query) (before : Nat) :
    ((question.inquiry transfer).run before).outcome = question.outcomeOf (transfer before) := by
  calc ((question.inquiry transfer).run before).outcome
    _ = .ofExchange question.desk.registry (question.desk.stage (question.inquiry transfer).service
          none ((question.inquiry transfer).startOf before) (0 + before) .toCancellation).outcome :=
        Desk.run_outcome_of_admits admits _ _ _ _ _
    _ = .ofExchange question.desk.registry (question.client.outcome (transfer (0 + before))) :=
        congrArg _ (Client.awaitReply_reply canSend _ _ _)
    _ = question.outcomeOf (transfer before) := by rw [Nat.zero_add, outcomeOf]

theorem requests_of_calls {attempts : Attempts} (canSend : question.client.canSend = true)
    (admits : question.desk.Admits question.query)
    (runs : attempts.runs = (List.range number).map (question.inquiry transfer).run) :
    requests question.client attempts.calls = List.replicate number question.request := by
  have calls := (Inquiry.calls_eq runs).trans (if_pos admits)
  rw [requests, if_pos canSend, calls, List.map_map]
  -- the calls differ in nothing but their instants, and those are not sent
  have constant : (List.range number).map (Function.const Nat question.request) =
      List.replicate number question.request := by
    rw [List.map_const, List.length_range]
  exact constant

/-- So it is for every question that is sent at all. -/
theorem attempts_attempted (fits : question.policy.maxAttempts < UInt32.size)
    (canSend : question.client.canSend = true) (admits : question.desk.Admits question.query)
    (transfer : Nat → Transfer) :
    ∃ number, question.Attempted transfer number (question.attempts transfer none) := by
  have limit := question.policy.toNat_lastAttempt_of_fits fits
  obtain ⟨number, attempting⟩ : ∃ number,
      (question.inquiry transfer).Attempting (max 1 question.policy.maxAttempts) 0 number
        (question.attempts transfer none) := by
    rw [← limit]
    exact (question.inquiry transfer).loop_attempting _ rfl (by omega)
  have least := attempting.isLeast
  have runs := attempting.runs_eq
  simp only [outcome_run canSend admits] at least
  rw [Nat.sub_zero, ← List.range_eq_range'] at runs
  refine ⟨number, ?_⟩
  exact {
    least := least
    requests := requests_of_calls canSend admits runs
    outcome := attempting.last_eq.1.trans (outcome_run canSend admits _) }

/-! ### Step by step

What goes out next depends on what came in before, and on nothing that is still to come.
-/

theorem Ends.congr (same : ∀ k < number, transfer k = other k)
    (ends : question.Ends transfer number) : question.Ends other number := by
  rcases ends with ⟨positive, why⟩
  refine ⟨positive, ?_⟩
  rw [← same (number - 1) (Nat.sub_lt positive Nat.one_pos)]
  exact why

/-- The last exchange stays the last whatever would come after it. -/
theorem isLeast_congr (same : ∀ k < number, transfer k = other k)
    (least : IsLeast {k | question.Ends transfer k} number) :
    IsLeast {k | question.Ends other k} number := by
  constructor
  · exact least.1.congr same
  · intro k ends
    by_contra early
    have below : k < number := Nat.lt_of_not_le early
    have before : question.Ends transfer k :=
      ends.congr fun j within => (same j (within.trans below)).symm
    exact early (least.2 before)

/-- Before the last exchange nothing tells that it is not yet the last but what came in. -/
theorem lt_of_isLeast {early last : Nat} (same : ∀ k < early, transfer k = other k)
    (below : early < number) (least : IsLeast {k | question.Ends transfer k} number)
    (otherLeast : IsLeast {k | question.Ends other k} last) : early < last := by
  by_contra beyond
  have within : last ≤ early := Nat.le_of_not_lt beyond
  have before : question.Ends transfer last :=
    otherLeast.1.congr fun k inside => (same k (inside.trans_le within)).symm
  exact absurd (least.2 before) (Nat.not_le.mpr (within.trans_lt below))

/-- The transfers that are over when so many exchanges are. -/
def soFar (transfer : Nat → Transfer) (count : Nat) : List Transfer := (List.range count).map transfer

@[simp] theorem length_soFar (transfer : Nat → Transfer) (count : Nat) :
    (soFar transfer count).length = count := by
  simp [soFar]

theorem soFar_getD {count k : Nat} (within : k < count) :
    (soFar transfer count).getD k .silent = transfer k := by
  simp [soFar, within]

section

variable (fits : question.policy.maxAttempts < UInt32.size)
  (canSend : question.client.canSend = true) (admits : question.desk.Admits question.query)
include fits canSend admits

/-- Until the last exchange is over, the request goes out once more. -/
theorem standAfter_early {count : Nat} (least : IsLeast {k | question.Ends transfer k} number)
    (below : count < number) :
    question.standAfter (soFar transfer count) = .next question.request := by
  obtain ⟨last, attempted⟩ := attempts_attempted fits canSend admits
    fun k => (soFar transfer count).getD k .silent
  have further : count < last :=
    lt_of_isLeast (fun k within => (soFar_getD within).symm) below least attempted.least
  simp only [standAfter, attempted.requests, length_soFar, List.getElem?_replicate, further, if_true]

/-- Then the question is done, as the last exchange says. -/
theorem standAfter_last (least : IsLeast {k | question.Ends transfer k} number) :
    question.standAfter (soFar transfer number) =
      .done (.ofOutcome (question.outcomeOf (transfer (number - 1)))) := by
  obtain ⟨last, attempted⟩ := attempts_attempted fits canSend admits
    fun k => (soFar transfer number).getD k .silent
  have same : last = number :=
    IsLeast.unique attempted.least (isLeast_congr (fun k within => (soFar_getD within).symm) least)
  subst same
  have final : (soFar transfer last).getD (last - 1) .silent = transfer (last - 1) :=
    soFar_getD (Nat.sub_lt least.1.1 Nat.one_pos)
  simp only [standAfter, attempted.requests, length_soFar, List.getElem?_replicate, Nat.lt_irrefl,
    if_false, attempted.outcome, final]

end

/-! ### Replies -/

/-- Connections over which every exchange brings a status and a body. -/
def replies (status : Nat → Nat) (body : Nat → List UInt8) (k : Nat) : Transfer :=
  .answered (status k) (body k)

/-- The verdict on a question to which the service replies. -/
theorem verdict_outcomeOf (question : Question) (status : Nat) (body : List UInt8) :
    Verdict question.desk.registry status (Client.received status body)
      (question.outcomeOf (.answered status body)) := by
  rw [outcomeOf, Client.outcome_answered]
  exact Verdict.ofExchange_reading _ _ _

/-- What holds of a question for which `number` requests go out, when each of them brings a status and
a body. -/
structure ReplyLaw (question : Question) (status : Nat → Nat) (body : Nat → List UInt8)
    (number : Nat) : Prop where
  /-- The last request is as far as the policy allows, or the first that is not met by a status which
  may pass. -/
  least : IsLeast {k | 1 ≤ k ∧
    (k = max 1 question.policy.maxAttempts ∨ ¬ Client.MayPass (status (k - 1)))} number
  /-- All requests are the same, -/
  requests : requests question.client (question.attempts (replies status body) none).calls =
    List.replicate number question.request
  /-- each of them goes out when the replies to those before it are there, -/
  next : ∀ count < number,
    question.standAfter (soFar (replies status body) count) = .next question.request
  /-- and after the last of them the question is done. -/
  done : question.standAfter (soFar (replies status body) number) =
    .done (.ofOutcome (question.attempts (replies status body) none).outcome)
  /-- The last reply decides. -/
  verdict : Verdict question.desk.registry (status (number - 1))
    (Client.received (status (number - 1)) (body (number - 1)))
    (question.attempts (replies status body) none).outcome
  /-- If it is no success, the failure tells the text that came with it. -/
  told : ¬ Client.Succeeds (status (number - 1)) → ∃ failure : RunFailure,
    (question.attempts (replies status body) none).outcome = .error failure ∧
      failure.kind = .serviceError ∧
      (Client.received (status (number - 1)) (body (number - 1))).toList <:+ failure.detail.toList
  /-- The command succeeds exactly if it is one, and has content that the contract accepts. -/
  success : (Output.ofOutcome (question.attempts (replies status body) none).outcome).success = true ↔
    Client.Succeeds (status (number - 1)) ∧ ∃ first result,
      Completion.FirstContent (Client.received (status (number - 1)) (body (number - 1))) first ∧
      Contract.validate question.desk.registry (Text.trim first) = .ok result

/-- A question that is neither blank nor blocked is asked until a status comes that does not pass, or
its attempts are used up, and the reply that came last decides. -/
theorem ask_obeys_replies (question : Question) (status : Nat → Nat) (body : Nat → List UInt8)
    (fits : question.policy.maxAttempts < UInt32.size)
    (canSend : question.client.canSend = true) (admits : question.desk.Admits question.query) :
    ∃ number, question.ReplyLaw status body number := by
  obtain ⟨number, attempted⟩ := attempts_attempted fits canSend admits (replies status body)
  have verdict := question.verdict_outcomeOf (status (number - 1)) (body (number - 1))
  rw [← replies, ← attempted.outcome] at verdict
  have ends : ∀ k, question.Ends (replies status body) k ↔ 1 ≤ k ∧
      (k = max 1 question.policy.maxAttempts ∨ ¬ Client.MayPass (status (k - 1))) := by
    intro k
    have retryable := (question.verdict_outcomeOf (status (k - 1)) (body (k - 1))).isRetryable_iff
    rw [Ends, replies, ← retryable, Bool.not_eq_true]
  have least := attempted.least
  simp only [ends] at least
  refine ⟨number, ?_⟩
  exact {
    least := least
    requests := attempted.requests
    next := fun count below => standAfter_early fits canSend admits attempted.least below
    done := by
      rw [attempted.outcome]
      exact standAfter_last fits canSend admits attempted.least
    verdict := verdict
    told := verdict.tells_text
    success := by
      rw [Output.success_ofOutcome_iff]
      simp only [verdict.eq_ok_iff]
      constructor
      · rintro ⟨result, successful, first, has, accepted⟩
        exact ⟨successful, first, result, has, accepted⟩
      · rintro ⟨successful, first, result, has, accepted⟩
        exact ⟨result, successful, first, has, accepted⟩ }

/-- A question to a service that wants no key. -/
def aboutLists : Question where
  client := ⟨⟨false, [], [], .name "localhost", none, Endpoint.completionsPath, none, none⟩, "m", none⟩
  desk := .standard
  policy := ⟨3, 250⟩
  query := "What is a list?"

/-- The statuses of a service that is broken when it is first asked. -/
def brokenOnce (k : Nat) : Nat := if k = 0 then 503 else 200

/-- It is asked twice, though the policy allows for three times. -/
theorem ask_brokenOnce : aboutLists.policy.maxAttempts < UInt32.size ∧
    aboutLists.client.canSend = true ∧ aboutLists.desk.Admits aboutLists.query ∧
    aboutLists.ReplyLaw brokenOnce (fun _ => Text.encode ['{', '}']) 2 := by
  have fits : aboutLists.policy.maxAttempts < UInt32.size := by decide
  have canSend : aboutLists.client.canSend = true := rfl
  have admits : aboutLists.desk.Admits aboutLists.query := by decide +kernel
  obtain ⟨number, law⟩ :=
    ask_obeys_replies aboutLists brokenOnce (fun _ => Text.encode ['{', '}']) fits canSend admits
  have twice : number = 2 := by
    apply law.least.unique
    constructor
    · simp [Client.MayPass, brokenOnce]
    · rintro k ⟨positive, limit | stays⟩
      · simp [limit, aboutLists]
      · by_contra early
        have once : k = 1 := by omega
        simp [once, Client.MayPass, brokenOnce] at stays
  rw [twice] at law
  exact ⟨fits, canSend, admits, law⟩

end Question

end StudyDesk
