/-
Module: StudyDesk.Proofs.Inference.Verdict
Purpose: What a reply of the service makes of a question, and which replies are worth another request.
Main exports:
  Completion.FirstContent, Client.Succeeds, Client.MayPass, Client.received, Outcome.ofExchange,
  Verdict, Verdict.functional, Verdict.isRetryable_iff, Verdict.eq_ok_iff, Verdict.tells_text
-/
import StudyDesk.Inference.Client
import StudyDesk.Proofs.Session.Attempts

namespace StudyDesk

/-! ### The content of a completion -/

namespace Completion

variable {text first : String}

/-- A completion whose first choice has a content. -/
def replyWith (first : String) (others : List choiceFields.Value) : replyFields.Value :=
  (some (((some first, ()), ()) :: others), ())

theorem firstContent_replyWith (first : String) (others : List choiceFields.Value) :
    firstContent (replyWith first others) = some first := rfl

/-- No other completion has a content to give. -/
theorem exists_of_firstContent : ∀ {reply : replyFields.Value}, firstContent reply = some first →
    ∃ others, reply = replyWith first others
  | (none, ()), chosen => by cases chosen
  | (some [], ()), chosen => by cases chosen
  | (some (((none, ()), ()) :: _), ()), chosen => by cases chosen
  | (some (((some _, ()), ()) :: others), ()), chosen => by
      cases chosen
      exact ⟨others, rfl⟩

/-- A text that is a completion, with the content of its first choice. -/
def FirstContent (text first : String) : Prop :=
  ∃ others, replyShape.readAll text.toList = .ok (replyWith first others)

theorem content_of_firstContent (has : FirstContent text first) :
    content text = .ok (Text.trim first) := by
  rcases has with ⟨others, read⟩
  simp only [content, read, firstContent_replyWith]

/-- Whatever is wrong with a completion, it counts as malformed. -/
theorem content_of_lacking (lacking : ∀ first, ¬ FirstContent text first) :
    ∃ detail, content text = .error (.malformedResponse detail) := by
  cases read : replyShape.readAll text.toList with
  | error failure => simp [content, read]
  | ok reply =>
      cases chosen : firstContent reply with
      | none => simp [content, read, chosen]
      | some first =>
          rcases exists_of_firstContent chosen with ⟨others, rfl⟩
          exact absurd ⟨others, read⟩ (lacking first)

/-- A failure to find content is never another one. -/
theorem eq_malformed_of_content {fault : InferenceFault} (failed : content text = .error fault) :
    ∃ detail, fault = .malformedResponse detail := by
  by_cases lacking : ∀ first, ¬ FirstContent text first
  · rcases content_of_lacking lacking with ⟨detail, told⟩
    rw [told] at failed
    exact ⟨detail, (Except.error.inj failed).symm⟩
  · simp only [not_forall, not_not] at lacking
    rcases lacking with ⟨first, has⟩
    rw [content_of_firstContent has] at failed
    cases failed

end Completion

/-! ### Replies -/

namespace Client

variable {status : Nat} {text : String}

/-- The statuses that say success. -/
def Succeeds (status : Nat) : Prop := 200 ≤ status ∧ status ≤ 299

/-- The statuses by which the service says that it is busy or broken. -/
def MayPass (status : Nat) : Prop := status = 429 ∨ (500 ≤ status ∧ status ≤ 599)

theorem isSuccess_iff : isSuccess status = true ↔ Succeeds status := by
  simp [isSuccess, Succeeds]

theorem isSuccess_eq_false (unsuccessful : ¬ Succeeds status) : isSuccess status = false := by
  rw [← isSuccess_iff, Bool.not_eq_true] at unsuccessful
  exact unsuccessful

theorem not_mayPass_of_succeeds (successful : Succeeds status) : ¬ MayPass status := by
  rintro (busy | broken)
  · simp [busy, Succeeds] at successful
  · exact absurd (broken.1.trans successful.2) (by simp)

/-- The text that comes with a status; some statuses have none. -/
def received (status : Nat) (body : List UInt8) : String :=
  Text.decodeLossy (if hasBody status then body else [])

/-- What a status and a text yield. -/
def reading (status : Nat) (text : String) : Except InferenceFault String :=
  if isSuccess status then Completion.content text else .error (statusFault status text)

theorem outcome_answered (client : Client) (status : Nat) (body : List UInt8) :
    client.outcome (.answered status body) = reading status (received status body) := rfl

theorem reading_of_succeeds (successful : Succeeds status) :
    reading status text = Completion.content text :=
  if_pos (isSuccess_iff.mpr successful)

theorem reading_of_not_succeeds (unsuccessful : ¬ Succeeds status) :
    reading status text = .error (statusFault status text) := by
  rw [reading, isSuccess_eq_false unsuccessful]
  rfl

theorem statusFault_of_refused (refused : status = 401 ∨ status = 403) :
    statusFault status text = .authentication text := by
  simp [statusFault, refused]

theorem statusFault_of_busy (busy : status = 429) :
    statusFault status text = .rateLimited text := by
  simp [statusFault, busy]

theorem statusFault_of_other (admitted : ¬ (status = 401 ∨ status = 403)) (notBusy : status ≠ 429) :
    statusFault status text = .status status text := by
  simp [statusFault, admitted, notBusy]

/-- The three failures that a status can stand for. -/
theorem statusFault_cases (status : Nat) (text : String) :
    ((status = 401 ∨ status = 403) ∧ statusFault status text = .authentication text) ∨
      (status = 429 ∧ statusFault status text = .rateLimited text) ∨
      (¬ (status = 401 ∨ status = 403) ∧ status ≠ 429 ∧
        statusFault status text = .status status text) := by
  by_cases refused : status = 401 ∨ status = 403
  · exact .inl ⟨refused, statusFault_of_refused refused⟩
  · by_cases busy : status = 429
    · exact .inr (.inl ⟨busy, statusFault_of_busy busy⟩)
    · exact .inr (.inr ⟨refused, busy, statusFault_of_other refused busy⟩)

/-- The failures that may pass, among those that a status stands for. -/
theorem isTransient_statusFault : (statusFault status text).isTransient = true ↔ MayPass status := by
  rcases statusFault_cases status text with
    ⟨refused, fault⟩ | ⟨busy, fault⟩ | ⟨admitted, notBusy, fault⟩
  · rw [fault, MayPass]
    rcases refused with rfl | rfl
    · simp [InferenceFault.isTransient]
    · simp [InferenceFault.isTransient]
  · rw [fault]
    simp [InferenceFault.isTransient, MayPass, busy]
  · rw [fault]
    simp [InferenceFault.isTransient, MayPass, notBusy]

/-- The text that came with a status is told at the end. -/
theorem suffix_message_statusFault :
    text.toList <:+ (statusFault status text).message.toList := by
  rcases statusFault_cases status text with ⟨-, fault⟩ | ⟨-, fault⟩ | ⟨-, -, fault⟩
  · rw [fault, InferenceFault.message.eq_def, String.toList_append]
    apply List.suffix_append
  · rw [fault, InferenceFault.message.eq_def, String.toList_append]
    apply List.suffix_append
  · rw [fault, InferenceFault.message.eq_def, String.toList_append]
    apply List.suffix_append

end Client

/-! ### Verdicts -/

/-- What the end of an exchange makes of a question. -/
def Outcome.ofExchange (registry : Registry) : Except InferenceFault String → Outcome
  | .error fault => .error (.service fault)
  | .ok raw => Contract.validate registry raw

/-- The outcome that a status and a text give a question. -/
inductive Verdict (registry : Registry) (status : Nat) (text : String) : Outcome → Prop where
  | authentication (refused : status = 401 ∨ status = 403) :
      Verdict registry status text (.error (.service (.authentication text)))
  | rateLimited (busy : status = 429) :
      Verdict registry status text (.error (.service (.rateLimited text)))
  | status (unsuccessful : ¬ Client.Succeeds status) (admitted : ¬ (status = 401 ∨ status = 403))
      (notBusy : status ≠ 429) :
      Verdict registry status text (.error (.service (.status status text)))
  /-- No content is found in the text, and the description says why. -/
  | malformed {detail : String} (successful : Client.Succeeds status)
      (lacking : ∀ first, ¬ Completion.FirstContent text first)
      (told : Completion.content text = .error (.malformedResponse detail)) :
      Verdict registry status text (.error (.service (.malformedResponse detail)))
  /-- The content is held against the contract. -/
  | held {first : String} (successful : Client.Succeeds status)
      (has : Completion.FirstContent text first) :
      Verdict registry status text (Contract.validate registry (Text.trim first))

namespace Verdict

variable {registry : Registry} {status : Nat} {text : String} {outcome other : Outcome}

/-- Every status and every text give an outcome, the one that the exchange gives. -/
theorem ofExchange_reading (registry : Registry) (status : Nat) (text : String) :
    Verdict registry status text (.ofExchange registry (Client.reading status text)) := by
  by_cases successful : Client.Succeeds status
  · rw [Client.reading_of_succeeds successful]
    by_cases lacking : ∀ first, ¬ Completion.FirstContent text first
    · rcases Completion.content_of_lacking lacking with ⟨detail, told⟩
      rw [told]
      exact .malformed successful lacking told
    · simp only [not_forall, not_not] at lacking
      rcases lacking with ⟨first, has⟩
      rw [Completion.content_of_firstContent has, Outcome.ofExchange]
      exact .held successful has
  · rw [Client.reading_of_not_succeeds successful]
    rcases Client.statusFault_cases status text with
      ⟨refused, fault⟩ | ⟨busy, fault⟩ | ⟨admitted, notBusy, fault⟩
    · rw [fault]
      exact .authentication refused
    · rw [fault]
      exact .rateLimited busy
    · rw [fault]
      exact .status successful admitted notBusy

/-- No other outcome comes of them. -/
theorem eq_ofExchange (verdict : Verdict registry status text outcome) :
    outcome = .ofExchange registry (Client.reading status text) := by
  cases verdict with
  | authentication refused =>
      have unsuccessful : ¬ Client.Succeeds status := by
        rcases refused with rfl | rfl
        · simp [Client.Succeeds]
        · simp [Client.Succeeds]
      rw [Client.reading_of_not_succeeds unsuccessful, Client.statusFault_of_refused refused]
      rfl
  | rateLimited busy =>
      have unsuccessful : ¬ Client.Succeeds status := by simp [Client.Succeeds, busy]
      rw [Client.reading_of_not_succeeds unsuccessful, Client.statusFault_of_busy busy]
      rfl
  | status unsuccessful admitted notBusy =>
      rw [Client.reading_of_not_succeeds unsuccessful,
        Client.statusFault_of_other admitted notBusy]
      rfl
  | malformed successful lacking told =>
      rw [Client.reading_of_succeeds successful, told]
      rfl
  | held successful has =>
      rw [Client.reading_of_succeeds successful, Completion.content_of_firstContent has,
        Outcome.ofExchange]

/-- The status and the text decide. -/
theorem functional (one : Verdict registry status text outcome)
    (two : Verdict registry status text other) : outcome = other := by
  rw [one.eq_ofExchange, two.eq_ofExchange]

/-- Another request is worth it exactly when the status says so; the text has no part in that. -/
theorem isRetryable_iff (verdict : Verdict registry status text outcome) :
    isRetryable outcome = true ↔ Client.MayPass status := by
  by_cases successful : Client.Succeeds status
  · apply iff_of_false
    · rw [verdict.eq_ofExchange, Client.reading_of_succeeds successful]
      cases read : Completion.content text with
      | error fault =>
          rcases Completion.eq_malformed_of_content read with ⟨detail, rfl⟩
          exact Bool.false_ne_true
      | ok raw =>
          rw [Outcome.ofExchange, Desk.isRetryable_validate]
          exact Bool.false_ne_true
    · exact Client.not_mayPass_of_succeeds successful
  · rw [verdict.eq_ofExchange, Client.reading_of_not_succeeds successful]
    exact Client.isTransient_statusFault

/-- A result comes only of a success with content that the contract accepts. -/
theorem eq_ok_iff {result : Classification} (verdict : Verdict registry status text outcome) :
    outcome = .ok result ↔ Client.Succeeds status ∧ ∃ first, Completion.FirstContent text first ∧
      Contract.validate registry (Text.trim first) = .ok result := by
  constructor
  · intro done
    cases verdict with
    | held successful has => exact ⟨successful, _, has, done⟩
    | authentication | rateLimited | status | malformed => cases done
  · rintro ⟨successful, first, has, accepted⟩
    rw [← accepted]
    exact verdict.functional (.held successful has)

/-- Without a success the failure tells the text that came. -/
theorem tells_text (verdict : Verdict registry status text outcome)
    (unsuccessful : ¬ Client.Succeeds status) :
    ∃ failure : RunFailure, outcome = .error failure ∧ failure.kind = .serviceError ∧
      text.toList <:+ failure.detail.toList := by
  rw [verdict.eq_ofExchange, Client.reading_of_not_succeeds unsuccessful]
  exact ⟨.service (Client.statusFault status text), rfl, rfl, Client.suffix_message_statusFault⟩

end Verdict

end StudyDesk
