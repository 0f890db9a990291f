/-
Module: StudyDesk.Proofs.Session.Exchange
Purpose: How a wait and an exchange end, whichever of their events comes first.
Main exports:
  cutShort?_eq_some_iff, Reply.wait, awaitReply_cases, Exchange.Ends, exchange_ends
-/
import StudyDesk.Session.Reply

namespace StudyDesk

variable {race : Race} {reply : Reply} {limit start finish instant : Nat} {cancel : Option Nat}
  {wins : Bool}

/-! ### Waits -/

/-- A wait is cut short when the cancellation comes before its end, or with it and is noticed first. -/
theorem cutShort?_eq_some_iff :
    cutShort? wins cancel start finish = some instant ↔
      ∃ c, cancel = some c ∧ instant = max c start ∧
        (instant < finish ∨ (instant = finish ∧ wins = true)) := by
  cases cancel with
  | none => simp [cutShort?]
  | some c =>
      simp only [cutShort?, Option.ite_none_right_eq_some, Bool.or_eq_true, Bool.and_eq_true,
        decide_eq_true_eq, Option.some.injEq, exists_eq_left']
      constructor
      · rintro ⟨early, rfl⟩
        exact ⟨rfl, early⟩
      · rintro ⟨rfl, early⟩
        exact ⟨early, rfl⟩

/-- A wait runs to its end when no cancellation comes before. -/
theorem cutShort?_eq_none_iff :
    cutShort? wins cancel start finish = none ↔
      ∀ c, cancel = some c → finish < max c start ∨ (finish = max c start ∧ wins = false) := by
  cases cancel with
  | none => simp [cutShort?]
  | some c =>
      simp only [cutShort?, ite_eq_right_iff, reduceCtorEq, imp_false, Bool.or_eq_true,
        Bool.and_eq_true, decide_eq_true_eq, Option.some.injEq, forall_eq']
      cases wins <;> simp <;> omega

/-- A cancellation that is not before the end, and loses its race, cuts nothing short. -/
theorem cutShort?_of_late (late : ∀ c, cancel = some c → finish ≤ c) :
    cutShort? false cancel start finish = none := by
  refine cutShort?_eq_none_iff.mpr fun c fired => ?_
  have after := late c fired
  by_cases together : finish = max c start
  · exact .inr ⟨together, rfl⟩
  · exact .inl (by omega)

/-- One that is there from the start, and wins its race, does so at once. -/
theorem cutShort?_of_early (forward : start ≤ finish) :
    cutShort? true (some start) start finish = some start := by
  refine cutShort?_eq_some_iff.mpr ⟨start, rfl, (Nat.max_self start).symm, ?_⟩
  rcases Nat.eq_or_lt_of_le forward with together | before
  · exact .inr ⟨together, rfl⟩
  · exact .inl before

/-! ### Exchanges -/

/-- How long an exchange lasts that nothing cuts short. -/
def Reply.wait (reply : Reply) (limit : Nat) : Nat :=
  match reply.delay with
  | some delay => min delay limit
  | none => limit

/-- Without cancellation an exchange ends with the reply, or with the limit if no reply comes by
then. -/
theorem awaitReply_cases (reply : Reply) (limit start : Nat) :
    (∃ delay, reply.delay = some delay ∧ delay ≤ limit ∧
        awaitReply reply limit start = ⟨reply.outcome, start + delay, true⟩) ∨
      ((∀ delay, reply.delay = some delay → limit < delay) ∧
        awaitReply reply limit start = ⟨.error .timeout, start + limit, true⟩) := by
  unfold awaitReply
  cases reply.delay with
  | none => simp
  | some delay =>
      by_cases inTime : delay ≤ limit
      · simp [inTime]
      · simp [inTime, Nat.lt_of_not_le inTime]

theorem awaitReply_finish (reply : Reply) (limit start : Nat) :
    (awaitReply reply limit start).finish = start + reply.wait limit := by
  unfold awaitReply Reply.wait
  cases reply.delay with
  | none => rfl
  | some delay =>
      by_cases inTime : delay ≤ limit
      · simp [inTime]
      · simp [inTime, Nat.le_of_not_le inTime]

/-- The three ways in which an exchange ends.  None of its events comes before the one that ended
it, and only a cancellation that was there from the start keeps the service from being asked. -/
inductive Exchange.Ends (reply : Reply) (limit : Nat) (cancel : Option Nat) (start : Nat) :
    Exchange → Prop where
  | reply {delay : Nat} (comes : reply.delay = some delay) (inTime : delay ≤ limit)
      (uncut : ∀ c, cancel = some c → start + delay ≤ max c start) :
      Ends reply limit cancel start ⟨reply.outcome, start + delay, true⟩
  | limit (late : ∀ delay, reply.delay = some delay → limit < delay)
      (uncut : ∀ c, cancel = some c → start + limit ≤ max c start) :
      Ends reply limit cancel start ⟨.error .timeout, start + limit, true⟩
  | cancellation {c : Nat} {asked : Bool} (fired : cancel = some c)
      (early : max c start ≤ start + reply.wait limit) (unasked : asked = false → c ≤ start) :
      Ends reply limit cancel start ⟨.error .cancelled, max c start, asked⟩

/-- An exchange ends in one of the three ways, however its race ends. -/
theorem exchange_ends (race : Race) (reply : Reply) (limit : Nat) (cancel : Option Nat)
    (start : Nat) : Exchange.Ends reply limit cancel start (exchange race reply limit cancel start) := by
  have finish := awaitReply_finish reply limit start
  cases cut : cutShort? race.beatsExchange cancel start (awaitReply reply limit start).finish with
  | some instant =>
      simp only [exchange, cut]
      obtain ⟨c, rfl, rfl, early⟩ := cutShort?_eq_some_iff.mp cut
      rw [finish] at early
      refine .cancellation rfl (by omega) fun unasked => ?_
      simp only [Bool.or_eq_false_iff, decide_eq_false_iff_not] at unasked
      omega
  | none =>
      simp only [exchange, cut]
      have uncut : ∀ c, cancel = some c → (awaitReply reply limit start).finish ≤ max c start := by
        intro c fired
        rcases cutShort?_eq_none_iff.mp cut c fired with before | ⟨together, -⟩ <;> omega
      rcases awaitReply_cases reply limit start with ⟨delay, comes, inTime, ended⟩ | ⟨late, ended⟩
      · rw [ended] at uncut ⊢
        exact .reply comes inTime uncut
      · rw [ended] at uncut ⊢
        exact .limit late uncut

/-! ### What an ended exchange tells -/

namespace Exchange

variable {ended : Exchange}

/-- A failed exchange failed as the service did, or by the limit, or by the cancellation. -/
theorem Ends.error_source (ends : Exchange.Ends reply limit cancel start ended)
    {fault : InferenceFault} (failed : ended.outcome = .error fault) :
    reply.outcome = .error fault ∨ fault = .timeout ∨ fault = .cancelled := by
  cases ends with
  | reply => exact .inl failed
  | limit => exact .inr (.inl (Except.error.inj failed).symm)
  | cancellation => exact .inr (.inr (Except.error.inj failed).symm)

theorem Ends.ok_source (ends : Exchange.Ends reply limit cancel start ended)
    {raw : String} (delivered : ended.outcome = .ok raw) : reply.outcome = .ok raw := by
  cases ends with
  | reply => exact delivered
  | limit => cases delivered
  | cancellation => cases delivered

/-- The service is asked if the cancellation comes only after the start. -/
theorem Ends.asked_of_later (ends : Exchange.Ends reply limit cancel start ended)
    (later : ∀ c, cancel = some c → start < c) : ended.asked = true := by
  cases ends with
  | reply => rfl
  | limit => rfl
  | @cancellation c asked fired early unasked =>
      cases asked with
      | true => rfl
      | false =>
          have := later c fired
          have := unasked rfl
          omega

end Exchange

/-- Nothing cuts an exchange short when there is no cancellation. -/
theorem exchange_none (race : Race) (reply : Reply) (limit start : Nat) :
    exchange race reply limit none start = awaitReply reply limit start := rfl

end StudyDesk
