/-
Module: StudyDesk.Proofs.Session.TurnedAway
Purpose: A question that the gate blocks is turned away at once, whichever way it comes in.
Main exports:
  Desk.blocks_recast, Desk.run_of_blocks, Desk.TurnsAway, Desk.turnsAway_recast
-/
import StudyDesk.Program.Output
import StudyDesk.Proofs.Gate.Matching
import StudyDesk.Proofs.Session.Attempts

namespace StudyDesk.Desk

variable {desk : Desk} {query : String}

/-! ### Blocked questions -/

/-- A term in other case is found wherever it stands: nothing around it changes its lower case, and
trimming leaves it whole. -/
theorem blocks_recast {terms : List String} (made : Gate.ofTerms? terms = some desk.gate)
    {term recast : String} (isTerm : term ∈ desk.gate.terms) (noSigma : 'Σ' ∉ recast.toList)
    (same : Text.lower recast = term) (before after : String) :
    Text.isBlankText (before ++ recast ++ after) = false ∧
      desk.Blocks (before ++ recast ++ after) := by
  have lowered : Text.lowerChars recast.toList = term.toList := by
    rw [← same, Text.lower, String.toList_ofList]
  have trimmed : Text.IsTrimmed recast.toList := by
    rw [← Text.isTrimmed_lowerChars_iff, lowered]
    exact Gate.isTrimmed_of_made made isTerm
  have nonempty : recast.toList ≠ [] := by
    rw [ne_eq, ← Text.lowerChars_eq_nil_iff, lowered, String.toList_eq_nil_iff]
    exact Gate.nonempty_of_made made term isTerm
  have question : (Text.trim (before ++ recast ++ after)).toList =
      before.toList.dropWhile Text.isBlank ++ recast.toList ++
        Text.trimEndChars after.toList := by
    rw [Text.trim, String.toList_ofList, String.toList_append, String.toList_append,
      Text.trimChars_around nonempty trimmed]
  constructor
  · rw [← Text.trim_isEmpty, ← Bool.not_eq_true, String.isEmpty_iff, ← String.toList_eq_nil_iff,
      question]
    simp [nonempty]
  · refine Gate.blocks_of_infix (Gate.nonempty_of_made made) isTerm ?_
    rw [question, ← lowered]
    exact Text.lowerChars_infix_of_steady (Text.isSteady_of_not_mem noSigma) _ _

/-- The record of a question that is turned away. -/
def turnedAway (start : Nat) : Run :=
  ⟨[.received, .done], .ok (.rejected Gate.blockedReason), [], start⟩

theorem run_of_blocks (notBlank : Text.isBlankText query = false) (blocked : desk.Blocks query)
    (service : Service) (cancel : Option Nat) (start nextCall : Nat) (race : Race) :
    desk.run service cancel query start nextCall race = turnedAway start := by
  rw [run, Text.trim_isEmpty, notBlank, passes_eq_false_iff.mpr blocked]
  rfl

theorem runWithRetry_of_blocks (notBlank : Text.isBlankText query = false)
    (blocked : desk.Blocks query) (service : Service) (cancel : Option Nat) (policy : RetryPolicy)
    (start nextCall : Nat) (races : Nat → Race) :
    desk.runWithRetry service cancel policy query start nextCall races =
      ⟨[turnedAway start], 0, .ok (.rejected Gate.blockedReason), start, 1⟩ := by
  have run := run_of_blocks notBlank blocked service cancel start nextCall
  rw [runWithRetry, attempt_of_stays (by rw [run]; rfl), run]
  rfl

/-! ### Every way in -/

/-- What holds of a question that is turned away, whatever the service does, whenever a cancellation
comes, and however often it might have been asked. -/
structure TurnsAway (desk : Desk) (query : String) : Prop where
  /-- It is done as it is received: no instruction goes out, nothing is asked, no time passes. -/
  run : ∀ service cancel start nextCall race,
    desk.run service cancel query start nextCall race =
      ⟨[.received, .done], .ok (.rejected Gate.blockedReason), [], start⟩
  classify : ∀ service start nextCall,
    desk.classify service query start nextCall = .ok (.rejected Gate.blockedReason)
  classifyWithCancel : ∀ service cancel start nextCall race,
    desk.classifyWithCancel service cancel query start nextCall race =
      .ok (.rejected Gate.blockedReason)
  /-- There is one run and no retry. -/
  retry : ∀ service cancel policy start nextCall races,
    desk.runWithRetry service cancel policy query start nextCall races =
      ⟨[⟨[.received, .done], .ok (.rejected Gate.blockedReason), [], start⟩], 0,
        .ok (.rejected Gate.blockedReason), start, 1⟩
  ask : ∀ service cancel policy start nextCall races,
    Output.ask desk service cancel policy query start nextCall races =
      ⟨(Classification.rejected Gate.blockedReason).toJson, true⟩
  /-- It is counted once, as rejected, and nothing else is counted. -/
  tally : ∀ service cancel start nextCall race,
    (desk.run service cancel query start nextCall race).tally = { Tally.zero with rejected := 1 }
  attemptsTally : ∀ service cancel policy start nextCall races,
    (desk.runWithRetry service cancel policy query start nextCall races).tally =
      { Tally.zero with rejected := 1 }
  /-- No attempt calls the service. -/
  calls : ∀ service cancel policy start nextCall races,
    (desk.runWithRetry service cancel policy query start nextCall races).calls = []

theorem turnsAway_of_blocks (notBlank : Text.isBlankText query = false)
    (blocked : desk.Blocks query) : desk.TurnsAway query := by
  have run := run_of_blocks notBlank blocked
  have retry := runWithRetry_of_blocks notBlank blocked
  exact {
    run := run
    classify := by
      intro service start nextCall
      rw [classify, classifyWithCancel, run]
      rfl
    classifyWithCancel := by
      intro service cancel start nextCall race
      rw [classifyWithCancel, run]
      rfl
    retry := retry
    ask := by
      intro service cancel policy start nextCall races
      rw [Output.ask, retry]
      rfl
    tally := by
      intro service cancel start nextCall race
      rw [run]
      rfl
    attemptsTally := by
      intro service cancel policy start nextCall races
      rw [retry]
      rfl
    calls := by
      intro service cancel policy start nextCall races
      rw [retry]
      rfl }

/-- A question that holds a term of the gate in any case is turned away, whatever stands around it. -/
theorem turnsAway_recast (terms : List String) (desk : Desk)
    (made : Gate.ofTerms? terms = some desk.gate) (term recast : String)
    (isTerm : term ∈ desk.gate.terms) (noSigma : 'Σ' ∉ recast.toList)
    (same : Text.lower recast = term) (before after : String) :
    desk.TurnsAway (before ++ recast ++ after) := by
  obtain ⟨notBlank, blocked⟩ := blocks_recast made isTerm noSigma same before after
  exact turnsAway_of_blocks notBlank blocked

/-- So is one that shouts a usual term, with a capital sigma on either side. -/
theorem turnsAway_shouted : standard.TurnsAway ("Σ" ++ "HaCK" ++ "Σ ") :=
  turnsAway_recast Gate.defaultTerms standard (by decide +kernel) "hack" "HaCK" (by decide +kernel)
    (by decide +kernel) (by decide +kernel) "Σ" "Σ "

end StudyDesk.Desk
