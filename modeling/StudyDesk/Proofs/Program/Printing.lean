/-
Module: StudyDesk.Proofs.Program.Printing
Purpose: What is printed for a question keeps to the response contract when it was answered, and tells
  the failure when it was not.
Main exports:
  Contract.check_canonical, Output.parse_text, Desk.runWithRetry_wellFormed, Output.Tells,
  Output.ask_tells
-/
import StudyDesk.Program.Output
import StudyDesk.Proofs.Answer.RoundTrip
import StudyDesk.Proofs.Json.Canonical
import StudyDesk.Proofs.Session.Attempts

namespace StudyDesk

open Json (Holds Lacks Readable)

/-!
A printed value differs from the value that stands behind it in the order of its members and in its
white space.  The contract sees neither: it looks its members up by name, and reads the text as a
whole.
-/

/-! ### Canonical values under the contract -/

namespace Contract

variable {registry : Registry}

theorem optionalText_canonicalMembers (members : List (String × Json)) (field : String) :
    optionalText (Json.canonicalMembers members) field = optionalText members field := by
  rw [optionalText, Json.member?_canonicalMembers, optionalText]
  cases found : Json.member? field members with
  | none => rfl
  | some value => cases value <;> rfl

theorem validFlag_canonicalMembers (members : List (String × Json)) :
    validFlag (Json.canonicalMembers members) = validFlag members := by
  rw [validFlag, Json.member?_canonicalMembers, validFlag]
  cases found : Json.member? "valid" members with
  | none => rfl
  | some value => cases value <;> rfl

theorem texts_canonicalItems (index : Nat) (items : List Json) :
    texts index (Json.canonicalItems items) = texts index items := by
  induction items generalizing index with
  | nil => rfl
  | cons item rest ih =>
      rw [Json.canonicalItems]
      cases item with
      | string s => rw [Json.canonical, texts, texts, ih]
      | null | bool | number | array | object => rfl

theorem keywordList_canonicalMembers (members : List (String × Json)) :
    keywordList (Json.canonicalMembers members) = keywordList members := by
  rw [keywordList, Json.member?_canonicalMembers, keywordList]
  cases found : Json.member? "keywords" members with
  | none => rfl
  | some value =>
      cases value with
      | array items => exact texts_canonicalItems 0 items
      | null | bool | number | string | object => rfl

theorem fields_canonicalMembers (members : List (String × Json)) :
    fields (Json.canonicalMembers members) = fields members := by
  simp only [fields, questionKind, validFlag_canonicalMembers, optionalText_canonicalMembers,
    keywordList_canonicalMembers]

/-- The order of the members makes no difference to the contract. -/
theorem check_canonical (registry : Registry) (value : Json) :
    check registry value.canonical = check registry value := by
  cases value with
  | object members => rw [Json.canonical, check, fields_canonicalMembers, check]
  | null | bool | number | string | array => rfl

end Contract

/-! ### Printed texts -/

namespace Output

variable {output : Output} {members : List (String × Json)}

theorem toList_text (output : Output) :
    output.text.toList = Json.write .indented 0 output.body.canonical ++ ['\n'] := by
  rw [text, Json.pretty, String.toList_append, String.toList_ofList]
  rfl

/-- A printed text is a JSON text of the body in canonical form. -/
theorem parse_text (readable : Readable Json.depthLimit output.body) :
    Json.parse output.text.toList = .ok output.body.canonical := by
  rw [toList_text]
  exact Json.parse_write_append Json.Spacing.indented_isBlank readable.canonical
    (List.forall_mem_singleton.mpr rfl)

/-- Nothing but the line break at its end is stripped from a printed object. -/
theorem parse_stripFence_text (isObject : output.body = .object members)
    (readable : Readable Json.depthLimit output.body) :
    Json.parse (stripFence output.text.toList) = .ok output.body.canonical := by
  have stripped : stripFence output.text.toList =
      Json.write .indented 0 output.body.canonical := by
    have trimmed : Text.trimChars (Json.write .indented 0 output.body.canonical ++ ['\n']) =
        Text.trimChars (Json.write .indented 0 output.body.canonical) :=
      Text.trimChars_append_blank (List.forall_mem_singleton.mpr rfl) _
    rw [toList_text, stripFence, trimmed, ← stripFence, isObject, Json.canonical, stripFence_write]
  rw [stripped]
  exact Json.parse_write Json.Spacing.indented_isBlank readable.canonical

/-- The contract holds a printed object to the body. -/
theorem validate_text_of_check_ok {registry : Registry} {result : Classification}
    (isObject : output.body = .object members) (readable : Readable Json.depthLimit output.body)
    (checked : Contract.check registry output.body = .ok result) :
    Contract.validate registry output.text = .ok result := by
  rw [← Contract.check_canonical] at checked
  exact Contract.validate_of_check_ok (parse_stripFence_text isObject readable) checked

theorem validate_text_of_check_error {registry : Registry} {violation : Violation}
    (isObject : output.body = .object members) (readable : Readable Json.depthLimit output.body)
    (checked : Contract.check registry output.body = .error violation) :
    Contract.validate registry output.text =
      .error (.schemaViolation violation.message output.text) := by
  rw [← Contract.check_canonical] at checked
  exact Contract.validate_of_check_error (parse_stripFence_text isObject readable) checked

end Output

/-! ### Failures -/

namespace RunFailure

/-- The members of a written failure. -/
def members (failure : RunFailure) : List (String × Json) :=
  [("error", .string failure.kind.name), ("detail", .string failure.detail)] ++
    match failure.raw with
    | some raw => [("raw_response", .string raw)]
    | none => []

theorem toJson_eq (failure : RunFailure) : failure.toJson = .object failure.members := rfl

theorem toJson_readable (failure : RunFailure) : Readable Json.depthLimit failure.toJson := by
  rw [toJson_eq]
  apply Readable.object
  intro member listed
  rcases List.mem_append.mp listed with named | raw
  · simp only [List.mem_cons, List.not_mem_nil, or_false] at named
    rcases named with rfl | rfl
    · exact .string _
    · exact .string _
  · cases given : failure.raw with
    | none => simp [given] at raw
    | some text =>
        simp only [given, List.mem_singleton] at raw
        rw [raw]
        exact .string text

/-- What the names in a written failure stand for. -/
theorem member?_members (failure : RunFailure) :
    Json.member? "error" failure.members = some (.string failure.kind.name) ∧
      Json.member? "detail" failure.members = some (.string failure.detail) ∧
      Json.member? "raw_response" failure.members = failure.raw.map .string ∧
      Json.member? "valid" failure.members = none := by
  obtain ⟨kind, detail, raw, cause⟩ := failure
  cases raw with
  | none => simp [members, Json.member?]
  | some raw => simp [members, Json.member?]

/-- The contract misses the first of its members in a failure. -/
theorem check_toJson (registry : Registry) (failure : RunFailure) :
    Contract.check registry failure.toJson = .error .validMissing := by
  obtain ⟨-, -, -, absent⟩ := failure.member?_members
  simp only [toJson_eq, Contract.check, Contract.fields, Contract.validFlag, absent, bind,
    Except.bind]

end RunFailure

/-! ### Outcomes -/

namespace Desk

variable {desk : Desk} {service : Service} {cancel : Option Nat} {query : String}
  {start nextCall : Nat} {race : Race} {run : Run} {result : Classification}

/-- A result keeps to the contract, whether the gate gives it or the service. -/
theorem Course.wellFormed (course : Course desk service cancel query start nextCall race run)
    (done : run.outcome = .ok result) : result.WellFormed desk.registry := by
  cases course with
  | blank => cases done
  | blocked =>
      cases done
      exact .rejected (by decide)
  | failed => cases done
  | delivered =>
      obtain ⟨value, -, declares⟩ := Contract.validate_eq_ok_iff.mp done
      exact declares.wellFormed

theorem runWithRetry_wellFormed {policy : RetryPolicy} {races : Nat → Race}
    (done : (desk.runWithRetry service cancel policy query start nextCall races).outcome =
      .ok result) : result.WellFormed desk.registry := by
  have each : ∀ start nextCall race result,
      (desk.run service cancel query start nextCall race).outcome = .ok result →
        result.WellFormed desk.registry := fun start nextCall race _ =>
    (run_course desk service cancel query start nextCall race).wellFormed
  exact attempt_outcome (P := fun outcome => ∀ result, outcome = .ok result →
    result.WellFormed desk.registry) each _ _ start nextCall result done

end Desk

/-! ### The law -/

namespace Output

/-- What is printed for the outcome of a question, when results are held against a registry. -/
structure Tells (registry : Registry) (outcome : Outcome) (output : Output) : Prop where
  /-- The text of a result is accepted as that result, and the command succeeds. -/
  of_ok : ∀ result, outcome = .ok result →
    Contract.validate registry output.text = .ok result ∧ output.exitStatus = 0
  /-- The text of a failure is an object that tells its category and description, and the model output
  where there is some, -/
  of_error : ∀ failure, outcome = .error failure →
    ∃ members, Json.parse output.text.toList = .ok (.object members) ∧
      Holds members "error" (.string failure.kind.name) ∧
      Holds members "detail" (.string failure.detail) ∧
      (∀ raw, failure.raw = some raw → Holds members "raw_response" (.string raw)) ∧
      (failure.raw = none → Lacks members "raw_response")
  /-- which is never accepted as a result, and the command fails. -/
  refused : ∀ failure, outcome = .error failure →
    (∃ detail, Contract.validate registry output.text =
      .error (.schemaViolation detail output.text)) ∧ output.exitStatus = 1

/-- The output for a result that keeps to the contract, or for a failure, tells it. -/
theorem tells_ofOutcome {registry : Registry} {outcome : Outcome}
    (wellFormed : ∀ result, outcome = .ok result → result.WellFormed registry) :
    Tells registry outcome (ofOutcome outcome) where
  of_ok := by
    rintro result rfl
    have allowed := wellFormed result rfl
    have written := Classification.asWritten_of_not_isMisnamed allowed.not_isMisnamed
    have checked : Contract.check registry result.toJson = .ok result := by
      apply Contract.check_toJson_eq_ok_iff.mpr
      rw [written]
      exact ⟨rfl, allowed⟩
    exact ⟨validate_text_of_check_ok rfl result.toJson_readable checked, rfl⟩
  of_error := by
    rintro failure rfl
    obtain ⟨error, detail, raw, -⟩ := failure.member?_members
    refine ⟨Json.canonicalMembers failure.members, parse_text failure.toJson_readable, ?_⟩
    simp only [← Json.member?_eq_some_iff, ← Json.member?_eq_none_iff,
      Json.member?_canonicalMembers, error, detail, raw]
    refine ⟨rfl, rfl, ?_, ?_⟩
    · intro text given
      rw [given]
      rfl
    · intro none
      rw [none]
      rfl
  refused := by
    rintro failure rfl
    have checked := failure.check_toJson registry
    exact ⟨⟨_, validate_text_of_check_error failure.toJson_eq failure.toJson_readable checked⟩, rfl⟩

/-- What is printed for a question tells its outcome, whatever the service does, whenever a cancellation
comes, and however often it is asked. -/
theorem ask_tells (desk : Desk) (service : Service) (cancel : Option Nat) (policy : RetryPolicy)
    (query : String) (start nextCall : Nat) (races : Nat → Race) :
    Tells desk.registry
      (desk.runWithRetry service cancel policy query start nextCall races).outcome
      (ask desk service cancel policy query start nextCall races) := by
  apply tells_ofOutcome
  intro result done
  exact Desk.runWithRetry_wellFormed done

end Output

end StudyDesk
