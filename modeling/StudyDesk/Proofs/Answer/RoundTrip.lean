/-
Module: StudyDesk.Proofs.Answer.RoundTrip
Purpose: A written result is accepted as itself exactly when the contract allows it.
Main exports:
  stripFence_write, Classification.asWritten, Contract.validate_compact_cases,
  Contract.validate_compact_of_wellFormed, Contract.validate_compact_iff_wellFormed
-/
import StudyDesk.Proofs.Answer.Acceptance
import StudyDesk.Proofs.Json.RoundTrip

namespace StudyDesk

open Json (Holds Omits Readable)

/-- A text in braces has neither white space nor a fence around it. -/
theorem stripFence_braces (middle : List Char) :
    stripFence ('{' :: (middle ++ ['}'])) = '{' :: (middle ++ ['}']) := by
  have trimmed : Text.trimChars ('{' :: (middle ++ ['}'])) = '{' :: (middle ++ ['}']) :=
    Text.trimChars_eq_self (by decide) (by decide)
  have noFence : withoutBeginning? fenceMark ('{' :: (middle ++ ['}'])) = none := by
    simp [withoutBeginning?, fenceMark]
  simp only [stripFence, trimmed, noFence]

/-- A written object stands in braces. -/
theorem write_object_eq_braces (spacing : Json.Spacing) (level : Nat)
    (members : List (String × Json)) :
    ∃ middle, Json.write spacing level (.object members) = '{' :: (middle ++ ['}']) := by
  cases members with
  | nil => exact ⟨[], rfl⟩
  | cons member members =>
      obtain ⟨key, value⟩ := member
      simp only [Json.write, ← List.append_assoc, ← List.cons_append]
      exact ⟨_, rfl⟩

/-- A written object has nothing around it that would be stripped. -/
theorem stripFence_write (spacing : Json.Spacing) (members : List (String × Json)) :
    stripFence (Json.write spacing 0 (.object members)) =
      Json.write spacing 0 (.object members) := by
  obtain ⟨middle, braces⟩ := write_object_eq_braces spacing 0 members
  rw [braces, stripFence_braces]

theorem stripFence_compact (members : List (String × Json)) :
    stripFence (Json.object members).compact.toList = Json.write .tight 0 (.object members) := by
  rw [Json.compact, String.toList_ofList, stripFence_write]

namespace Classification

/-- A result as its text tells it: a topic under the name of the escape tag is the escape tag. -/
def asWritten (result : Classification) : Classification :=
  { result with topic := result.topic.map fun tag => .ofName tag.name }

theorem toJson_readable (result : Classification) : Readable Json.depthLimit result.toJson := by
  have optional (text : Option String) : Readable 126 (.ofString? text) := by
    cases text with
    | none => exact .null
    | some s => exact .string s
  have keywords : Readable 126 (.ofStrings result.keywords) := by
    refine .array fun item member => ?_
    obtain ⟨s, -, rfl⟩ := List.mem_map.mp member
    exact .string s
  refine .object fun member listed => ?_
  simp only [List.mem_cons, List.not_mem_nil, or_false] at listed
  rcases listed with rfl | rfl | rfl | rfl | rfl | rfl
  · exact .bool _
  · exact optional _
  · exact optional _
  · exact optional _
  · exact optional _
  · exact keywords

theorem parse_compact (result : Classification) :
    Json.parse (stripFence result.toJson.compact.toList) = .ok result.toJson := by
  rw [toJson, stripFence_compact]
  exact Json.parse_write Json.Spacing.tight_isBlank result.toJson_readable

end Classification

namespace Contract

variable {registry : Registry} {result : Classification}

theorem givesText_of_member {members : List (String × Json)} {field : String}
    {text : Option String} (found : Json.member? field members = some (.ofString? text)) :
    GivesText members field text := by
  cases text with
  | none => exact Json.omits_iff.mpr (.inr found)
  | some s => exact Json.member?_eq_some_iff.mp found

theorem givesKind_of_member {members : List (String × Json)} {kind : Option QuestionKind}
    (found : Json.member? "type" members = some (.ofString? (kind.map QuestionKind.name))) :
    GivesKind members kind := by
  cases kind with
  | none => exact Json.omits_iff.mpr (.inr found)
  | some kind => exact Json.member?_eq_some_iff.mp found

/-- The members of a written result are read as the text tells them. -/
theorem fields_toJson (result : Classification) :
    ∃ members, result.toJson = .object members ∧ fields members = .ok result.asWritten := by
  refine ⟨_, rfl, fields_eq_ok_iff.mpr ⟨?_, ?_, ⟨result.topic.map Tag.name, ?_, ?_⟩, ?_, ?_, ?_⟩⟩
  · exact Json.member?_eq_some_iff.mp (by simp [Json.member?, Classification.asWritten])
  · exact givesText_of_member (by simp [Json.member?, Classification.asWritten])
  · exact givesText_of_member (by simp [Json.member?])
  · simp [Classification.asWritten, Function.comp_def]
  · exact givesKind_of_member (by simp [Json.member?, Classification.asWritten])
  · exact givesText_of_member (by simp [Json.member?, Classification.asWritten])
  · exact .inr (Json.member?_eq_some_iff.mp (by simp [Json.member?, Classification.asWritten]))

/-- Held against each other, the members give back the result when it is allowed, and nothing else. -/
theorem branch_eq_ok_iff {given : Classification} :
    (if given.valid then answeredBranch registry given else rejectedBranch given) = .ok result ↔
      result = given ∧ given.WellFormed registry := by
  obtain ⟨valid, reason, topic, kind, answer, keywords⟩ := given
  cases valid with
  | true =>
      rw [if_pos rfl, answeredBranch_eq_ok_iff]
      constructor
      · rintro ⟨rfl, tag, text, rfl, listed, rfl, notBlank, rfl⟩
        exact ⟨rfl, .answered listed notBlank⟩
      · rintro ⟨rfl, wellFormed⟩
        cases wellFormed with
        | answered listed notBlank => exact ⟨rfl, _, _, rfl, listed, rfl, notBlank, rfl⟩
  | false =>
      rw [if_neg Bool.false_ne_true, rejectedBranch_eq_ok_iff]
      constructor
      · rintro ⟨text, rfl, notBlank, rfl, rfl, rfl, rfl, rfl⟩
        exact ⟨rfl, .rejected notBlank⟩
      · rintro ⟨rfl, wellFormed⟩
        cases wellFormed with
        | rejected notBlank => exact ⟨_, rfl, notBlank, rfl, rfl, rfl, rfl, rfl⟩

theorem check_toJson_eq_ok_iff {accepted : Classification} :
    check registry result.toJson = .ok accepted ↔
      accepted = result.asWritten ∧ result.asWritten.WellFormed registry := by
  obtain ⟨members, written, read⟩ := fields_toJson result
  rw [written, check, bind_eq_ok_iff]
  simp only [read, Except.ok.injEq, exists_eq_left', branch_eq_ok_iff]

/-- A written result is accepted as its text tells it, or it breaks the contract; it always is a JSON
text. -/
theorem validate_compact_cases (registry : Registry) (result : Classification) :
    (result.asWritten.WellFormed registry ∧
        validate registry result.toJson.compact = .ok result.asWritten) ∨
      ¬ result.asWritten.WellFormed registry ∧ ∃ detail,
        validate registry result.toJson.compact =
          .error (.schemaViolation detail result.toJson.compact) := by
  have parsed := result.parse_compact
  cases checked : check registry result.toJson with
  | ok accepted =>
      obtain ⟨rfl, wellFormed⟩ := check_toJson_eq_ok_iff.mp checked
      exact .inl ⟨wellFormed, validate_of_check_ok parsed checked⟩
  | error violation =>
      refine .inr ⟨?_, violation.message, validate_of_check_error parsed checked⟩
      intro wellFormed
      rw [check_toJson_eq_ok_iff.mpr ⟨rfl, wellFormed⟩] at checked
      cases checked

end Contract

namespace Classification

/-- A topic that bears the name of the escape tag. -/
def IsMisnamed (result : Classification) : Prop := result.topic = some (.known Tag.unknownName)

theorem asWritten_of_not_isMisnamed {result : Classification} (named : ¬ result.IsMisnamed) :
    result.asWritten = result := by
  obtain ⟨valid, reason, topic, kind, answer, keywords⟩ := result
  cases topic with
  | none => rfl
  | some tag =>
      cases tag with
      | «unknown» => rfl
      | known name =>
          have other : name ≠ Tag.unknownName := fun same => named (by rw [IsMisnamed, same])
          simp [asWritten, Tag.name, Tag.ofName, other]

theorem asWritten_of_isMisnamed {result : Classification} (misnamed : result.IsMisnamed) :
    result.asWritten = { result with topic := some .unknown } := by
  rw [IsMisnamed] at misnamed
  simp [asWritten, misnamed, Tag.name, Tag.ofName]

/-- The contract never allows a topic that bears the name of the escape tag. -/
theorem WellFormed.not_isMisnamed {registry : Registry} {result : Classification}
    (wellFormed : result.WellFormed registry) : ¬ result.IsMisnamed := by
  intro misnamed
  cases wellFormed with
  | answered listed _ =>
      obtain rfl := Option.some.inj misnamed
      rcases listed with same | ⟨name, member, same⟩
      · cases same
      · cases same
        exact registry.unreserved member
  | rejected _ => cases misnamed

end Classification

/-- The text of a result that the contract allows is accepted as that result. -/
theorem Contract.validate_compact_of_wellFormed {registry : Registry} {result : Classification}
    (wellFormed : result.WellFormed registry) :
    validate registry result.toJson.compact = .ok result := by
  have same := Classification.asWritten_of_not_isMisnamed wellFormed.not_isMisnamed
  rcases validate_compact_cases registry result with ⟨-, validated⟩ | ⟨broken, -⟩
  · rw [validated, same]
  · rw [same] at broken
    exact absurd wellFormed broken

/-- The text of a result is accepted as that result exactly when the contract allows the result.  The
text of any other result breaks the contract and is kept; only where the sole fault is a topic that
bears the name of the escape tag, the text is accepted as the result with the escape tag. -/
theorem Contract.validate_compact_iff_wellFormed (registry : Registry) (result : Classification) :
    (validate registry result.toJson.compact = .ok result ↔ result.WellFormed registry) ∧
      (¬ result.WellFormed registry →
        ((∃ detail, validate registry result.toJson.compact =
            .error (.schemaViolation detail result.toJson.compact)) ↔
          ¬ (result.IsMisnamed ∧
            { result with topic := some .unknown }.WellFormed registry))) ∧
      (result.IsMisnamed → { result with topic := some .unknown }.WellFormed registry →
        validate registry result.toJson.compact =
          .ok { result with topic := some .unknown }) := by
  have fate := validate_compact_cases registry result
  by_cases misnamed : result.IsMisnamed
  · have refused : ¬ result.WellFormed registry := fun allowed => allowed.not_isMisnamed misnamed
    rw [Classification.asWritten_of_isMisnamed misnamed] at fate
    rcases fate with ⟨mended, validated⟩ | ⟨broken, detail, validated⟩
    · have changed : { result with topic := some .unknown } ≠ result := fun same => by
        rw [← same, Classification.IsMisnamed] at misnamed
        cases misnamed
      simp [validated, refused, changed, misnamed, mended]
    · exact ⟨by simp [validated, refused],
        fun _ => iff_of_true ⟨detail, validated⟩ fun both => broken both.2,
        fun _ mended => absurd mended broken⟩
  · rw [Classification.asWritten_of_not_isMisnamed misnamed] at fate
    rcases fate with ⟨allowed, validated⟩ | ⟨refused, detail, validated⟩
    · simp [validated, allowed, misnamed]
    · exact ⟨by simp [validated, refused],
        fun _ => iff_of_true ⟨detail, validated⟩ fun both => misnamed both.1,
        fun renamed => absurd renamed misnamed⟩

end StudyDesk
