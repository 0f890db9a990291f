/-
Module: StudyDesk.Answer.Contract
Purpose: The response contract: which model output is a classification, and what is wrong with any
  other.
Main exports:
  Violation, Violation.message, Contract.check, Contract.validate
-/
import StudyDesk.Answer.Classification
import StudyDesk.Answer.Fence
import StudyDesk.Json.Parser

namespace StudyDesk

/-- A breach of the response contract. -/
inductive Violation where
  | notObject (kind : String)
  | validNotBoolean (kind : String)
  | validMissing
  | notText (field kind : String)
  | unsupportedKind (name : String)
  | keywordsNotList (kind : String)
  | keywordNotText (index : Nat) (kind : String)
  | reasonGiven
  | topicMissing
  | topicOutside (tag : Tag) (version : Nat)
  | answerMissing
  | answerBlank
  | reasonMissing
  | reasonBlank
  | answerGiven
  | topicOrKindGiven
  | keywordsGiven
deriving DecidableEq, Repr

/-- The wording of a breach. -/
def Violation.message : Violation → String
  | .notObject kind => "expected a JSON object, found " ++ kind
  | .validNotBoolean kind => "field 'valid' must be a boolean, found " ++ kind
  | .validMissing => "missing required field 'valid'"
  | .notText field kind => "field '" ++ field ++ "' must be a string or null, found " ++ kind
  | .unsupportedKind name => "field 'type' has unsupported value '" ++ name ++ "'"
  | .keywordsNotList kind => "field 'keywords' must be an array, found " ++ kind
  | .keywordNotText index kind =>
      "keywords[" ++ String.ofList (Layout.digitsOf index) ++ "] must be a string, found " ++ kind
  | .reasonGiven => "field 'reason' must be null when 'valid' is true"
  | .topicMissing => "missing required field 'topic' for a valid query"
  | .topicOutside tag version =>
      "field 'topic' has value '" ++ tag.name ++ "' outside registry v" ++
        String.ofList (Layout.digitsOf version)
  | .answerMissing => "missing required field 'answer' for a valid query"
  | .answerBlank => "field 'answer' must not be blank"
  | .reasonMissing => "missing required field 'reason' for an invalid query"
  | .reasonBlank => "field 'reason' must not be blank"
  | .answerGiven => "field 'answer' must be null when 'valid' is false"
  | .topicOrKindGiven => "fields 'topic' and 'type' must be null when 'valid' is false"
  | .keywordsGiven => "field 'keywords' must be empty when there is no answer"

namespace Contract

/-!
The fields are read first, each for its own type, in the order valid, reason, topic, type, answer,
keywords; only then are they held against each other.  So a field of the wrong type is reported even
where the branch would not allow the field at all.
-/

/-- A field that is a text, or absent, where null counts as absent. -/
def optionalText (members : List (String × Json)) (field : String) :
    Except Violation (Option String) :=
  match Json.member? field members with
  | none => .ok none
  | some .null => .ok none
  | some (.string s) => .ok (some s)
  | some other => .error (.notText field other.kind)

/-- The items of a list that must all be texts, counted from an index on. -/
def texts (index : Nat) : List Json → Except Violation (List String)
  | [] => .ok []
  | .string s :: rest => do .ok (s :: (← texts (index + 1) rest))
  | other :: _ => .error (.keywordNotText index other.kind)

/-- The keywords; absent and null are the empty list. -/
def keywordList (members : List (String × Json)) : Except Violation (List String) :=
  match Json.member? "keywords" members with
  | none => .ok []
  | some .null => .ok []
  | some (.array items) => texts 0 items
  | some other => .error (.keywordsNotList other.kind)

/-- The flag that says which branch of the contract holds. -/
def validFlag (members : List (String × Json)) : Except Violation Bool :=
  match Json.member? "valid" members with
  | some (.bool b) => .ok b
  | some other => .error (.validNotBoolean other.kind)
  | none => .error .validMissing

/-- The kind of question, if it is given. -/
def questionKind (members : List (String × Json)) : Except Violation (Option QuestionKind) := do
  match ← optionalText members "type" with
  | none => .ok none
  | some name =>
      match QuestionKind.ofName? name with
      | some kind => .ok (some kind)
      | none => .error (.unsupportedKind name)

/-- The fields, each read for its type. -/
def fields (members : List (String × Json)) : Except Violation Classification := do
  let valid ← validFlag members
  let reason ← optionalText members "reason"
  let topic ← optionalText members "topic"
  let kind ← questionKind members
  let answer ← optionalText members "answer"
  let keywords ← keywordList members
  .ok ⟨valid, reason, topic.map Tag.ofName, kind, answer, keywords⟩

/-- The branch for an answered question. -/
def answeredBranch (registry : Registry) (given : Classification) :
    Except Violation Classification :=
  if given.reason.isSome then .error .reasonGiven
  else
    match given.topic with
    | none => .error .topicMissing
    | some topic =>
        if !registry.accepts topic then .error (.topicOutside topic registry.version)
        else
          match given.answer with
          | none => .error .answerMissing
          | some answer =>
              if Text.isBlankText answer then .error .answerBlank
              else .ok (.answered topic given.kind answer given.keywords)

/-- The branch for a rejected question. -/
def rejectedBranch (given : Classification) : Except Violation Classification :=
  match given.reason with
  | none => .error .reasonMissing
  | some reason =>
      if Text.isBlankText reason then .error .reasonBlank
      else if given.answer.isSome then .error .answerGiven
      else if given.topic.isSome || given.kind.isSome then .error .topicOrKindGiven
      else if !given.keywords.isEmpty then .error .keywordsGiven
      else .ok (.rejected reason)

/-- A value held against the contract. -/
def check (registry : Registry) : Json → Except Violation Classification
  | .object members => do
      let given ← fields members
      if given.valid then answeredBranch registry given else rejectedBranch given
  | other => .error (.notObject other.kind)

/-- Raw model output held against the contract, after removing one fence around it. -/
def validate (registry : Registry) (raw : String) : Outcome :=
  let body := stripFence raw.toList
  match Json.parse body with
  | .error failure =>
      .error (.parseFailure ("output is not valid JSON: " ++ failure.message body) raw)
  | .ok value =>
      match check registry value with
      | .ok result => .ok result
      | .error violation => .error (.schemaViolation violation.message raw)

end Contract

end StudyDesk
