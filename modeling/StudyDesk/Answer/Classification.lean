/-
Module: StudyDesk.Answer.Classification
Purpose: What a student gets for a question: a classified answer, a rejection, or a typed failure.
Main exports:
  QuestionKind, Classification, FailureKind, RunFailure
-/
import StudyDesk.Inference.Fault
import StudyDesk.Json.Printer
import StudyDesk.Topic

namespace StudyDesk

/-- The kind of question that was asked. -/
inductive QuestionKind where
  | conceptual
  | codeExplanation
  | exampleRequest
  | other
deriving DecidableEq, Repr, Inhabited

namespace QuestionKind

/-- All kinds, in the order of the response contract. -/
def all : List QuestionKind := [.conceptual, .codeExplanation, .exampleRequest, .other]

/-- The written form of a kind. -/
def name : QuestionKind → String
  | .conceptual => "conceptual"
  | .codeExplanation => "code_explanation"
  | .exampleRequest => "example_request"
  | .other => "other"

/-- The kind with the given written form. -/
def ofName? (name : String) : Option QuestionKind := all.find? fun kind => kind.name = name

end QuestionKind

/-- The outcome of classifying a question.  Results that the contract accepts have one of two
shapes: an answered question with topic and answer and without reason, or a rejected one with a
reason and nothing else. -/
structure Classification where
  valid : Bool
  reason : Option String
  topic : Option Tag
  kind : Option QuestionKind
  answer : Option String
  keywords : List String
deriving DecidableEq, Repr, Inhabited

namespace Classification

/-- An answered question. -/
def answered (topic : Tag) (kind : Option QuestionKind) (answer : String)
    (keywords : List String) : Classification :=
  ⟨true, none, some topic, kind, some answer, keywords⟩

/-- A rejected question. -/
def rejected (reason : String) : Classification :=
  ⟨false, some reason, none, none, none, []⟩

/-- The label under which an outcome is counted. -/
def label (result : Classification) : String :=
  if result.valid then "answered" else "rejected"

/-- A result as a value, its members in the order of the contract. -/
def toJson (result : Classification) : Json :=
  .object
    [("valid", .bool result.valid),
      ("reason", .ofString? result.reason),
      ("topic", .ofString? (result.topic.map Tag.name)),
      ("type", .ofString? (result.kind.map QuestionKind.name)),
      ("answer", .ofString? result.answer),
      ("keywords", .ofStrings result.keywords)]

end Classification

/-- The category of a failed run. -/
inductive FailureKind where
  | emptyQuery
  | serviceError
  | parseFailure
  | schemaViolation
deriving DecidableEq, Repr, Inhabited

namespace FailureKind

/-- All categories. -/
def all : List FailureKind := [.emptyQuery, .serviceError, .parseFailure, .schemaViolation]

/-- The written form of a category. -/
def name : FailureKind → String
  | .emptyQuery => "empty_query"
  | .serviceError => "service_error"
  | .parseFailure => "parse_failure"
  | .schemaViolation => "schema_violation"

/-- The category with the given written form. -/
def ofName? (name : String) : Option FailureKind := all.find? fun kind => kind.name = name

end FailureKind

/-- A failed run: its category, a description, the model output where there is some, and for service
errors the failure of the exchange. -/
structure RunFailure where
  kind : FailureKind
  detail : String
  raw : Option String
  cause : Option InferenceFault
deriving DecidableEq, Repr, Inhabited

namespace RunFailure

/-- The query held nothing but blanks. -/
def emptyQuery : RunFailure := ⟨.emptyQuery, "query is empty", none, none⟩

/-- The exchange with the inference service failed. -/
def service (cause : InferenceFault) : RunFailure :=
  ⟨.serviceError, cause.message, none, some cause⟩

/-- The model output was no JSON. -/
def parseFailure (detail raw : String) : RunFailure := ⟨.parseFailure, detail, some raw, none⟩

/-- The model output was JSON that broke the response contract. -/
def schemaViolation (detail raw : String) : RunFailure :=
  ⟨.schemaViolation, detail, some raw, none⟩

/-- Category and description in one line. -/
def message (failure : RunFailure) : String := failure.kind.name ++ ": " ++ failure.detail

/-- Whether another run could succeed: a service error, unless its cause is known to stay. -/
def isRetryable (failure : RunFailure) : Bool :=
  failure.kind = .serviceError &&
    match failure.cause with
    | some cause => cause.isTransient
    | none => true

/-- A failure as a value; model output is left out where there is none. -/
def toJson (failure : RunFailure) : Json :=
  .object
    ([("error", .string failure.kind.name), ("detail", .string failure.detail)] ++
      match failure.raw with
      | some raw => [("raw_response", .string raw)]
      | none => [])

end RunFailure

/-- The outcome of a run. -/
abbrev Outcome := Except RunFailure Classification

end StudyDesk
