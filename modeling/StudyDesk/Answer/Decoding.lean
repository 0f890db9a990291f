/-
Module: StudyDesk.Answer.Decoding
Purpose: Written results read back, as records only: nothing is held against the response contract.
Main exports:
  Classification.ofText, Tag.ofText, QuestionKind.ofText, FailureKind.ofText
-/
import StudyDesk.Answer.Classification
import StudyDesk.Record.Text

namespace StudyDesk

/-- The shape of a tag: any text. -/
def Tag.shape : Shape := .text

/-- The tag in a JSON text. -/
def Tag.ofText (cs : List Char) : Except Json.Failure Tag :=
  (Tag.shape.readAll cs).map Tag.ofName

namespace QuestionKind

/-- The shape of a kind: one of the names. -/
def shape : Shape := .variant (all.map name)

/-- The kind with a name that is known to be one. -/
def ofKnownName (name : String) : QuestionKind := (ofName? name).getD .other

/-- The kind in a JSON text. -/
def ofText (cs : List Char) : Except Json.Failure QuestionKind :=
  (shape.readAll cs).map ofKnownName

end QuestionKind

namespace FailureKind

/-- The shape of a category: one of the names. -/
def shape : Shape := .variant (all.map name)

/-- The category with a name that is known to be one. -/
def ofKnownName (name : String) : FailureKind := (ofName? name).getD .serviceError

/-- The category in a JSON text. -/
def ofText (cs : List Char) : Except Json.Failure FailureKind :=
  (shape.readAll cs).map ofKnownName

end FailureKind

namespace Classification

/-- The fields of a result. -/
def fields : Fields :=
  .cons "valid" .required .flag <|
  .cons "reason" .optional .text <|
  .cons "topic" .optional Tag.shape <|
  .cons "type" .optional QuestionKind.shape <|
  .cons "answer" .optional .text <|
  .cons "keywords" .defaulted (.list .text) .nil

/-- The shape of a result. -/
def shape : Shape := .record "ClassificationResult" fields

/-- A result from its fields. -/
def ofParts : fields.Value → Classification
  | (valid, reason, topic, kind, answer, keywords, ()) =>
      ⟨valid, reason, Option.map Tag.ofName topic, Option.map QuestionKind.ofKnownName kind, answer,
        (Option.getD keywords [] : List String)⟩

/-- The result in a JSON text. -/
def ofText (cs : List Char) : Except Json.Failure Classification :=
  (shape.readAll cs).map ofParts

end Classification

end StudyDesk
