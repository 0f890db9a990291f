/-
Module: StudyDesk.Practice.Problem
Purpose: Practice problems: the entries of the list, and the full records.
Main exports:
  Summary, Detail, Detail.ofJson, Detail.toJson
-/
import StudyDesk.Json.Printer
import StudyDesk.Record.Text
import StudyDesk.Record.Value

namespace StudyDesk

/-- An entry of the problem list. -/
structure Summary where
  id : String
  title : String
  topic : String
  difficulty : String
deriving DecidableEq, Repr

namespace Summary

/-- The fields of an entry. -/
def fields : Fields :=
  .cons "id" .required .text <|
  .cons "title" .required .text <|
  .cons "topic" .required .text <|
  .cons "difficulty" .required .text .nil

/-- The shape of an entry. -/
def shape : Shape := .record "ProblemSummary" fields

/-- An entry from its fields. -/
def ofParts : fields.Value → Summary
  | (id, title, topic, difficulty, ()) => ⟨id, title, topic, difficulty⟩

/-- An entry as a value. -/
def toJson (s : Summary) : Json :=
  .object
    [("id", .string s.id), ("title", .string s.title), ("topic", .string s.topic),
      ("difficulty", .string s.difficulty)]

end Summary

/-- The full record of a problem.  Members that it does not know are kept as they are, in canonical
form. -/
structure Detail where
  title : String
  topic : String
  difficulty : String
  /-- The name of the function to be written. -/
  function : String
  inputs : List String
  returnType : String
  statement : String
  sampleInput : Option String
  sampleOutput : Option String
  extra : List (String × Json)
deriving Repr

namespace Detail

/-- The fields that a record knows. -/
def fields : Fields :=
  .cons "title" .required .text <|
  .cons "topic" .required .text <|
  .cons "difficulty" .required .text <|
  .cons "function" .required .text <|
  .cons "inputs" .defaulted (.list .text) <|
  .cons "return" .required .text <|
  .cons "statement" .required .text <|
  .cons "sample_input" .defaulted (.nullable .text) <|
  .cons "sample_output" .defaulted (.nullable .text) .nil

/-- The shape of a record. -/
def shape : Shape := .openRecord "ProblemDetail" fields

/-- A record from its fields and the members beside them. -/
def ofParts : fields.Value → List (String × Json) → Detail
  | (title, topic, difficulty, function, inputs, returnType, statement, sampleInput,
      sampleOutput, ()), extra =>
      ⟨title, topic, difficulty, function, Option.getD (α := List String) inputs [], returnType,
        statement, Option.getD (α := Option String) sampleInput none,
        Option.getD (α := Option String) sampleOutput none, Json.canonicalMembers extra⟩

/-- The record in a JSON text. -/
def ofText (cs : List Char) : Except Json.Failure Detail :=
  (shape.readAll cs).map fun parts => ofParts parts.1 parts.2

/-- The record in a JSON value. -/
def ofJson (value : Json) : Except Json.Fault Detail :=
  (shape.ofJson .whole value.canonical).map fun parts => ofParts parts.1 parts.2

/-- A record as a value: its fields in order, then the other members. -/
def toJson (d : Detail) : Json :=
  .object
    ([("title", .string d.title),
      ("topic", .string d.topic),
      ("difficulty", .string d.difficulty),
      ("function", .string d.function),
      ("inputs", .ofStrings d.inputs),
      ("return", .string d.returnType),
      ("statement", .string d.statement),
      ("sample_input", .ofString? d.sampleInput),
      ("sample_output", .ofString? d.sampleOutput)] ++ d.extra)

end Detail

end StudyDesk
