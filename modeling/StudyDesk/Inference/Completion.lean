/-
Module: StudyDesk.Inference.Completion
Purpose: The text that is posted for a question, and what is taken from the reply.
Main exports:
  Message, Completion.requestBody, Completion.content
-/
import StudyDesk.Config.Settings
import StudyDesk.Inference.Fault
import StudyDesk.Text.Blank

namespace StudyDesk

/-- A message of a conversation. -/
structure Message where
  role : String
  content : String
deriving DecidableEq, Repr

namespace Message

/-- The fields of a message. -/
def fields : Fields := .cons "role" .required .text <| .cons "content" .required .text .nil

/-- The shape of a message. -/
def shape : Shape := .record "ChatMessage" fields

/-- A message from its fields. -/
def ofParts : fields.Value → Message
  | (role, content, ()) => ⟨role, content⟩

/-- A message as a value. -/
def toJson (m : Message) : Json :=
  .object [("role", .string m.role), ("content", .string m.content)]

end Message

/-- The fields of sampling parameters. -/
def Params.fields : Fields :=
  .cons "temperature" .required .real <| .cons "max_output_tokens" .required (.natural 32) .nil

/-- The shape of sampling parameters. -/
def Params.shape : Shape := .record "InferenceParams" Params.fields

/-- Sampling parameters from their fields. -/
def Params.ofParts : Params.fields.Value → Params
  | (temperature, maxOutputTokens, ()) => ⟨temperature, maxOutputTokens⟩

/-- Sampling parameters in a JSON value. -/
def Params.ofJson (value : Json) : Except Json.Fault Params :=
  (Params.shape.ofJson .whole value.canonical).map Params.ofParts

namespace Completion

/-- What is asked: the model, the instruction and the question as two messages, and the sampling
parameters. -/
def request (model instruction question : String) (params : Params) : Json :=
  .object
    [("model", .string model),
      ("messages",
        .array
          [(Message.mk "system" instruction).toJson, (Message.mk "user" question).toJson]),
      ("temperature", singleJson params.temperature),
      ("max_tokens", .ofNat params.maxOutputTokens)]

/-- The text that is posted. -/
def requestBody (model instruction question : String) (params : Params) : String :=
  (request model instruction question params).compact

/-- The fields of the message in a choice. -/
def messageFields : Fields := .cons "content" .optional .text .nil

/-- The fields of a choice. -/
def choiceFields : Fields :=
  .cons "message" .required (.record "ResponseMessage" messageFields) .nil

/-- The fields of a reply. -/
def replyFields : Fields :=
  .cons "choices" .defaulted (.list (.record "Choice" choiceFields)) .nil

/-- The shape of a reply. -/
def replyShape : Shape := .record "ChatCompletionResponse" replyFields

/-- The text of a choice's message, if it has one. -/
def choiceContent : choiceFields.Value → Option String
  | ((content, ()), ()) => content

/-- The text of the first choice, if there is one. -/
def firstContent : replyFields.Value → Option String
  | (choices, ()) =>
      match (Option.getD choices [] : List choiceFields.Value) with
      | choice :: _ => choiceContent choice
      | [] => none

/-- The answer in the body of a reply: the text of the first choice, trimmed. -/
def content (body : String) : Except InferenceFault String :=
  match replyShape.readAll body.toList with
  | .error failure =>
      .error (.malformedResponse ("Failed to decode completion: " ++ failure.message body.toList))
  | .ok reply =>
      match firstContent reply with
      | some text => .ok (Text.trim text)
      | none => .error (.malformedResponse "completion has no message content")

end Completion

end StudyDesk
