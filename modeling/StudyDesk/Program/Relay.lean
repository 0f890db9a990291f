/-
Module: StudyDesk.Program.Relay
Purpose: The lines over which requests go out and answers come in.
Main exports:
  Request.line, Transfer.ofLine
-/
import StudyDesk.Inference.Client

namespace StudyDesk

/-!
The program opens no connection itself.  A request is one line of JSON that says everything a relay has
to send; the answer is one line of JSON with the status and the body.  A line that says anything else
stands for a connection that was closed.
-/

/-- A request as a line. -/
def Request.line (client : Client) (r : Request) : String :=
  (Json.object
    [("method", .string Client.method),
      ("url", .string (String.ofList client.endpoint.textWithoutFragment)),
      ("content_type", .string Client.contentType),
      ("authorization", .ofString? r.authorization),
      ("body", .string r.body)]).compact

/-- The fields of an answer. -/
def Transfer.fields : Fields :=
  .cons "status" .required (.natural 16) <| .cons "body" .required .text .nil

/-- The answer that the fields stand for. -/
def Transfer.ofParts : Transfer.fields.Value → Transfer
  | (status, body, ()) => .answered status (Text.encode (String.toList body))

/-- The answer in a line. -/
def Transfer.ofLine (line : String) : Transfer :=
  match (Shape.record "answer" Transfer.fields).readAll line.toList with
  | .ok parts => .ofParts parts
  | .error _ => .closed

end StudyDesk
