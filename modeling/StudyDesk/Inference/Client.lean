/-
Module: StudyDesk.Inference.Client
Purpose: One exchange with a completions service over HTTP, as data.
Main exports:
  Client, Request, Transfer, Client.ofSettings, Client.request, Client.reply
-/
import StudyDesk.Inference.Completion
import StudyDesk.Inference.Endpoint
import StudyDesk.Session.Reply
import StudyDesk.Url.Naming

namespace StudyDesk

/-- A completions service: where it is, which model it runs, and the key it wants. -/
structure Client where
  endpoint : Url
  model : String
  apiKey : Option String
deriving DecidableEq, Repr

/-- A request as it is sent. -/
structure Request where
  target : String
  authorization : Option String
  body : String
deriving DecidableEq, Repr

/-- What comes back over the connection. -/
inductive Transfer where
  | answered (status : Nat) (body : List UInt8)
  /-- The connection was closed before any answer. -/
  | closed
  /-- No answer ever comes. -/
  | silent
  /-- The answer began and broke off. -/
  | cutOff (status : Nat)
deriving DecidableEq, Repr

namespace Client

/-- The name under which exchanges are counted. -/
def name : String := "openai"

/-- The method of a request. -/
def method : String := "POST"

/-- The type of a request's body. -/
def contentType : String := "application/json"

/-- The service that settings name. -/
def ofSettings (s : InferenceSettings) (env : String → Option String) :
    Except ConfigFault Client :=
  (Endpoint.ofBase Naming.plain s.baseUrl).map fun url => ⟨url, s.model, s.apiKey env⟩

/-- Whether a key can be sent in a header: it has no control character but the tab. -/
def isSendable (key : String) : Bool :=
  key.toList.all fun c => c = '\t' || (0x20 ≤ c.toNat && c.toNat != 0x7F)

/-- Whether a request can be sent at all. -/
def canSend (client : Client) : Bool := client.apiKey.all isSendable

/-- The request for a question. -/
def request (client : Client) (instruction question : String) (params : Params) : Request where
  target := String.ofList client.endpoint.target
  authorization := client.apiKey.map ("Bearer " ++ ·)
  body := Completion.requestBody client.model instruction question params

/-- The failure that a status stands for. -/
def statusFault (status : Nat) (body : String) : InferenceFault :=
  if status = 401 || status = 403 then .authentication body
  else if status = 429 then .rateLimited body
  else .status status body

/-- Whether a status says success. -/
def isSuccess (status : Nat) : Bool := 200 ≤ status && status ≤ 299

/-- Whether an answer with a status has a body. -/
def hasBody (status : Nat) : Bool := status != 204 && status != 304

/-- What an answer yields that came whole. -/
def answer (status : Nat) (body : List UInt8) : Except InferenceFault String :=
  if isSuccess status then Completion.content (Text.decodeLossy body)
  else .error (statusFault status (Text.decodeLossy body))

/-- What an exchange yields. -/
def outcome (client : Client) : Transfer → Except InferenceFault String
  | .answered status body => answer status (if hasBody status then body else [])
  | .closed =>
      .error (.transport ("error sending request for url (" ++
        String.ofList client.endpoint.textWithoutFragment ++ ")"))
  | .silent => .error .timeout
  | .cutOff status =>
      if !hasBody status then answer status []
      else if isSuccess status then .error (.malformedResponse "error decoding response body")
      else .error (statusFault status "")

/-- What an exchange yields, and when: at once, or never. -/
def reply (client : Client) (transfer : Transfer) : Reply :=
  if client.canSend then
    ⟨client.outcome transfer, if transfer = .silent then none else some 0⟩
  else ⟨.error (.transport "builder error"), some 0⟩

end Client

end StudyDesk
