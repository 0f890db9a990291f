/-
Module: StudyDesk.Config.Settings
Purpose: The settings of the desk: their defaults, shapes, written form, and what is allowed.
Main exports:
  Params, InferenceSettings, RetrySettings, Settings, TutorSettings, Settings.check
-/
import StudyDesk.Config.Fault
import StudyDesk.Gate
import StudyDesk.Record.Document
import StudyDesk.Record.Text
import StudyDesk.Topic

namespace StudyDesk

/-!
Every section may be missing, and every field of a section.  Nothing is checked while a file is
read; `Settings.check` says afterwards whether the desk can run with the values.
-/

/-- Sampling parameters of a request. -/
structure Params where
  temperature : Floating
  maxOutputTokens : Nat
deriving DecidableEq, Repr

/-- The inference service and how it is asked. -/
structure InferenceSettings where
  baseUrl : String
  model : String
  /-- The environment variable that holds the key. -/
  apiKeyEnv : String
  temperature : Floating
  maxOutputTokens : Nat
  timeoutSecs : Nat
deriving DecidableEq, Repr

/-- How often a question is asked again, and after how long. -/
structure RetrySettings where
  maxAttempts : Nat
  backoffMs : Nat
deriving DecidableEq, Repr

/-- The settings of the desk. -/
structure Settings where
  inference : InferenceSettings
  denyList : List String
  registryVersion : Nat
  retry : RetrySettings
deriving DecidableEq, Repr

/-- The settings of the whole program: those of the desk, and where the practice problems are. -/
structure TutorSettings where
  desk : Settings
  dataDir : String
deriving DecidableEq, Repr

/-!
### Defaults
-/

/-- The temperature when none is configured: two tenths. -/
def defaultTemperature : Floating := .ofRatio .single false 2 10

/-- The parameters of a request when none are configured. -/
def Params.standard : Params := ⟨defaultTemperature, 800⟩

namespace InferenceSettings

/-- The service when none is configured. -/
def standard : InferenceSettings :=
  ⟨"https://api.openai.com/v1", "gpt-4.1-nano", "OPENAI_API_KEY", defaultTemperature, 800, 30⟩

/-- The sampling parameters. -/
def params (s : InferenceSettings) : Params := ⟨s.temperature, s.maxOutputTokens⟩

/-- The limit for one exchange, in milliseconds. -/
def timeoutMs (s : InferenceSettings) : Nat := s.timeoutSecs * 1000

/-- The key of the service, from the environment; an empty one counts as none. -/
def apiKey (s : InferenceSettings) (env : String → Option String) : Option String :=
  (env s.apiKeyEnv).filter (!·.isEmpty)

end InferenceSettings

/-- The retries when none are configured. -/
def RetrySettings.standard : RetrySettings := ⟨2, 250⟩

/-- The settings when nothing is configured. -/
def Settings.standard : Settings :=
  ⟨.standard, Gate.defaultTerms, Registry.defaultVersion, .standard⟩

/-- Where the practice problems are when nothing is configured. -/
def defaultDataDir : String := "./data/practice"

/-- The settings of the program when nothing is configured. -/
def TutorSettings.standard : TutorSettings := ⟨.standard, defaultDataDir⟩

/-!
### Shapes
-/

/-- The fields of the inference section. -/
def InferenceSettings.fields : Fields :=
  .cons "base_url" .defaulted .text <|
  .cons "model" .defaulted .text <|
  .cons "api_key_env" .defaulted .text <|
  .cons "temperature" .defaulted .real <|
  .cons "max_output_tokens" .defaulted (.natural 32) <|
  .cons "timeout_secs" .defaulted (.natural 64) .nil

/-- The inference section. -/
def InferenceSettings.ofParts : InferenceSettings.fields.Value → InferenceSettings
  | (baseUrl, model, apiKeyEnv, temperature, maxOutputTokens, timeoutSecs, ()) =>
      let d := InferenceSettings.standard
      ⟨Option.getD (α := String) baseUrl d.baseUrl, Option.getD (α := String) model d.model,
        Option.getD (α := String) apiKeyEnv d.apiKeyEnv,
        Option.getD (α := Floating) temperature d.temperature,
        Option.getD (α := Nat) maxOutputTokens d.maxOutputTokens,
        Option.getD (α := Nat) timeoutSecs d.timeoutSecs⟩

/-- The fields of the safety section. -/
def safetyFields : Fields := .cons "deny_list" .defaulted (.list .text) .nil

/-- The fields of the topics section. -/
def topicsFields : Fields := .cons "version" .defaulted (.natural 32) .nil

/-- The fields of the retry section. -/
def RetrySettings.fields : Fields :=
  .cons "max_attempts" .defaulted (.natural 32) <|
  .cons "backoff_ms" .defaulted (.natural 64) .nil

/-- The retry section. -/
def RetrySettings.ofParts : RetrySettings.fields.Value → RetrySettings
  | (maxAttempts, backoffMs, ()) =>
      ⟨Option.getD (α := Nat) maxAttempts RetrySettings.standard.maxAttempts,
        Option.getD (α := Nat) backoffMs RetrySettings.standard.backoffMs⟩

/-- The sections of the desk. -/
def Settings.fields : Fields :=
  .cons "inference" .defaulted (.record "InferenceConfig" InferenceSettings.fields) <|
  .cons "safety" .defaulted (.record "SafetyConfig" safetyFields) <|
  .cons "topics" .defaulted (.record "TopicsConfig" topicsFields) <|
  .cons "retry" .defaulted (.record "RetryConfig" RetrySettings.fields) .nil

/-- The shape of a configuration of the desk. -/
def Settings.shape : Shape := .record "PipelineConfig" Settings.fields

/-- The deny-list of a safety section. -/
def denyListOf : safetyFields.Value → List String
  | (terms, ()) => Option.getD (α := List String) terms Gate.defaultTerms

/-- The version of a topics section. -/
def versionOf : topicsFields.Value → Nat
  | (version, ()) => Option.getD (α := Nat) version Registry.defaultVersion

/-- The settings of the desk, a default for each section that is missing. -/
def Settings.ofParts : Settings.fields.Value → Settings
  | (inference, safety, topics, retry, ()) =>
      ⟨(Option.map InferenceSettings.ofParts inference).getD .standard,
        (Option.map denyListOf safety).getD Gate.defaultTerms,
        (Option.map versionOf topics).getD Registry.defaultVersion,
        (Option.map RetrySettings.ofParts retry).getD .standard⟩

/-- The fields of the practice section. -/
def practiceFields : Fields := .cons "data_dir" .defaulted .path .nil

/-- The data directory of a practice section. -/
def dataDirOf : practiceFields.Value → String
  | (dataDir, ()) => Option.getD (α := String) dataDir defaultDataDir

/-- The members of a program configuration that are not sections of the desk. -/
def TutorSettings.fields : Fields :=
  .cons "practice" .defaulted (.record "PracticeConfig" practiceFields) .nil

/-- The shape of a program configuration: the practice section, and members that are kept until they
are held against the shape of the desk. -/
def TutorSettings.shape : Shape := .openRecord "TutorConfig" TutorSettings.fields

/-- The data directory of a program configuration. -/
def practiceOf : TutorSettings.fields.Value → String
  | (practice, ()) => (Option.map dataDirOf practice).getD defaultDataDir

/-!
### Reading
-/

/-- The sections of the desk among members that were kept. -/
def Settings.ofMembers (members : List (String × Json)) : Except Json.Fault Settings := do
  let slots ← members.foldlM (Settings.fields.ofMember .counted) Settings.fields.emptySlots
  (Settings.fields.close slots).map Settings.ofParts

/-- The settings of the desk in a JSON text. -/
def Settings.ofText (cs : List Char) : Except Json.Failure Settings :=
  (Settings.shape.readAll cs).map Settings.ofParts

/-- The settings of the desk in a JSON value. -/
def Settings.ofJson (value : Json) : Except Json.Fault Settings :=
  (Settings.shape.ofJson .whole value.canonical).map Settings.ofParts

/-- The settings of the program in a JSON text.  Faults in the sections of the desk are found when the
whole object has been read. -/
def TutorSettings.ofText (cs : List Char) : Except Json.Failure TutorSettings := do
  let ((parts, members), rest) ← TutorSettings.shape.read Json.depthLimit cs
  match Settings.ofMembers members with
  | .error fault => .error ⟨fault, rest, 0⟩
  | .ok desk => do
      Json.complete rest
      .ok ⟨desk, practiceOf parts⟩

/-- The settings of the program in a JSON value. -/
def TutorSettings.ofJson (value : Json) : Except Json.Fault TutorSettings := do
  let (parts, members) ← TutorSettings.shape.ofJson .whole value.canonical
  .ok ⟨← Settings.ofMembers members, practiceOf parts⟩

/-- The settings of the desk in a document, read directly. -/
def Settings.ofDocument? (cs : List Char) : Option Settings := do
  let root ← Yaml.document? cs
  (Settings.shape.ofNode? root).map Settings.ofParts

/-- The pairs of a program configuration; a document without content has none. -/
def TutorSettings.pairs? : Yaml.Node → Option (List (Yaml.Node × Yaml.Node))
  | .mapping _ pairs => some pairs
  | other => if Record.isEmptyNode other then some [] else none

/-- The member that a pair of a program configuration stands for, unless it is the practice section:
a section of the desk settles for its shape, any other node just has to settle. -/
def TutorSettings.member? (pair : Yaml.Node × Yaml.Node) : Option (Option (String × Json)) := do
  let key ← Record.textOf? pair.1
  if TutorSettings.fields.names.contains key then some none
  else some (some (key, ← Settings.fields.settleField? key pair.2))

/-- The settings of the program in a document: the practice section is read directly, everything else
in two steps. -/
def TutorSettings.ofDocument? (cs : List Char) : Option TutorSettings := do
  let root ← Yaml.document? cs
  let pairs ← TutorSettings.pairs? root
  let members ← pairs.mapM TutorSettings.member?
  let slots ← pairs.foldlM TutorSettings.fields.ofPair? TutorSettings.fields.emptySlots
  let parts ← (TutorSettings.fields.close slots).toOption
  let desk ← (Settings.ofMembers (members.filterMap id)).toOption
  some ⟨desk, practiceOf parts⟩

/-!
### Writing
-/

/-- A number of 32 bits as a value. -/
def singleJson (x : Floating) : Json := .number (.single x)

/-- Sampling parameters as a value. -/
def Params.toJson (p : Params) : Json :=
  .object
    [("temperature", singleJson p.temperature),
      ("max_output_tokens", .ofNat p.maxOutputTokens)]

/-- The inference section as a value. -/
def InferenceSettings.toJson (s : InferenceSettings) : Json :=
  .object
    [("base_url", .string s.baseUrl),
      ("model", .string s.model),
      ("api_key_env", .string s.apiKeyEnv),
      ("temperature", singleJson s.temperature),
      ("max_output_tokens", .ofNat s.maxOutputTokens),
      ("timeout_secs", .ofNat s.timeoutSecs)]

/-- The retry section as a value. -/
def RetrySettings.toJson (s : RetrySettings) : Json :=
  .object [("max_attempts", .ofNat s.maxAttempts), ("backoff_ms", .ofNat s.backoffMs)]

/-- The sections of the desk as members. -/
def Settings.members (s : Settings) : List (String × Json) :=
  [("inference", s.inference.toJson),
    ("safety", .object [("deny_list", .ofStrings s.denyList)]),
    ("topics", .object [("version", .ofNat s.registryVersion)]),
    ("retry", s.retry.toJson)]

/-- The settings of the desk as a value. -/
def Settings.toJson (s : Settings) : Json := .object s.members

/-- The settings of the program as a value. -/
def TutorSettings.toJson (s : TutorSettings) : Json :=
  .object (s.desk.members ++ [("practice", .object [("data_dir", .string s.dataDir)])])

/-!
### Checking
-/

/-- Whether the desk can run with the settings: the first that it cannot run with is the fault.  The
deny-list is not looked at here. -/
def Settings.check (s : Settings) : Except ConfigFault Unit :=
  if !s.inference.temperature.between0And 2 then .error (.temperature s.inference.temperature)
  else if s.inference.maxOutputTokens = 0 then .error .maxOutputTokens
  else if s.inference.timeoutSecs = 0 then .error .timeout
  else if s.retry.maxAttempts = 0 then .error .maxAttempts
  else if (Registry.forVersion? s.registryVersion).isNone then
    .error (.registryVersion s.registryVersion)
  else .ok ()

end StudyDesk
