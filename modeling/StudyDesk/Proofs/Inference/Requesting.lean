/-
Module: StudyDesk.Proofs.Inference.Requesting
Purpose: The text of a request says what was asked, and a question changes nothing in it but its own
  place.
Main exports:
  Floating.fits, Params.Fits, Completion.asRead, Completion.parse_requestBody,
  Completion.requestBody_eq, Completion.RequestLaw, Completion.requestLaw
-/
import StudyDesk.Inference.Client
import StudyDesk.Proofs.Json.Reals
import StudyDesk.Proofs.Session.Attempts

namespace StudyDesk

/-! ### Parameters -/

/-- Whether a number is a finite one of a format. -/
def Floating.fits (fmt : FloatFormat) : Floating → Bool
  | .finite _ m e => m < Nat.pow 2 fmt.precision && fmt.lowest ≤ e && e ≤ fmt.highest
  | _ => false

/-- Parameters with a finite temperature of 32 bits and a limit of 32 bits. -/
structure Params.Fits (params : Params) : Prop where
  temperature : params.temperature.fits .single = true
  maxOutputTokens : params.maxOutputTokens < Nat.pow 2 32

/-- The temperature of a request is written as a JSON number. -/
theorem Params.Fits.exists_readsAs {params : Params} (fits : params.Fits) :
    ∃ found, (Json.Number.single params.temperature).ReadsAs found := by
  have finite := fits.temperature
  cases shown : params.temperature with
  | finite negative m e =>
      rw [shown] at finite
      simp only [Floating.fits, FloatFormat.single, Bool.and_eq_true] at finite
      exact Json.exists_readsAs negative (of_decide_eq_true finite.1.1) (of_decide_eq_true finite.2)
  | infinite negative =>
      rw [shown] at finite
      cases finite
  | undefined =>
      rw [shown] at finite
      cases finite

namespace Completion

open Json (stringText numberText integerText escape write)

variable {model instruction question : String} {params : Params}

/-! ### The text around a question -/

/-- What stands before a question, up to the quote that opens it. -/
def beforeQuestion (model instruction : String) : List Char :=
  '{' :: (stringText "model" ++ ':' :: (stringText model ++ ',' :: (stringText "messages" ++
    ':' :: '[' :: (write .tight 2 (Message.mk "system" instruction).toJson ++
      ',' :: '{' :: (stringText "role" ++ ':' :: (stringText "user" ++
        ',' :: (stringText "content" ++ [':', '"'])))))))

/-- What stands behind a question, from the quote that closes it. -/
def afterQuestion (params : Params) : List Char :=
  '"' :: '}' :: ']' :: ',' :: (stringText "temperature" ++
    ':' :: (numberText (.single params.temperature) ++ ',' :: (stringText "max_tokens" ++
      ':' :: (integerText params.maxOutputTokens ++ ['}']))))

/-- The text of a request is the escaped question between the two. -/
theorem requestBody_eq (model instruction question : String) (params : Params) :
    requestBody model instruction question params =
      String.ofList (beforeQuestion model instruction ++
        (escape question.toList ++ afterQuestion params)) := by
  rw [requestBody, Json.compact]
  congr 1
  simp only [request, Message.toJson, beforeQuestion, afterQuestion, singleJson, Json.ofNat, write,
    Json.writeItems, Json.writeMembers, Json.Spacing.tight, stringText, List.nil_append,
    List.append_assoc, List.cons_append]
  rfl

/-! ### What the text says -/

/-- What a request says to whoever reads it, with the temperature as it is read. -/
def asRead (temperature : Json.Number) (model instruction question : String)
    (maxOutputTokens : Nat) : Json :=
  .object
    [("model", .string model),
      ("messages",
        .array
          [.object [("role", .string "system"), ("content", .string instruction)],
            .object [("role", .string "user"), ("content", .string question)]]),
      ("temperature", .number temperature),
      ("max_tokens", .number (.integer maxOutputTokens))]

/-- The messages of a request. -/
def messages (instruction question : String) : Json :=
  .array [(Message.mk "system" instruction).toJson, (Message.mk "user" question).toJson]

theorem readable_message (role content : String) (depth : Nat) :
    Json.Readable (depth + 1) (Message.mk role content).toJson := by
  refine .object fun member listed => ?_
  rcases List.mem_pair.mp listed with rfl | rfl
  · exact .string role
  · exact .string content

theorem readable_messages (instruction question : String) (depth : Nat) :
    Json.Readable (depth + 2) (messages instruction question) := by
  refine .array fun message listed => ?_
  rcases List.mem_pair.mp listed with rfl | rfl
  · exact readable_message _ _ depth
  · exact readable_message _ _ depth

/-- The text of a request is read as what was asked. -/
theorem parse_requestBody {found : Json.Number}
    (temperature : (Json.Number.single params.temperature).ReadsAs found)
    (limit : params.maxOutputTokens < Json.significandLimit)
    (model instruction question : String) :
    Json.parse (requestBody model instruction question params).toList =
      .ok (asRead found model instruction question params.maxOutputTokens) := by
  have modelReads : Json.ReadsBackAt .tight 126 (.string model) :=
    Json.readsBackAt_string .tight 126 model
  have messagesRead : Json.ReadsBackAt .tight 126 (messages instruction question) :=
    Json.readValue_write Json.Spacing.tight_isBlank (readable_messages instruction question 124)
  have limitReads : Json.ReadsBackAt .tight 126 (.ofNat params.maxOutputTokens) :=
    Json.readsBackAt_ofNat .tight 126 limit
  have reads : Json.ReadsAsAt .tight Json.depthLimit (request model instruction question params)
      (asRead found model instruction question params.maxOutputTokens) :=
    Json.readsAsAt_object Json.Spacing.tight_isBlank
      (.cons ⟨rfl, modelReads⟩ (.cons ⟨rfl, messagesRead⟩
        (.cons ⟨rfl, temperature.readsAsAt⟩ (.cons ⟨rfl, limitReads⟩ .nil))))
  rw [requestBody, Json.compact, String.toList_ofList]
  exact Json.parse_write_as reads

/-! ### The law of requests -/

/-- Every call of a question has the instruction of the desk and the trimmed question. -/
theorem eq_of_mem_calls {desk : Desk} {service : Service} {cancel : Option Nat}
    {policy : RetryPolicy} {query : String} {start nextCall : Nat} {races : Nat → Race}
    {call : Call}
    (member : call ∈ (desk.runWithRetry service cancel policy query start nextCall races).calls) :
    ∃ time, call = desk.call query time := by
  have each : ∀ start nextCall race,
      ∀ made ∈ (desk.run service cancel query start nextCall race).calls,
        ∃ time, made = desk.call query time := by
    intro start nextCall race made listed
    rcases (desk.run_course service cancel query start nextCall race).calls with none | one
    · rw [none] at listed
      cases listed
    · rw [one] at listed
      exact ⟨start, List.mem_singleton.mp listed⟩
  obtain ⟨run, listed, made⟩ := List.mem_flatMap.mp member
  exact (Desk.attempt_runs (P := fun run => ∀ made ∈ run.calls, ∃ time, made = desk.call query time)
    each policy.lastAttempt 1 start nextCall).2 run listed call made

/-- What is sent for a call is the request for the trimmed question. -/
theorem body_of_mem_calls (client : Client) {desk : Desk} {service : Service}
    {cancel : Option Nat} {policy : RetryPolicy} {query : String} {start nextCall : Nat}
    {races : Nat → Race} {call : Call}
    (member : call ∈ (desk.runWithRetry service cancel policy query start nextCall races).calls) :
    (client.request call.instruction call.question call.params).body =
      requestBody client.model desk.instruction (Text.trim query) desk.params := by
  obtain ⟨time, rfl⟩ := eq_of_mem_calls member
  rfl

/-- What holds of the requests that are made with the same parameters. -/
structure RequestLaw (params : Params) : Prop where
  /-- The text of a request is one JSON object of four members, with the model, the instruction and
  the question in their places, and the temperature as one number. -/
  parses : ∃ temperature, ∀ model instruction question,
    Json.parse (requestBody model instruction question params).toList =
      .ok (asRead temperature model instruction question params.maxOutputTokens)
  /-- Whatever is asked at a desk, what is sent is the same up to the place of the question, where
  the question stands as it was trimmed, -/
  sends : ∀ (client : Client) (desk : Desk), desk.params = params →
    ∃ before after, ∀ service cancel policy query start nextCall races,
      ∀ call ∈ (desk.runWithRetry service cancel policy query start nextCall races).calls,
        (client.request call.instruction call.question call.params).body =
          String.ofList (before ++ (escape (Text.trim query).toList ++ after))
  /-- and it tells the same but for the content of the second message. -/
  tells : ∃ temperature, ∀ (client : Client) (desk : Desk), desk.params = params →
    ∀ service cancel policy query start nextCall races,
      ∀ call ∈ (desk.runWithRetry service cancel policy query start nextCall races).calls,
        Json.parse (client.request call.instruction call.question call.params).body.toList =
          .ok (asRead temperature client.model desk.instruction (Text.trim query)
            params.maxOutputTokens)

/-- The law of requests holds of all parameters with a finite temperature. -/
theorem requestLaw (params : Params) (fits : params.Fits) : RequestLaw params := by
  obtain ⟨temperature, readsAs⟩ := fits.exists_readsAs
  have limit : params.maxOutputTokens < Json.significandLimit :=
    Nat.lt_of_lt_of_le fits.maxOutputTokens (by decide)
  have parses := parse_requestBody readsAs limit
  refine ⟨⟨temperature, parses⟩, ?_, temperature, ?_⟩
  · rintro client desk rfl
    refine ⟨beforeQuestion client.model desk.instruction, afterQuestion desk.params, ?_⟩
    intro service cancel policy query start nextCall races call member
    rw [body_of_mem_calls client member, requestBody_eq]
  · rintro client desk rfl service cancel policy query start nextCall races call member
    rw [body_of_mem_calls client member]
    exact parses _ _ _

/-- Parameters with a temperature of a half. -/
def half : Params where
  temperature := .finite false 1 (-1)
  maxOutputTokens := 1024

theorem half_fits : half.Fits where
  temperature := by decide
  maxOutputTokens := by decide

theorem requestLaw_half : half.Fits ∧ RequestLaw half := ⟨half_fits, requestLaw half half_fits⟩

end Completion

end StudyDesk
