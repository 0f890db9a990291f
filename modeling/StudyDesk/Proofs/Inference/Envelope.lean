/-
Module: StudyDesk.Proofs.Inference.Envelope
Purpose: The envelope in which the service sends a text takes nothing from the text, and whatever is
  no such envelope is malformed for good.
Main exports:
  Completion.IsEnvelope, Completion.content_eq_ok_iff, Completion.EnvelopeLaw,
  Completion.envelopeLaw, Completion.envelopeLaw_written
-/
import StudyDesk.Proofs.Answer.Fencing
import StudyDesk.Proofs.Inference.Verdict
import StudyDesk.Proofs.Record.OneField

namespace StudyDesk

open Json

namespace Completion

variable {body c t : String} {core text : List Char}

/-! ### Envelopes -/

/-- The first choice: the content of its message is the text. -/
def HoldsText (c : String) : List Char → Prop :=
  HasMember "message" (HasMember "content" (IsString c))

/-- Another choice: the content of its message is a text or null, or there is none. -/
def HoldsAny : List Char → Prop :=
  HasMember "message" fun message =>
    HasMember "content" (fun content => content = ['n', 'u', 'l', 'l'] ∨ ∃ s, IsString s content)
        message ∨
      LacksMember "content" message

/-- A reply of the service around a text.  The members that are not asked for may be any values. -/
def IsEnvelope (c : String) (text : List Char) : Prop :=
  ∃ core, IsBetweenGaps core text ∧ HasMember "choices" (fun choices =>
    ∃ first others, IsArray (first :: others) choices ∧ HoldsText c first ∧
      ∀ other ∈ others, HoldsAny other) core

/-! ### What is read -/

/-- The texts of the message in a choice. -/
def IsMessage : messageFields.Value → List Char → Prop :=
  IsRecord "content" .optional (IsNullable IsString)

/-- The texts of a choice. -/
def IsChoice : choiceFields.Value → List Char → Prop :=
  IsRecord "message" .required IsMessage

/-- The texts of a reply. -/
def IsReply : replyFields.Value → List Char → Prop :=
  IsRecord "choices" .defaulted (IsGiven (IsListOf IsChoice))

theorem readsAs_message (depth : Nat) :
    ReadsAs ((Shape.record "ResponseMessage" messageFields).read (depth + 1)) IsMessage := by
  have content : ReadsAs (fun cs => Record.readPresent (Shape.text.read depth) cs .optional)
      (IsNullable IsString) := by
    refine readsAs_nullable (readsAs_text _) ?_
    rintro s _ ⟨-⟩
    exact ⟨'"', _, rfl, by decide⟩
  exact readsAs_record content "content" "ResponseMessage"

theorem readsAs_choice (depth : Nat) :
    ReadsAs ((Shape.record "Choice" choiceFields).read (depth + 2)) IsChoice := by
  have message : ReadsAs (fun cs => Record.readPresent
      ((Shape.record "ResponseMessage" messageFields).read (depth + 1)) cs .required) IsMessage :=
    readsAs_message depth
  exact readsAs_record message "message" "Choice"

theorem readsAs_reply (depth : Nat) : ReadsAs (replyShape.read (depth + 4)) IsReply := by
  have choices := readsAs_defaulted (readsAs_list (readsAs_choice depth))
  exact readsAs_record choices "choices" "ChatCompletionResponse"

/-- A reply yields a text exactly when its first choice has it as its content. -/
theorem firstContent_iff :
    FirstContent body c ↔
      ∃ others core, IsReply (replyWith c others) core ∧ IsBetweenGaps core body.toList :=
  exists_congr fun _ => (readsAs_reply 123).readAll_eq_ok_iff

/-- The answer is the content of the first choice, trimmed. -/
theorem content_eq_ok_iff :
    content body = .ok t ↔ ∃ c, FirstContent body c ∧ t = Text.trim c := by
  constructor
  · intro found
    by_contra none
    obtain ⟨detail, failed⟩ := content_of_lacking fun c has =>
      none ⟨c, has, Except.ok.inj (found.symm.trans (content_of_firstContent has))⟩
    rw [failed] at found
    cases found
  · rintro ⟨c, has, rfl⟩
    exact content_of_firstContent has

/-! ### Envelopes are read -/

theorem isChoice_of_holdsText (holds : HoldsText c core) : IsChoice ((some c, ()), ()) core :=
  .member (holds.imp fun _ message => .member (message.imp fun _ isString => .some isString))

theorem exists_isChoice_of_holdsAny (holds : HoldsAny core) : ∃ x, IsChoice x core := by
  obtain ⟨message, content | lacks, has⟩ := holds.exists_value
  · obtain ⟨value, rfl | ⟨s, isString⟩, holdsContent⟩ := content.exists_value
    · have isMessage : IsMessage (none, ()) message :=
        .member (holdsContent.imp fun _ same => same ▸ .null)
      exact ⟨_, .member (has.imp fun _ same => same ▸ isMessage)⟩
    · have isMessage : IsMessage (some s, ()) message :=
        .member (holdsContent.imp fun _ same => same ▸ .some isString)
      exact ⟨_, .member (has.imp fun _ same => same ▸ isMessage)⟩
  · have isMessage : IsMessage (none, ()) message := .absent lacks rfl
    exact ⟨_, .member (has.imp fun _ same => same ▸ isMessage)⟩

theorem exists_each_of_holdsAny {items : List (List Char)} (holds : ∀ item ∈ items, HoldsAny item) :
    ∃ values, List.Forall₂ IsChoice values items := by
  induction items with
  | nil => exact ⟨[], .nil⟩
  | cons item items ih =>
      obtain ⟨first, later⟩ := List.forall_mem_cons.mp holds
      obtain ⟨x, isChoice⟩ := exists_isChoice_of_holdsAny first
      obtain ⟨values, each⟩ := ih later
      exact ⟨x :: values, .cons isChoice each⟩

theorem firstContent_of_isEnvelope (envelope : IsEnvelope c body.toList) : FirstContent body c := by
  obtain ⟨core, between, has⟩ := envelope
  obtain ⟨choices, ⟨first, others, isArray, holdsText, holdsAny⟩, has⟩ := has.exists_value
  obtain ⟨values, each⟩ := exists_each_of_holdsAny holdsAny
  have isList : IsListOf IsChoice (((some c, ()), ()) :: values) choices :=
    .mk isArray (.cons (isChoice_of_holdsText holdsText) each)
  exact firstContent_iff.mpr ⟨values, core, .member (has.imp fun _ same => same ▸ isList), between⟩

/-- A written object of one member. -/
theorem hasMember_written (name : String) {value : List Char} (isValue : IsValue value) :
    HasMember name (· = value) ('{' :: (stringText name ++ ':' :: value ++ ['}'])) := by
  have blank : IsGap [] := List.forall_mem_nil _
  have denotes := denotes_escape name
  let member : Member := ⟨escape name.toList, [], [], value⟩
  have framed : member.IsFramed := ⟨denotes.isBody, blank, blank⟩
  have isObject : IsObject ([] ++ [member]) ('{' :: ([] ++ (member.text ++ []) ++ ['}'])) :=
    .mk (.cons (.first blank) (.close blank)) (List.forall_mem_singleton.mpr framed)
      (List.forall_mem_singleton.mpr isValue)
  have has : HasMember name (· = value) _ := .mk isObject denotes rfl (List.forall_mem_nil _)
  simpa [member, Member.text, stringText] using has

/-- A written list of one item. -/
theorem isArray_written {item : List Char} (isValue : IsValue item) :
    IsArray [item] ('[' :: (item ++ [']'])) := by
  have blank : IsGap [] := List.forall_mem_nil _
  have isArray : IsArray [item] ('[' :: ([] ++ (item ++ []) ++ [']'])) :=
    .mk (.cons (.first blank) (.close blank)) (List.forall_mem_singleton.mpr isValue)
  simpa using isArray

/-- The reply around a text as it is written without blanks. -/
def written (c : String) : String :=
  (Json.object
    [("choices", .array [.object [("message", .object [("content", .string c)])]])]).compact

/-- Every text has an envelope. -/
theorem isEnvelope_written (c : String) : IsEnvelope c (written c).toList := by
  have isString : IsString c (stringText c) := .mk (denotes_escape c)
  have message := hasMember_written "content" isString.isValue
  have choice := hasMember_written "message" message.isValue
  have choices := isArray_written choice.isValue
  have core := hasMember_written "choices" choices.isValue
  have holds : HoldsText c _ :=
    choice.imp fun _ same => same ▸ message.imp fun _ same => same ▸ isString
  refine ⟨_, ⟨[], [], List.forall_mem_nil _, List.forall_mem_nil _, ?_⟩,
    core.imp fun _ same => same ▸ ⟨_, [], choices, holds, List.forall_mem_nil _⟩⟩
  simp [written, compact, write, writeItems, writeMembers, Spacing.tight]

/-! ### Nothing else is read -/

/-- The items of the list of choices in a reply. -/
def HasChoices (items : List (List Char)) (core : List Char) : Prop :=
  ∃ choices, FieldText "choices" choices core ∧ IsArray items choices

theorem exists_hasChoices {others : List choiceFields.Value}
    (isReply : IsReply (replyWith c others) core) : ∃ items, HasChoices items core := by
  obtain ⟨choices, field, given⟩ := isReply.exists_fieldText (by rintro ⟨⟩) (by rintro ⟨⟩)
  obtain ⟨isArray, -⟩ := (given : IsListOf IsChoice _ choices)
  exact ⟨_, choices, field, isArray⟩

/-- Every item of the list of choices is a choice. -/
theorem each_isChoice {others : List choiceFields.Value} {items : List (List Char)}
    (isReply : IsReply (replyWith c others) core) (has : HasChoices items core) :
    List.Forall₂ IsChoice (((some c, ()), ()) :: others) items := by
  obtain ⟨choices, field, isArray⟩ := has
  obtain ⟨isArray', each⟩ := (isReply.spelled_of_fieldText field : IsListOf IsChoice _ choices)
  obtain rfl := isArray'.unique isArray
  exact each

/-- No text is found in the reply. -/
def IsRefused (body : String) : Prop :=
  ∃ detail, content body = .error (.malformedResponse detail)

theorem isRefused_of (lacking : ∀ c others core, IsReply (replyWith c others) core →
    ¬ IsBetweenGaps core body.toList) : IsRefused body := by
  refine content_of_lacking fun c has => ?_
  obtain ⟨others, core, isReply, between⟩ := firstContent_iff.mp has
  exact lacking c others core isReply between

/-- What is between the blanks of a text with a list of choices is all that is read. -/
theorem isRefused_of_choices {items : List (List Char)} (has : HasChoices items core)
    (between : IsBetweenGaps core body.toList)
    (lacking : ∀ c others, ¬ List.Forall₂ IsChoice (((some c, ()), ()) :: others) items) :
    IsRefused body := by
  refine isRefused_of fun c others core' isReply between' => ?_
  obtain ⟨choices, field, -⟩ := id has
  obtain rfl := between.unique field.isValue isReply.isValue between'
  exact lacking c others (each_isChoice isReply has)

/-! ### The law -/

/-- What holds of a body that the service sends, whatever it is. -/
structure EnvelopeLaw (registry : Registry) (body : String) : Prop where
  /-- An envelope gives the text in it, trimmed. -/
  transparent : ∀ c, IsEnvelope c body.toList → content body = .ok (Text.trim c)
  /-- The trimmed text comes out as the text itself would, but for the output kept in a failure. -/
  sameOutcome : ∀ c, Contract.validate registry (Text.trim c) =
    (Contract.validate registry c).withRaw (Text.trim c)
  /-- No blank is left at either end of what is found. -/
  trimmed : ∀ found, content body = .ok found → Text.IsTrimmed found.toList
  /-- Whatever goes wrong, the reply counts as malformed. -/
  malformed : ∀ fault, content body = .error fault → ∃ detail, fault = .malformedResponse detail
  /-- It goes wrong with what is no JSON text, -/
  notJson : ¬ IsJson body.toList → IsRefused body
  /-- without a list of choices, -/
  noChoices : (∀ core items, IsBetweenGaps core body.toList → ¬ HasChoices items core) →
    IsRefused body
  /-- without a first choice, or without content in it, -/
  noContent : ∀ core items, IsBetweenGaps core body.toList → HasChoices items core →
    (∀ first ∈ items.head?, IsChoice ((none, ()), ()) first) → IsRefused body
  /-- and with an item among the choices, the first or any other, that is no choice. -/
  notChoice : ∀ core items, IsBetweenGaps core body.toList → HasChoices items core →
    (∃ item ∈ items, ∀ x, ¬ IsChoice x item) → IsRefused body
  /-- A run that ends in such a failure is the last one, and no retry is decided behind it. -/
  neverRetried : ∀ fault, content body = .error fault →
    ∀ (desk : Desk) (service : Service) (cancel : Option Nat) (policy : RetryPolicy)
      (query : String) (start nextCall : Nat) (races : Nat → Race) (earlier later : List Run)
      (run : Run),
      let attempts := desk.runWithRetry service cancel policy query start nextCall races
      attempts.runs = earlier ++ run :: later → run.outcome = .error (.service fault) →
        later = [] ∧ attempts.outcome = run.outcome ∧ attempts.retries = earlier.length

/-- A trimmed text comes out as the text itself would. -/
theorem validate_trim (registry : Registry) (c : String) :
    Contract.validate registry (Text.trim c) =
      (Contract.validate registry c).withRaw (Text.trim c) := by
  apply Contract.validate_congr
  simp only [stripFence, Text.trim, String.toList_ofList, Text.trimChars_trimChars]

/-- A failure to find content does not pass. -/
theorem isRetryable_of_content {fault : InferenceFault} (failed : content body = .error fault) :
    isRetryable (.error (.service fault)) = false := by
  obtain ⟨detail, rfl⟩ := eq_malformed_of_content failed
  rfl

/-- Every body obeys the law. -/
theorem envelopeLaw (registry : Registry) (body : String) : EnvelopeLaw registry body where
  transparent := fun _ envelope => content_of_firstContent (firstContent_of_isEnvelope envelope)
  sameOutcome := validate_trim registry
  trimmed := by
    intro found read
    obtain ⟨c, -, rfl⟩ := content_eq_ok_iff.mp read
    rw [Text.trim, String.toList_ofList]
    exact Text.isTrimmed_trimChars c.toList
  malformed := fun _ => eq_malformed_of_content
  notJson := fun notJson =>
    isRefused_of fun _ _ core isReply between => notJson ⟨core, isReply.isValue, between⟩
  noChoices := by
    intro none
    refine isRefused_of fun _ _ core isReply between => ?_
    obtain ⟨items, has⟩ := exists_hasChoices isReply
    exact none core items between has
  noContent := by
    intro core items between has none
    refine isRefused_of_choices has between fun c others each => ?_
    cases each with
    | cons isChoice _ => cases (readsAs_choice 0).functional isChoice (none _ rfl)
  notChoice := by
    rintro core items between has ⟨item, listed, notChoice⟩
    refine isRefused_of_choices has between fun c others each => ?_
    obtain ⟨x, isChoice⟩ := exists_of_each each listed
    exact notChoice x isChoice
  neverRetried := by
    intro fault failed desk service cancel policy query start nextCall races earlier later run
      attempts split told
    exact Desk.attempt_of_split rfl split (told ▸ isRetryable_of_content failed)

/-- An answer with blanks around it is found in its envelope, without them. -/
theorem envelopeLaw_written :
    IsEnvelope " sums\n" (written " sums\n").toList ∧
      content (written " sums\n") = .ok "sums" := by
  have envelope := isEnvelope_written " sums\n"
  have trimmed : Text.trim " sums\n" = "sums" := by decide
  exact ⟨envelope, trimmed ▸ (envelopeLaw .standard (written " sums\n")).transparent _ envelope⟩

end Completion

end StudyDesk
