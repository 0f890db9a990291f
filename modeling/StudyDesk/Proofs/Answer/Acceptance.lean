/-
Module: StudyDesk.Proofs.Answer.Acceptance
Purpose: The response contract said member by member, and that output is accepted exactly when it
  keeps to it.
Main exports:
  Contract.Declares, Classification.WellFormed, Contract.check_eq_ok_iff,
  Contract.validate_accepts_exactly_declared
-/
import StudyDesk.Answer.Contract
import StudyDesk.Proofs.Answer.Body
import StudyDesk.Proofs.Json.Inversion
import StudyDesk.Proofs.Json.Members

namespace StudyDesk

open Json (Holds Omits)

namespace Registry

/-- A tag that a registry lists, or the escape tag. -/
def Lists (registry : Registry) (tag : Tag) : Prop :=
  tag = .unknown ∨ ∃ name ∈ registry.topics, tag = .known name

theorem accepts_iff_lists {registry : Registry} {tag : Tag} :
    registry.accepts tag = true ↔ registry.Lists tag := by
  cases tag with
  | known name => simp [accepts, contains, Lists]
  | «unknown» => simp [accepts, Lists]

/-- A written tag is listed when it is the escape value or one of the topics. -/
theorem lists_ofName_iff {registry : Registry} {name : String} :
    registry.Lists (.ofName name) ↔ name = Tag.unknownName ∨ name ∈ registry.topics := by
  unfold Tag.ofName Lists
  split
  case isTrue same => simp [same]
  case isFalse other => simp [other]

end Registry

/-- A result that the contract allows: an answer on a listed topic, or a reason and nothing else. -/
inductive Classification.WellFormed (registry : Registry) : Classification → Prop where
  | answered {topic : Tag} {kind : Option QuestionKind} {answer : String} {keywords : List String}
      (listed : registry.Lists topic) (notBlank : Text.isBlankText answer = false) :
      WellFormed registry (.answered topic kind answer keywords)
  | rejected {reason : String} (notBlank : Text.isBlankText reason = false) :
      WellFormed registry (.rejected reason)

namespace Contract

/-! ### What each member may say -/

/-- A text member, which may be omitted. -/
def GivesText (members : List (String × Json)) (field : String) : Option String → Prop
  | none => Omits members field
  | some s => Holds members field (.string s)

/-- The kind of question by one of its four names; it may be omitted. -/
def GivesKind (members : List (String × Json)) : Option QuestionKind → Prop
  | none => Omits members "type"
  | some kind => Holds members "type" (.string kind.name)

/-- Keywords as an array of texts only; it may be omitted when there are none. -/
def GivesKeywords (members : List (String × Json)) (keywords : List String) : Prop :=
  (keywords = [] ∧ Omits members "keywords") ∨ Holds members "keywords" (.ofStrings keywords)

/-- What a value declares under the contract of a registry, with every text as it stands. -/
inductive Declares (registry : Registry) : Json → Classification → Prop where
  | answered {members : List (String × Json)} {topic answer : String}
      {kind : Option QuestionKind} {keywords : List String}
      (valid : Holds members "valid" (.bool true))
      (noReason : Omits members "reason")
      (topicGiven : Holds members "topic" (.string topic))
      (listed : topic = Tag.unknownName ∨ topic ∈ registry.topics)
      (kindGiven : GivesKind members kind)
      (answerGiven : Holds members "answer" (.string answer))
      (notBlank : ∃ c ∈ answer.toList, Text.isBlank c = false)
      (keywordsGiven : GivesKeywords members keywords) :
      Declares registry (.object members) (.answered (.ofName topic) kind answer keywords)
  | rejected {members : List (String × Json)} {reason : String}
      (invalid : Holds members "valid" (.bool false))
      (reasonGiven : Holds members "reason" (.string reason))
      (notBlank : ∃ c ∈ reason.toList, Text.isBlank c = false)
      (noTopic : Omits members "topic")
      (noKind : Omits members "type")
      (noAnswer : Omits members "answer")
      (noKeywords : GivesKeywords members []) :
      Declares registry (.object members) (.rejected reason)

theorem Declares.wellFormed {registry : Registry} {value : Json} {result : Classification}
    (declares : Declares registry value result) : result.WellFormed registry := by
  cases declares with
  | answered _ _ _ listed _ _ notBlank _ =>
      exact .answered (Registry.lists_ofName_iff.mpr listed)
        (Text.isBlankText_eq_false_iff.mpr notBlank)
  | rejected _ _ notBlank _ _ _ _ =>
      exact .rejected (Text.isBlankText_eq_false_iff.mpr notBlank)

/-! ### Reading the members -/

variable {members : List (String × Json)}

theorem optionalText_eq_ok_iff {field : String} {text : Option String} :
    optionalText members field = .ok text ↔ GivesText members field text := by
  unfold optionalText
  split
  case h_1 absent =>
    cases text <;> simp [GivesText, Json.omits_iff, ← Json.member?_eq_some_iff, absent]
  case h_2 null =>
    cases text <;> simp [GivesText, Json.omits_iff, ← Json.member?_eq_some_iff, null]
  case h_3 s given =>
    cases text <;> simp [GivesText, Json.omits_iff, ← Json.member?_eq_some_iff, given]
  case h_4 other notNull notText given =>
    cases text with
    | none =>
        simp only [GivesText, Json.omits_iff, given, reduceCtorEq, Option.some.injEq, false_or,
          false_iff]
        rintro rfl
        exact notNull rfl
    | some s =>
        simp only [GivesText, ← Json.member?_eq_some_iff, given, reduceCtorEq, Option.some.injEq,
          false_iff]
        rintro rfl
        exact notText s rfl

theorem validFlag_eq_ok_iff {b : Bool} :
    validFlag members = .ok b ↔ Holds members "valid" (.bool b) := by
  rw [← Json.member?_eq_some_iff]
  unfold validFlag
  split
  case h_1 given => simp [given]
  case h_2 other notFlag given =>
    simp only [given, reduceCtorEq, Option.some.injEq, false_iff]
    rintro rfl
    exact notFlag b rfl
  case h_3 absent => simp [absent]

theorem ofName?_eq_some_iff {name : String} {kind : QuestionKind} :
    QuestionKind.ofName? name = some kind ↔ kind.name = name := by
  constructor
  · intro found
    simpa using List.find?_some found
  · rintro rfl
    cases kind <;> decide

theorem questionKind_eq_ok_iff {kind : Option QuestionKind} :
    questionKind members = .ok kind ↔ GivesKind members kind := by
  unfold questionKind
  rw [bind_eq_ok_iff]
  constructor
  · rintro ⟨text, given, named⟩
    rw [optionalText_eq_ok_iff] at given
    cases text with
    | none =>
        obtain rfl := Except.ok.inj named
        exact given
    | some name =>
        cases found : QuestionKind.ofName? name with
        | none => simp [found] at named
        | some known =>
            simp only [found, Except.ok.injEq] at named
            subst named
            rw [GivesKind, ofName?_eq_some_iff.mp found]
            exact given
  · intro given
    cases kind with
    | none => exact ⟨none, optionalText_eq_ok_iff.mpr given, rfl⟩
    | some kind =>
        refine ⟨some kind.name, optionalText_eq_ok_iff.mpr given, ?_⟩
        simp [ofName?_eq_some_iff.mpr rfl]

theorem texts_eq_ok_iff {index : Nat} {items : List Json} {keywords : List String} :
    texts index items = .ok keywords ↔ items = keywords.map .string := by
  induction items generalizing index keywords with
  | nil => cases keywords <;> simp [texts]
  | cons item rest ih =>
      cases item with
      | string s =>
          rw [texts, bind_eq_ok_iff]
          simp only [ih, Except.ok.injEq]
          constructor
          · rintro ⟨others, rfl, rfl⟩
            rfl
          · intro same
            cases keywords with
            | nil => simp at same
            | cons keyword others =>
                simp only [List.map_cons, List.cons.injEq, Json.string.injEq] at same
                exact ⟨others, same.2, by rw [same.1]⟩
      | null | bool | number | array | object => cases keywords <;> simp [texts]

theorem keywordList_eq_ok_iff {keywords : List String} :
    keywordList members = .ok keywords ↔ GivesKeywords members keywords := by
  unfold keywordList GivesKeywords
  rw [Json.omits_iff, ← Json.member?_eq_some_iff, Json.ofStrings]
  split
  case h_1 absent => simp [absent, eq_comm]
  case h_2 null => simp [null, eq_comm]
  case h_3 items given => simp [given, texts_eq_ok_iff]
  case h_4 other notNull notArray given =>
    simp only [given, reduceCtorEq, Option.some.injEq, false_or, false_iff, not_or, not_and]
    constructor
    · rintro - rfl
      exact notNull rfl
    · rintro rfl
      exact notArray _ rfl

/-- The members read one by one, before they are held against each other. -/
theorem fields_eq_ok_iff {given : Classification} :
    fields members = .ok given ↔
      Holds members "valid" (.bool given.valid) ∧ GivesText members "reason" given.reason ∧
        (∃ topic, GivesText members "topic" topic ∧ given.topic = topic.map Tag.ofName) ∧
        GivesKind members given.kind ∧ GivesText members "answer" given.answer ∧
        GivesKeywords members given.keywords := by
  simp only [fields, bind_eq_ok_iff, validFlag_eq_ok_iff, optionalText_eq_ok_iff,
    questionKind_eq_ok_iff, keywordList_eq_ok_iff, Except.ok.injEq]
  constructor
  · rintro ⟨valid, validGiven, reason, reasonGiven, topic, topicGiven, kind, kindGiven, answer,
      answerGiven, keywords, keywordsGiven, rfl⟩
    exact ⟨validGiven, reasonGiven, ⟨topic, topicGiven, rfl⟩, kindGiven, answerGiven, keywordsGiven⟩
  · obtain ⟨valid, reason, tag, kind, answer, keywords⟩ := given
    rintro ⟨validGiven, reasonGiven, ⟨topic, topicGiven, rfl⟩, kindGiven, answerGiven,
      keywordsGiven⟩
    exact ⟨valid, validGiven, reason, reasonGiven, topic, topicGiven, kind, kindGiven, answer,
      answerGiven, keywords, keywordsGiven, rfl⟩

/-! ### The two branches -/

theorem answeredBranch_eq_ok_iff {registry : Registry} {given result : Classification} :
    answeredBranch registry given = .ok result ↔
      given.reason = none ∧ ∃ topic answer, given.topic = some topic ∧ registry.Lists topic ∧
        given.answer = some answer ∧ Text.isBlankText answer = false ∧
        result = .answered topic given.kind answer given.keywords := by
  obtain ⟨valid, reason, topic, kind, answer, keywords⟩ := given
  cases reason with
  | some reason => simp [answeredBranch]
  | none =>
      cases topic with
      | none => simp [answeredBranch]
      | some topic =>
          simp only [answeredBranch, Option.isSome_none, Bool.false_eq_true, if_false, true_and,
            Option.some.injEq, exists_and_left, exists_eq_left', ← Registry.accepts_iff_lists]
          cases accepted : registry.accepts topic with
          | false => simp
          | true =>
              cases answer with
              | none => simp
              | some answer =>
                  cases blank : Text.isBlankText answer with
                  | true => simp [blank]
                  | false =>
                      simp only [Bool.not_true, Bool.false_eq_true, if_false, Except.ok.injEq,
                        Option.some.injEq, true_and, exists_eq_left', blank]
                      exact eq_comm

theorem rejectedBranch_eq_ok_iff {given result : Classification} :
    rejectedBranch given = .ok result ↔
      ∃ reason, given.reason = some reason ∧ Text.isBlankText reason = false ∧
        given.answer = none ∧ given.topic = none ∧ given.kind = none ∧ given.keywords = [] ∧
        result = .rejected reason := by
  obtain ⟨valid, reason, topic, kind, answer, keywords⟩ := given
  cases reason with
  | none => simp [rejectedBranch]
  | some reason =>
      cases blank : Text.isBlankText reason <;> cases answer <;> cases topic <;> cases kind <;>
        cases keywords <;> simp [rejectedBranch, blank]
      exact eq_comm

/-- A value passes the check with a result exactly when it declares that result. -/
theorem check_eq_ok_iff {registry : Registry} {value : Json} {result : Classification} :
    check registry value = .ok result ↔ Declares registry value result := by
  constructor
  · intro checked
    cases value with
    | object members =>
        rw [check, bind_eq_ok_iff] at checked
        obtain ⟨given, read, branch⟩ := checked
        obtain ⟨valid, reason, tag, kind, answer, keywords⟩ := given
        obtain ⟨validGiven, reasonGiven, ⟨topic, topicGiven, rfl⟩, kindGiven, answerGiven,
          keywordsGiven⟩ := fields_eq_ok_iff.mp read
        cases valid with
        | true =>
            obtain ⟨rfl, tag, text, tagged, listed, rfl, notBlank, rfl⟩ :=
              answeredBranch_eq_ok_iff.mp branch
            obtain ⟨name, rfl, rfl⟩ := Option.map_eq_some_iff.mp tagged
            exact .answered validGiven reasonGiven topicGiven
              (Registry.lists_ofName_iff.mp listed) kindGiven answerGiven
              (Text.isBlankText_eq_false_iff.mp notBlank) keywordsGiven
        | false =>
            obtain ⟨text, rfl, notBlank, rfl, noTopic, rfl, rfl, rfl⟩ :=
              rejectedBranch_eq_ok_iff.mp branch
            obtain rfl := Option.map_eq_none_iff.mp noTopic
            exact .rejected validGiven reasonGiven (Text.isBlankText_eq_false_iff.mp notBlank)
              topicGiven kindGiven answerGiven keywordsGiven
    | null | bool | number | string | array => simp [check] at checked
  · intro declares
    cases declares with
    | @answered members topic answer kind keywords valid noReason topicGiven listed kindGiven
        answerGiven notBlank keywordsGiven =>
        have read : fields members =
            .ok (.answered (.ofName topic) kind answer keywords) :=
          fields_eq_ok_iff.mpr ⟨valid, noReason, ⟨some topic, topicGiven, rfl⟩, kindGiven,
            answerGiven, keywordsGiven⟩
        have branch : answeredBranch registry (.answered (.ofName topic) kind answer keywords) =
            .ok (.answered (.ofName topic) kind answer keywords) :=
          answeredBranch_eq_ok_iff.mpr ⟨rfl, .ofName topic, answer, rfl,
            Registry.lists_ofName_iff.mpr listed, rfl, Text.isBlankText_eq_false_iff.mpr notBlank,
            rfl⟩
        rw [check, bind_eq_ok_iff]
        exact ⟨_, read, branch⟩
    | @rejected members reason invalid reasonGiven notBlank noTopic noKind noAnswer noKeywords =>
        have read : fields members = .ok (.rejected reason) :=
          fields_eq_ok_iff.mpr ⟨invalid, reasonGiven, ⟨none, noTopic, rfl⟩, noKind, noAnswer,
            noKeywords⟩
        have branch : rejectedBranch (.rejected reason) = .ok (.rejected reason) :=
          rejectedBranch_eq_ok_iff.mpr ⟨reason, rfl, Text.isBlankText_eq_false_iff.mpr notBlank,
            rfl, rfl, rfl, rfl, rfl⟩
        rw [check, bind_eq_ok_iff]
        exact ⟨_, read, branch⟩

/-! ### Raw output -/

variable {registry : Registry} {raw : String}

theorem validate_of_parse_error (registry : Registry) {fault : Json.Failure}
    (failed : Json.parse (stripFence raw.toList) = .error fault) :
    ∃ detail, validate registry raw = .error (.parseFailure detail raw) := by
  simp only [validate, failed]
  exact ⟨_, rfl⟩

theorem validate_of_check_ok {value : Json} {result : Classification}
    (parsed : Json.parse (stripFence raw.toList) = .ok value)
    (checked : check registry value = .ok result) : validate registry raw = .ok result := by
  simp only [validate, parsed, checked]

theorem validate_of_check_error {value : Json} {violation : Violation}
    (parsed : Json.parse (stripFence raw.toList) = .ok value)
    (checked : check registry value = .error violation) :
    validate registry raw = .error (.schemaViolation violation.message raw) := by
  simp only [validate, parsed, checked]

/-- Raw output has one of three fates, by whether its body is JSON and what that declares. -/
theorem validate_cases (registry : Registry) (raw : String) :
    (∃ fault detail, Json.parse (stripFence raw.toList) = .error fault ∧
        validate registry raw = .error (.parseFailure detail raw)) ∨
      (∃ value result, Json.parse (stripFence raw.toList) = .ok value ∧
        Declares registry value result ∧ validate registry raw = .ok result) ∨
      ∃ value detail, Json.parse (stripFence raw.toList) = .ok value ∧
        (∀ result, ¬ Declares registry value result) ∧
        validate registry raw = .error (.schemaViolation detail raw) := by
  cases parsed : Json.parse (stripFence raw.toList) with
  | error fault =>
      obtain ⟨detail, validated⟩ := validate_of_parse_error registry parsed
      exact .inl ⟨fault, detail, rfl, validated⟩
  | ok value =>
      cases checked : check registry value with
      | ok result =>
          exact .inr (.inl ⟨value, result, rfl, check_eq_ok_iff.mp checked,
            validate_of_check_ok parsed checked⟩)
      | error violation =>
          refine .inr (.inr ⟨value, violation.message, rfl, ?_,
            validate_of_check_error parsed checked⟩)
          intro result declares
          rw [check_eq_ok_iff.mpr declares] at checked
          cases checked

theorem Declares.unique {value : Json} {first second : Classification}
    (one : Declares registry value first) (two : Declares registry value second) :
    first = second := by
  have same := check_eq_ok_iff.mpr one
  rw [check_eq_ok_iff.mpr two] at same
  exact (Except.ok.inj same).symm

theorem validate_eq_ok_iff {result : Classification} :
    validate registry raw = .ok result ↔
      ∃ value, Json.parse (stripFence raw.toList) = .ok value ∧ Declares registry value result := by
  rcases validate_cases registry raw with
    ⟨fault, detail, parsed, validated⟩ | ⟨value, declared, parsed, declares, validated⟩ |
    ⟨value, detail, parsed, undeclared, validated⟩
  · simp [parsed, validated]
  · rw [parsed, validated]
    constructor
    · intro same
      exact ⟨value, rfl, Except.ok.inj same ▸ declares⟩
    · rintro ⟨other, same, others⟩
      obtain rfl := Except.ok.inj same
      rw [declares.unique others]
  · simp [parsed, validated, undeclared]

theorem validate_parseFailure_iff :
    (∃ failure, validate registry raw = .error failure ∧ failure.kind = .parseFailure ∧
        failure.raw = some raw) ↔
      ∃ fault, Json.parse (stripFence raw.toList) = .error fault := by
  rcases validate_cases registry raw with
    ⟨fault, detail, parsed, validated⟩ | ⟨value, declared, parsed, declares, validated⟩ |
    ⟨value, detail, parsed, undeclared, validated⟩ <;>
    simp [parsed, validated, RunFailure.parseFailure, RunFailure.schemaViolation]

theorem validate_schemaViolation_iff :
    (∃ failure, validate registry raw = .error failure ∧ failure.kind = .schemaViolation ∧
        failure.raw = some raw) ↔
      ∃ value, Json.parse (stripFence raw.toList) = .ok value ∧
        ∀ result, ¬ Declares registry value result := by
  rcases validate_cases registry raw with
    ⟨fault, detail, parsed, validated⟩ | ⟨value, declared, parsed, declares, validated⟩ |
    ⟨value, detail, parsed, undeclared, validated⟩
  · simp [parsed, validated, RunFailure.parseFailure]
  · simp only [parsed, validated, reduceCtorEq, false_and, exists_false, Except.ok.injEq,
      exists_eq_left', false_iff]
    exact fun undeclared => undeclared declared declares
  · simp [parsed, validated, undeclared, RunFailure.schemaViolation]

/-- Output is accepted with a result exactly when its body is a JSON text that declares this result,
which then keeps to the contract.  Output whose body is no JSON text is a parse failure, and any
other output is a breach of the contract; both keep the output as it came.  The body is what is left
of the output without the blanks and the one fence around it. -/
theorem validate_accepts_exactly_declared (registry : Registry) (raw : String) :
    (∀ body, HasBody raw.toList body ↔ stripFence raw.toList = body) ∧
      (∀ result, validate registry raw = .ok result ↔
        ∃ value, Json.parse (stripFence raw.toList) = .ok value ∧
          Declares registry value result) ∧
      (∀ value result, Declares registry value result → result.WellFormed registry) ∧
      ((∃ failure, validate registry raw = .error failure ∧ failure.kind = .parseFailure ∧
          failure.raw = some raw) ↔
        ∃ fault, Json.parse (stripFence raw.toList) = .error fault) ∧
      ((∃ failure, validate registry raw = .error failure ∧ failure.kind = .schemaViolation ∧
          failure.raw = some raw) ↔
        ∃ value, Json.parse (stripFence raw.toList) = .ok value ∧
          ∀ result, ¬ Declares registry value result) :=
  ⟨fun _ => hasBody_iff, fun _ => validate_eq_ok_iff, fun _ _ declares => declares.wellFormed,
    validate_parseFailure_iff, validate_schemaViolation_iff⟩

end Contract

end StudyDesk
