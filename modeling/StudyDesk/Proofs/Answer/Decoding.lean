/-
Module: StudyDesk.Proofs.Answer.Decoding
Purpose: A result that is decoded as a record is the one that the contract accepts.
Main exports:
  Classification.ofText_of_fields, Classification.ofText_write, Classification.ofText_agrees
-/
import StudyDesk.Answer.Decoding
import StudyDesk.Proofs.Answer.RoundTrip
import StudyDesk.Proofs.Record.Canonical

namespace StudyDesk

open Json (Holds Lacks Omits Unrepeated)

namespace Classification

variable {surplus : Surplus} {members : List (String × Json)}

/-! ### Fields -/

theorem fieldGiven_valid {valid : Bool} (holds : Holds members "valid" (.bool valid)) :
    FieldGiven surplus members "valid" .required .flag valid :=
  .member (Json.member?_eq_some_iff.mpr holds) rfl

/-- Where null means absence, an omitted member gives nothing. -/
theorem fieldGiven_none {name : String} {shape : Shape} (omits : Omits members name) :
    FieldGiven surplus members name .optional shape none := by
  rcases omits with lacks | holds
  · exact .absent lacks rfl
  · exact .member (Json.member?_eq_some_iff.mpr holds) rfl

theorem fieldGiven_text {name : String} {text : Option String}
    (gives : Contract.GivesText members name text) :
    FieldGiven surplus members name .optional .text text := by
  cases text with
  | none => exact fieldGiven_none gives
  | some s => exact .member (Json.member?_eq_some_iff.mpr gives) rfl

theorem fieldGiven_kind {kind : Option QuestionKind} (gives : Contract.GivesKind members kind) :
    FieldGiven surplus members "type" .optional QuestionKind.shape
      (kind.map QuestionKind.name) := by
  cases kind with
  | none => exact fieldGiven_none gives
  | some kind =>
      refine .member (Json.member?_eq_some_iff.mpr gives) ?_
      cases kind <;> rfl

theorem fieldGiven_keywords (surplus : Surplus) {keywords : List String}
    (gives : Contract.GivesKeywords members keywords) (noNull : ("keywords", Json.null) ∉ members) :
    ∃ given : Option (List String),
      FieldGiven surplus members "keywords" .defaulted (.list .text) given ∧
        given.getD [] = keywords := by
  rcases gives with ⟨rfl, lacks | null⟩ | holds
  · exact ⟨none, .absent lacks rfl, rfl⟩
  · obtain ⟨before, after, rfl, -⟩ := null
    exact absurd (by simp) noNull
  · refine ⟨some keywords, .member (Json.member?_eq_some_iff.mpr holds) ?_, rfl⟩
    exact map_eq_ok_iff.mpr ⟨keywords, ofJson_ofStrings keywords, rfl⟩

/-- What the contract reads of the fields is in the record, whether it goes together or not. -/
theorem exists_given_of_fields (surplus : Surplus) {given : Classification}
    (read : Contract.fields members = .ok given) (noNull : ("keywords", Json.null) ∉ members) :
    ∃ parts, fields.Given surplus members parts ∧ ofParts parts = given := by
  obtain ⟨valid, reason, tag, kind, answer, keywords⟩ := given
  obtain ⟨validGiven, reasonGiven, ⟨topic, topicGiven, rfl⟩, kindGiven, answerGiven,
    keywordsGiven⟩ := Contract.fields_eq_ok_iff.mp read
  obtain ⟨listed, listGiven, rfl⟩ := fieldGiven_keywords surplus keywordsGiven noNull
  refine ⟨(valid, reason, topic, kind.map QuestionKind.name, answer, listed, ()),
    ⟨fieldGiven_valid validGiven, fieldGiven_text reasonGiven, fieldGiven_text topicGiven,
      fieldGiven_kind kindGiven, fieldGiven_text answerGiven, listGiven, trivial⟩, ?_⟩
  cases kind with
  | none => rfl
  | some kind => cases kind <;> rfl

/-- Decoding gives what the contract reads of the fields, when no field is repeated. -/
theorem ofText_of_fields {cs : List Char} {given : Classification}
    (parsed : Json.parse cs = .ok (.object members)) (read : Contract.fields members = .ok given)
    (unrepeated : ∀ name ∈ fields.names, Unrepeated members name)
    (noNull : ("keywords", Json.null) ∉ members) : ofText cs = .ok given := by
  obtain ⟨parts, gives, rfl⟩ := exists_given_of_fields .whole read noNull
  have record : shape.ofJson .whole (.object members) = .ok parts :=
    Shape.ofJson_of_given (by decide) unrepeated gives
  exact map_eq_ok_iff.mpr ⟨parts, Shape.readAll_of_parse parsed record, rfl⟩

/-- Accepted output is an object, and the result is what the contract reads of its fields. -/
theorem exists_fields_of_validate {registry : Registry} {raw : String} {result : Classification}
    (accepted : Contract.validate registry raw = .ok result) :
    ∃ members, Json.parse (stripFence raw.toList) = .ok (.object members) ∧
      Contract.fields members = .ok result := by
  obtain ⟨document, parsed, declares⟩ := Contract.validate_eq_ok_iff.mp accepted
  have checked := Contract.check_eq_ok_iff.mpr declares
  obtain ⟨members, rfl⟩ : ∃ members, document = .object members := by
    cases declares <;> exact ⟨_, rfl⟩
  rw [Contract.check, bind_eq_ok_iff] at checked
  obtain ⟨given, read, branch⟩ := checked
  obtain ⟨rfl, -⟩ := Contract.branch_eq_ok_iff.mp branch
  exact ⟨members, parsed, read⟩

/-- A written result is decoded as itself, unless its topic bears the name of the escape tag. -/
theorem ofText_write {spacing : Json.Spacing} (blank : spacing.IsBlank) {result : Classification}
    (named : ¬ result.IsMisnamed) : ofText (Json.write spacing 0 result.toJson) = .ok result := by
  obtain ⟨members, written, read⟩ := Contract.fields_toJson result
  rw [asWritten_of_not_isMisnamed named] at read
  have parsed := Json.parse_write blank result.toJson_readable
  obtain rfl := Json.object.inj written
  refine ofText_of_fields parsed read (fun name _ => Json.unrepeated_of_nodup ?_ name) ?_
  · simp
  · simp [Json.ofStrings]

/-- What is decoded from accepted output is the accepted result, when no field is repeated and the
keywords are not null.  Whatever a written result says, it is decoded as itself, unless its topic
bears the name of the escape tag. -/
theorem ofText_agrees :
    (∀ (registry : Registry) (raw : String) (result : Classification),
      Contract.validate registry raw = .ok result →
      ∃ members, Json.parse (stripFence raw.toList) = .ok (.object members) ∧
        ((∀ name ∈ fields.names, Unrepeated members name) → ("keywords", Json.null) ∉ members →
          ofText (stripFence raw.toList) = .ok result)) ∧
      ∀ result : Classification, ¬ result.IsMisnamed →
        ofText result.toJson.compact.toList = .ok result ∧
          ofText result.toJson.pretty.toList = .ok result := by
  constructor
  · intro registry raw result accepted
    obtain ⟨members, parsed, read⟩ := exists_fields_of_validate accepted
    exact ⟨members, parsed, ofText_of_fields parsed read⟩
  · intro result named
    rw [Json.compact, Json.pretty, String.toList_ofList, String.toList_ofList]
    exact ⟨ofText_write Json.Spacing.tight_isBlank named,
      ofText_write Json.Spacing.indented_isBlank named⟩

/-- A fenced answer with escapes, its members out of order and a strange one given twice. -/
def outOfOrder : String :=
  "```\n\x7b\"answer\":\"a\\u0062\",\"x\":0,\"t\\u006fpic\":\"OOP\",\"x\":[],\"valid\":true\x7d\n```"

/-- The names and the kinds of the members of an object, in their order. -/
def outline : Json → List (String × String)
  | .object members => members.map fun member => (member.1, member.2.kind)
  | _ => []

/-- Order, escapes and other members make no difference to decoding, and what breaks the contract is
decoded as well. -/
theorem ofText_agrees_outOfOrder :
    let accepted : Classification := ⟨true, none, some (.known "OOP"), none, some "ab", []⟩
    let unfit : Classification := ⟨true, some "", none, some .other, none, [""]⟩
    (Contract.validate .standard outOfOrder = .ok accepted ∧
        ofText (stripFence outOfOrder.toList) = .ok accepted) ∧
      ¬ unfit.IsMisnamed ∧ ofText unfit.toJson.compact.toList = .ok unfit := by
  intro accepted unfit
  have validated : Contract.validate .standard outOfOrder = .ok accepted := by decide +kernel
  have named : ¬ unfit.IsMisnamed := nofun
  refine ⟨⟨validated, ?_⟩, named, (ofText_agrees.2 unfit named).1⟩
  obtain ⟨members, parsed, decoded⟩ := ofText_agrees.1 .standard outOfOrder accepted validated
  have listed : (Json.parse (stripFence outOfOrder.toList)).toOption.map outline =
      some [("answer", "string"), ("x", "number"), ("topic", "string"), ("x", "array"),
        ("valid", "boolean")] := by decide +kernel
  rw [parsed] at listed
  simp only [Except.toOption, Option.map_some, outline, Option.some.injEq] at listed
  refine decoded ?_ fun null => ?_
  · have names := congrArg (List.map Prod.fst) listed
    rw [List.map_map] at names
    intro name field
    rw [Unrepeated, show members.map Prod.fst = _ from names]
    revert name
    decide
  · have found := List.mem_map_of_mem (f := fun member => (member.1, member.2.kind)) null
    rw [listed] at found
    revert found
    decide

end Classification

end StudyDesk
