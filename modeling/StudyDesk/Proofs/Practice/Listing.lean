/-
Module: StudyDesk.Proofs.Practice.Listing
Purpose: The texts that are read as a list of problems, and the problems that they list.
Main exports:
  Summary.IsEntry, Summary.readAll_eq_ok_iff, Summary.Decodes, Summary.mapM_ofJson
-/
import StudyDesk.Practice.Library
import StudyDesk.Proofs.Record.Fieldwise
import StudyDesk.Proofs.Record.Uniform

namespace StudyDesk.Summary

open Json

variable {summary : Summary} {summaries : List Summary} {core cs : List Char}

/-- The fields of an entry, one after the other. -/
def toParts (summary : Summary) : fields.Value :=
  (summary.id, summary.title, summary.topic, summary.difficulty, ())

/-! ### Texts -/

/-- A text spells an entry: as an object in which each of the four names stands once, with a text
under it and any members of other names around, or as the list of the four texts. -/
inductive IsEntry (summary : Summary) (core : List Char) : Prop where
  | members (id : HasMember "id" (IsString summary.id) core)
      (title : HasMember "title" (IsString summary.title) core)
      (topic : HasMember "topic" (IsString summary.topic) core)
      (difficulty : HasMember "difficulty" (IsString summary.difficulty) core)
  | listed {id title topic difficulty : List Char}
      (isArray : IsArray [id, title, topic, difficulty] core) (isId : IsString summary.id id)
      (isTitle : IsString summary.title title) (isTopic : IsString summary.topic topic)
      (isDifficulty : IsString summary.difficulty difficulty)

/-- The names of the fields. -/
def names : List String := ["id", "title", "topic", "difficulty"]

/-- The fields of an entry are read as fields of one shape. -/
theorem isUniform_iff :
    @IsUniform .text IsString names summary.toParts core ↔ summary.IsEntry core := by
  constructor
  · intro isUniform
    cases isUniform with
    | members each =>
        match each with
        | .cons id (.cons title (.cons topic (.cons difficulty .nil))) =>
            exact .members id title topic difficulty
    | listed isArray each =>
        match each with
        | .cons id (.cons title (.cons topic (.cons difficulty .nil))) =>
            exact .listed isArray id title topic difficulty
  · rintro (⟨id, title, topic, difficulty⟩ | ⟨isArray, id, title, topic, difficulty⟩)
    · exact .members (.cons id (.cons title (.cons topic (.cons difficulty .nil))))
    · exact .listed isArray (.cons id (.cons title (.cons topic (.cons difficulty .nil))))

theorem readsAs_entry (depth : Nat) :
    ReadsAs (shape.read (depth + 1)) (@IsUniform .text IsString names) := by
  have isText : ReadsAs (Shape.text.read depth) IsString := readsAs_text Shape.text.title
  exact readsAs_uniform isText (show names.Nodup by decide) "ProblemSummary"

/-- What is read off a text as the parts of entries is the list of the entries that it spells. -/
theorem readAll_eq_ok_iff :
    Library.briefShape.readAll cs = .ok (summaries.map toParts) ↔
      ∃ core, IsListOf IsEntry summaries core ∧ IsBetweenGaps core cs := by
  have reads : ReadsAs (Library.briefShape.read depthLimit) _ := readsAs_list (readsAs_entry 125)
  have entries : (fun summary => @IsUniform .text IsString names (toParts summary)) = IsEntry :=
    funext fun summary => funext fun core => propext isUniform_iff
  refine reads.readAll_eq_ok_iff.trans (exists_congr fun core => and_congr_left fun _ => ?_)
  exact isListOf_map_iff.trans (entries ▸ Iff.rfl)

/-- Entries and their parts tell each other. -/
theorem map_toParts_eq_iff {parts : List fields.Value} :
    summaries.map toParts = parts ↔ summaries = parts.map ofParts := by
  constructor
  · rintro rfl
    rw [List.map_map]
    exact (List.map_id summaries).symm
  · rintro rfl
    rw [List.map_map]
    exact List.map_id parts

/-! ### Values -/

/-- A value is an entry: an object that has each of the four names once, with a text under it, or
the list of the four texts. -/
inductive Decodes (summary : Summary) : Json → Prop where
  | members {members : List (String × Json)} (once : ∀ name ∈ names, Unrepeated members name)
      (id : Holds members "id" (.string summary.id))
      (title : Holds members "title" (.string summary.title))
      (topic : Holds members "topic" (.string summary.topic))
      (difficulty : Holds members "difficulty" (.string summary.difficulty)) :
      Decodes summary (.object members)
  | listed : Decodes summary
      (.array [.string summary.id, .string summary.title, .string summary.topic,
        .string summary.difficulty])

theorem Decodes.ofJson_eq {v : Json} (decodes : Decodes summary v) :
    shape.ofJson .whole v = .ok summary.toParts := by
  cases decodes with
  | members once id title topic difficulty =>
      refine Shape.ofJson_of_given (by decide) once ⟨?_, ?_, ?_, ?_, trivial⟩
      · exact .member (member?_eq_some_of_holds id) rfl
      · exact .member (member?_eq_some_of_holds title) rfl
      · exact .member (member?_eq_some_of_holds topic) rfl
      · exact .member (member?_eq_some_of_holds difficulty) rfl
  | listed => rfl

/-- Values that are entries, one by one, are read as these entries. -/
theorem mapM_ofJson {items : List Json} (each : List.Forall₂ Decodes summaries items) :
    items.mapM (shape.ofJson .whole) = .ok (summaries.map toParts) := by
  induction each with
  | nil => rfl
  | cons first _ ih => exact mapM_cons_eq_ok_iff.mpr ⟨_, first.ofJson_eq, _, ih, rfl⟩

end StudyDesk.Summary
