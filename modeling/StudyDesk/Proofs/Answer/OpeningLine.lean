/-
Module: StudyDesk.Proofs.Answer.OpeningLine
Purpose: What becomes of a JSON text whose first line stands on the opening line of its fence.
Main exports:
  tightFence, IsDocument, BlankAbove, BlankBelow, Contract.TightFenceLaw,
  Contract.tightFence_obeys_law
-/
import StudyDesk.Proofs.Answer.Fencing
import StudyDesk.Proofs.Json.Lines

namespace StudyDesk

/-- A text between fence marks, with nothing else. -/
def tightFence (text : String) : String := "```" ++ text ++ "```"

/-- A text that is one JSON value. -/
def IsDocument (text : String) : Prop := ∃ value, Json.parse text.toList = .ok value

/-- Only blanks stand before the first line break, if there is one. -/
def BlankAbove (text : String) : Prop :=
  ∀ line rest, text.toList = line ++ '\n' :: rest → '\n' ∉ line →
    ∀ c ∈ line, Text.isBlank c = true

/-- Only blanks stand behind the first line break, if there is one. -/
def BlankBelow (text : String) : Prop :=
  ∀ line rest, text.toList = line ++ '\n' :: rest → '\n' ∉ line →
    ∀ c ∈ rest, Text.isBlank c = true

variable {text : String}

/-! ### The first line break -/

theorem stripFence_tightFence (text : String) :
    stripFence (tightFence text).toList = Text.trimChars (insideFence text.toList) := by
  have marked := stripFence_marked (List.forall_mem_nil _) (List.forall_mem_nil _) text.toList
  rw [List.nil_append, List.append_nil] at marked
  rw [← marked, tightFence]
  simp [fenceMark]

/-- With only blanks above its first line break, a text is all there inside a fence. -/
theorem trimChars_insideFence (above : BlankAbove text) :
    Text.trimChars (insideFence text.toList) = Text.trimChars text.toList := by
  by_cases broken : '\n' ∈ text.toList
  · obtain ⟨line, rest, split, oneLine⟩ := List.eq_append_cons_of_mem broken
    have blank : ∀ c ∈ line ++ ['\n'], Text.isBlank c = true :=
      List.forall_mem_append.mpr ⟨above line rest split oneLine,
        List.forall_mem_singleton.mpr (by decide)⟩
    rw [split, insideFence_line oneLine, ← List.singleton_append, ← List.append_assoc,
      Text.trimChars_blank_append blank]
  · rw [insideFence_of_oneLine broken]

/-! ### Documents -/

namespace IsDocument

theorem parse_trimChars (document : IsDocument text) :
    ∃ value, Json.parse (Text.trimChars text.toList) = .ok value := by
  obtain ⟨value, parsed⟩ := document
  exact ⟨value, Json.parse_trimChars parsed⟩

theorem stripFence_eq (document : IsDocument text) :
    stripFence text.toList = Text.trimChars text.toList := by
  obtain ⟨value, parsed⟩ := document.parse_trimChars
  apply stripFence_of_plain
  intro marked
  rw [Contract.parse_of_fenceMark marked] at parsed
  cases parsed

theorem not_blank (document : IsDocument text) : ¬ ∀ c ∈ text.toList, Text.isBlank c = true := by
  intro blank
  obtain ⟨value, parsed⟩ := document.parse_trimChars
  rw [Text.trimChars_eq_nil_iff.mpr blank] at parsed
  cases parsed

end IsDocument

/-- No blank is foreign to a list of JSON blanks. -/
theorem exists_not_isSpace {line : List Char} (some : ¬ ∀ c ∈ line, Text.isBlank c = true) :
    ∃ c ∈ line, Json.isSpace c = false := by
  by_contra none
  refine some fun c member => Json.isBlank_of_isSpace ?_
  by_contra notSpace
  exact none ⟨c, member, Bool.eq_false_iff.mpr notSpace⟩

variable {more : List Char}

/-- The value of a document is read off it in front of anything that does not go on with a number. -/
theorem IsDocument.read_append (document : IsDocument text) (ends : Json.EndsNumber more) :
    ∃ v after, Json.readValue Json.depthLimit (text.toList ++ more) = .ok (v, after ++ more) ∧
      ∀ c ∈ after, Json.isSpace c = true := by
  obtain ⟨v, parsed⟩ := document
  obtain ⟨before, core, after, split, spells, space, space'⟩ :=
    Json.exists_spelling_of_parse parsed
  refine ⟨v, after, ?_, space'⟩
  rw [split, List.append_assoc, List.append_assoc, Json.readValue_append space]
  exact spells.reads _ (Json.endsNumber_append space' ends)

/-- What stands below a line break of a document is no JSON text, unless it is blank or the document
begins there and nothing follows it. -/
theorem IsDocument.not_parse_below {line rest : List Char} (document : IsDocument text)
    (split : text.toList = line ++ '\n' :: rest) (left : ¬ ∀ c ∈ rest, Text.isBlank c = true)
    (ends : Json.EndsNumber more) (others : ¬ ∀ c ∈ line ++ more, Text.isBlank c = true)
    (value : Json) : Json.parse (Text.trimChars (rest ++ more)) ≠ .ok value := by
  intro parsed
  have alone := Json.standsAlone_of_parse parsed
  obtain ⟨v, after, read, space⟩ := document.read_append ends
  rw [split, List.append_assoc, List.cons_append] at read
  rcases Json.keepsLine alone _ read (List.suffix_append line _) with ended | same
  · -- the value would end before the line break, with only blanks of the document behind it
    rw [← List.cons_append, List.suffix_append_self_iff] at ended
    exact left fun c member =>
      Json.isBlank_of_isSpace (space c (ended.mem (List.mem_cons_of_mem _ member)))
  · -- the value would begin behind the line break, and nothing but blanks would be around it
    have behind := alone.leavesBlanks_of_skipBlanks read same
    refine others (List.forall_mem_append.mpr ⟨?_, (List.forall_mem_append.mp behind).2⟩)
    by_contra begun
    exact Json.skipBlanks_ne_of_begun (exists_not_isSpace begun) _ same

namespace Contract

variable {registry : Registry}

/-- What a fence without an opening line of its own does to JSON texts. -/
structure TightFenceLaw (registry : Registry) : Prop where
  /-- It makes no difference to a document exactly when only blanks stand above the first line
  break. -/
  transparent_iff : ∀ text, IsDocument text →
    (validate registry (tightFence text) = (validate registry text).withRaw (tightFence text) ↔
      BlankAbove text)
  /-- Of any other document the first line is lost, and what is left is no JSON text. -/
  lost : ∀ text, IsDocument text → ¬ BlankAbove text →
    ∃ detail, validate registry (tightFence text) = .error (.parseFailure detail (tightFence text))
  /-- Of two documents on consecutive lines the second one is accepted alone exactly when the first
  one is on the opening line. -/
  pair_iff : ∀ first second, IsDocument first → IsDocument second → ∀ result,
    (validate registry (tightFence (first ++ "\n" ++ second)) = .ok result ↔
      BlankBelow first ∧ validate registry second = .ok result)

theorem validate_tightFence_of_blankAbove (document : IsDocument text) (above : BlankAbove text) :
    validate registry (tightFence text) = (validate registry text).withRaw (tightFence text) := by
  apply validate_congr
  rw [stripFence_tightFence, trimChars_insideFence above, document.stripFence_eq]

theorem validate_tightFence_of_not_blankAbove (document : IsDocument text)
    (above : ¬ BlankAbove text) :
    ∃ detail, validate registry (tightFence text) =
      .error (.parseFailure detail (tightFence text)) := by
  simp only [BlankAbove, not_forall] at above
  obtain ⟨line, rest, split, oneLine, c, member, notBlank⟩ := above
  have body : stripFence (tightFence text).toList = Text.trimChars rest := by
    rw [stripFence_tightFence, split, insideFence_line oneLine]
  cases parsed : Json.parse (Text.trimChars rest) with
  | error fault =>
      rw [← body] at parsed
      exact validate_of_parse_error registry parsed
  | ok value =>
      exfalso
      by_cases left : ∀ c ∈ rest, Text.isBlank c = true
      · rw [Text.trimChars_eq_nil_iff.mpr left] at parsed
        cases parsed
      · have begun : ¬ ∀ c ∈ line, Text.isBlank c = true := fun blank => notBlank (blank c member)
        have ends : Json.EndsNumber [] := by simp [Json.EndsNumber]
        rw [← List.append_nil line] at begun
        rw [← List.append_nil rest] at parsed
        exact document.not_parse_below split left ends begun value parsed

/-- A document is only turned down for what it says. -/
theorem withRaw_ne_parseFailure (document : IsDocument text) (detail raw other : String) :
    (validate registry text).withRaw raw ≠ .error (.parseFailure detail other) := by
  obtain ⟨value, parsed⟩ := document.parse_trimChars
  rw [← document.stripFence_eq] at parsed
  cases checked : check registry value with
  | ok result =>
      rw [validate_of_check_ok parsed checked]
      simp [Outcome.withRaw, Except.mapError]
  | error violation =>
      rw [validate_of_check_error parsed checked]
      simp [Outcome.withRaw, Except.mapError, RunFailure.schemaViolation, RunFailure.parseFailure]

theorem withRaw_eq_ok_iff {outcome : Outcome} {raw : String} {result : Classification} :
    outcome.withRaw raw = .ok result ↔ outcome = .ok result := by
  cases outcome <;> simp [Outcome.withRaw, Except.mapError]

/-- Two documents in a fence are no JSON text, unless the first one goes with the opening line. -/
theorem validate_tightFence_pair {first second : String} (document : IsDocument first)
    (below : ¬ BlankBelow first) (other : IsDocument second) (result : Classification) :
    validate registry (tightFence (first ++ "\n" ++ second)) ≠ .ok result := by
  simp only [BlankBelow, not_forall] at below
  obtain ⟨line, rest, split, oneLine, c, member, notBlank⟩ := below
  have body : stripFence (tightFence (first ++ "\n" ++ second)).toList =
      Text.trimChars (rest ++ '\n' :: second.toList) := by
    rw [stripFence_tightFence, ← insideFence_line oneLine (rest ++ '\n' :: second.toList)]
    simp [split]
  have left : ¬ ∀ c ∈ rest, Text.isBlank c = true := fun blank => notBlank (blank c member)
  have ends : Json.EndsNumber ('\n' :: second.toList) := Json.endsNumber_cons (by decide) _
  have others : ¬ ∀ c ∈ line ++ '\n' :: second.toList, Text.isBlank c = true := fun blank =>
    other.not_blank fun c member => blank c (by simp [member])
  intro accepted
  obtain ⟨value, parsed, -⟩ := validate_eq_ok_iff.mp accepted
  rw [body] at parsed
  exact document.not_parse_below split left ends others value parsed

theorem stripFence_tightFence_pair {first second : String} (below : BlankBelow first) :
    stripFence (tightFence (first ++ "\n" ++ second)).toList = Text.trimChars second.toList := by
  rw [stripFence_tightFence]
  by_cases broken : '\n' ∈ first.toList
  · obtain ⟨line, rest, split, oneLine⟩ := List.eq_append_cons_of_mem broken
    have blank : ∀ c ∈ rest ++ ['\n'], Text.isBlank c = true :=
      List.forall_mem_append.mpr ⟨below line rest split oneLine,
        List.forall_mem_singleton.mpr (by decide)⟩
    have inside : insideFence (first ++ "\n" ++ second).toList =
        rest ++ ['\n'] ++ second.toList := by
      have dropped := insideFence_line oneLine (rest ++ '\n' :: second.toList)
      simpa [split] using dropped
    rw [inside, Text.trimChars_blank_append blank]
  · rw [← insideFence_line broken second.toList]
    simp

/-- Every fence without an opening line of its own obeys the law. -/
theorem tightFence_obeys_law (registry : Registry) : TightFenceLaw registry where
  transparent_iff := by
    intro text document
    constructor
    · intro same
      by_contra above
      obtain ⟨detail, lost⟩ := validate_tightFence_of_not_blankAbove document above
      exact withRaw_ne_parseFailure document _ _ _ (same.symm.trans lost)
    · exact validate_tightFence_of_blankAbove document
  lost := fun _ document above => validate_tightFence_of_not_blankAbove document above
  pair_iff := by
    intro first second document other result
    by_cases below : BlankBelow first
    · have same : validate registry (tightFence (first ++ "\n" ++ second)) =
          (validate registry second).withRaw (tightFence (first ++ "\n" ++ second)) := by
        apply validate_congr
        rw [stripFence_tightFence_pair below, other.stripFence_eq]
      rw [same, withRaw_eq_ok_iff]
      exact ⟨fun accepted => ⟨below, accepted⟩, And.right⟩
    · exact iff_of_false (validate_tightFence_pair document below other result)
        fun both => below both.1

/-- A result on two lines, of which the first one holds only the opening brace. -/
def twoLines : String := "\x7b\n\"valid\":false,\"reason\":\"off topic\"\x7d"

/-- The opening brace of a good result is dropped with its line, and a whole document on the opening
line is dropped without notice. -/
theorem tightFence_drops_content :
    (IsDocument twoLines ∧ validate .standard twoLines = .ok (.rejected "off topic") ∧
      validate .standard (tightFence twoLines) ≠
        (validate .standard twoLines).withRaw (tightFence twoLines)) ∧
      IsDocument "\x7b\x7d" ∧
      validate .standard (tightFence ("\x7b\x7d" ++ "\n" ++ twoLines)) =
        .ok (.rejected "off topic") := by
  have isDocument {text : String} (parses : (Json.parse text.toList).toOption.isSome = true) :
      IsDocument text := by
    cases parsed : Json.parse text.toList with
    | ok value => exact ⟨value, parsed⟩
    | error fault => simp [parsed, Except.toOption] at parses
  refine ⟨⟨isDocument ?_, ?_, ?_⟩, isDocument ?_, ?_⟩ <;> decide +kernel

end Contract

end StudyDesk
