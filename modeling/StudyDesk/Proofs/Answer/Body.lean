/-
Module: StudyDesk.Proofs.Answer.Body
Purpose: The body of raw output: what is left without the blanks and the one fence around it.
Main exports:
  HasBody, hasBody_iff, stripFence_of_plain, stripFence_marked, insideFence_line
-/
import StudyDesk.Answer.Fence
import StudyDesk.Proofs.Text.Trimming

namespace StudyDesk

/-- The body of a text is the text without the blanks around it; where it stands between fence
marks, it is what stands between them, without the blanks around that.  The first line between the
marks is the info string, if a line break ends it. -/
inductive HasBody (raw body : List Char) : Prop where
  | plain (trims : Text.Trims raw body)
      (unfenced : ∀ inner, body ≠ fenceMark ++ inner ++ fenceMark)
  | oneLine {inner : List Char} (fenced : Text.Trims raw (fenceMark ++ inner ++ fenceMark))
      (oneLine : '\n' ∉ inner) (trims : Text.Trims inner body)
  | lines {info inner : List Char}
      (fenced : Text.Trims raw (fenceMark ++ (info ++ '\n' :: inner) ++ fenceMark))
      (oneLine : '\n' ∉ info) (trims : Text.Trims inner body)

/-! ### Stripping -/

theorem withoutBeginning?_append (beginning cs : List Char) :
    withoutBeginning? beginning (beginning ++ cs) = some cs := by
  rw [withoutBeginning?, if_pos (List.isPrefixOf_iff_prefix.mpr (List.prefix_append beginning cs)),
    List.drop_left]

theorem eq_append_of_withoutBeginning? {beginning cs rest : List Char}
    (without : withoutBeginning? beginning cs = some rest) : cs = beginning ++ rest := by
  unfold withoutBeginning? at without
  split_ifs at without with begins
  obtain ⟨rest', rfl⟩ := List.isPrefixOf_iff_prefix.mp begins
  rw [List.drop_left] at without
  rw [Option.some.inj without]

theorem withoutEnding?_append (ending cs : List Char) :
    withoutEnding? ending (cs ++ ending) = some cs := by
  rw [withoutEnding?, if_pos (List.isSuffixOf_iff_suffix.mpr (List.suffix_append cs ending)),
    List.length_append, Nat.add_sub_cancel, List.take_left]

theorem eq_append_of_withoutEnding? {ending cs rest : List Char}
    (without : withoutEnding? ending cs = some rest) : cs = rest ++ ending := by
  unfold withoutEnding? at without
  split_ifs at without with ends
  obtain ⟨rest', rfl⟩ := List.isSuffixOf_iff_suffix.mp ends
  rw [List.length_append, Nat.add_sub_cancel, List.take_left] at without
  rw [Option.some.inj without]

/-- Blanks around a text that stands between fence marks are trimmed away. -/
theorem trimChars_marked {before after : List Char}
    (blankBefore : ∀ c ∈ before, Text.isBlank c = true)
    (blankAfter : ∀ c ∈ after, Text.isBlank c = true) (inner : List Char) :
    Text.trimChars (before ++ (fenceMark ++ inner ++ fenceMark) ++ after) =
      fenceMark ++ inner ++ fenceMark := by
  have trimmed : Text.IsTrimmed (fenceMark ++ inner ++ fenceMark) := by
    constructor
    · rfl
    · rw [List.getLast?_append_of_ne_nil _ (by decide)]
      rfl
  exact Text.trimChars_between_blanks (by simp [fenceMark]) trimmed blankBefore blankAfter

/-- What is stripped of a text between fence marks: the marks, and the opening line. -/
theorem stripFence_marked {before after : List Char}
    (blankBefore : ∀ c ∈ before, Text.isBlank c = true)
    (blankAfter : ∀ c ∈ after, Text.isBlank c = true) (inner : List Char) :
    stripFence (before ++ (fenceMark ++ inner ++ fenceMark) ++ after) =
      Text.trimChars (insideFence inner) := by
  rw [stripFence, trimChars_marked blankBefore blankAfter, List.append_assoc]
  simp only [withoutBeginning?_append, withoutEnding?_append]

theorem passes_oneLine {line : List Char} (oneLine : '\n' ∉ line) :
    ∀ c ∈ line, (c != '\n') = true := by
  intro c member
  rw [bne_iff_ne]
  rintro rfl
  exact oneLine member

theorem insideFence_line {line : List Char} (oneLine : '\n' ∉ line) (rest : List Char) :
    insideFence (line ++ '\n' :: rest) = rest := by
  rw [insideFence, List.dropWhile_append_of_pos (passes_oneLine oneLine)]
  rfl

theorem insideFence_of_oneLine {inner : List Char} (oneLine : '\n' ∉ inner) :
    insideFence inner = inner := by
  rw [insideFence, List.dropWhile_eq_nil_iff.mpr (passes_oneLine oneLine)]

/-! ### The body -/

/-- A text that does not stand between fence marks only loses the blanks around it. -/
theorem stripFence_of_unfenced {cs : List Char}
    (unfenced : ∀ inner, Text.trimChars cs ≠ fenceMark ++ inner ++ fenceMark) :
    stripFence cs = Text.trimChars cs := by
  rw [stripFence]
  cases begins : withoutBeginning? fenceMark (Text.trimChars cs) with
  | none => dsimp only
  | some rest =>
      cases ends : withoutEnding? fenceMark rest with
      | none => simp only [ends]
      | some inner =>
          have marked := eq_append_of_withoutBeginning? begins
          rw [eq_append_of_withoutEnding? ends, ← List.append_assoc] at marked
          exact absurd marked (unfenced inner)

/-- A text that does not begin with a fence only loses the blanks around it. -/
theorem stripFence_of_plain {cs : List Char} (plain : ¬ fenceMark <+: Text.trimChars cs) :
    stripFence cs = Text.trimChars cs := by
  refine stripFence_of_unfenced fun inner fenced => plain ?_
  rw [fenced, List.append_assoc]
  exact List.prefix_append fenceMark _

/-- A text that stands between fence marks is stripped of them, and of the opening line. -/
theorem stripFence_of_trims {cs inner : List Char}
    (fenced : Text.Trims cs (fenceMark ++ inner ++ fenceMark)) :
    stripFence cs = Text.trimChars (insideFence inner) := by
  obtain ⟨⟨before, after, rfl, blankBefore, blankAfter⟩, -⟩ := fenced
  exact stripFence_marked blankBefore blankAfter inner

/-- Every text has one body, and it is what the fence is stripped to. -/
theorem hasBody_iff {raw body : List Char} : HasBody raw body ↔ stripFence raw = body := by
  constructor
  · rintro (⟨trims, unfenced⟩ | ⟨fenced, oneLine, trims⟩ | ⟨fenced, oneLine, trims⟩)
    · obtain rfl := Text.trims_iff.mp trims
      exact stripFence_of_unfenced unfenced
    · rw [stripFence_of_trims fenced, insideFence_of_oneLine oneLine, Text.trims_iff.mp trims]
    · rw [stripFence_of_trims fenced, insideFence_line oneLine, Text.trims_iff.mp trims]
  · rintro rfl
    by_cases unfenced : ∀ inner, Text.trimChars raw ≠ fenceMark ++ inner ++ fenceMark
    · rw [stripFence_of_unfenced unfenced]
      exact .plain (Text.trims_iff.mpr rfl) unfenced
    · obtain ⟨inner, marked⟩ := not_forall_not.mp unfenced
      have fenced := Text.trims_iff.mpr marked
      rw [stripFence_of_trims fenced]
      by_cases broken : '\n' ∈ inner
      · obtain ⟨info, rest, rfl, oneLine⟩ := List.eq_append_cons_of_mem broken
        rw [insideFence_line oneLine]
        exact .lines fenced oneLine (Text.trims_iff.mpr rfl)
      · rw [insideFence_of_oneLine broken]
        exact .oneLine fenced broken (Text.trims_iff.mpr rfl)

end StudyDesk
