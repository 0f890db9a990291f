/-
Module: StudyDesk.Proofs.Text.Trimming
Purpose: What trimming keeps, and when nothing is left of a text.
Main exports:
  isBlankText_iff, trimChars_eq_nil_iff, trim_isEmpty, trimChars_eq_self, trimChars_append_blank,
  trimChars_blank_append, exists_blanks_around, IsTrimmed, isTrimmed_trimChars, trimChars_around,
  trimChars_between_blanks, Trims, trims_iff, trimChars_trimChars
-/
import Mathlib.Data.List.DropRight
import Mathlib.Data.List.TakeWhile
import StudyDesk.Text.Blank

namespace StudyDesk.Text

theorem isBlankText_iff {s : String} :
    isBlankText s = true ↔ ∀ c ∈ s.toList, isBlank c = true := by
  simp [isBlankText]

/-- A text that is not blank shows a character which is not blank. -/
theorem isBlankText_eq_false_iff {s : String} :
    isBlankText s = false ↔ ∃ c ∈ s.toList, isBlank c = false := by
  simp [isBlankText]

/-- Trimming leaves nothing exactly of a text of blanks. -/
theorem trimChars_eq_nil_iff {cs : List Char} :
    trimChars cs = [] ↔ ∀ c ∈ cs, isBlank c = true := by
  rw [trimChars, trimEndChars, List.reverse_eq_nil_iff, List.dropWhile_eq_nil_iff]
  constructor
  · intro blankRest c member
    by_contra notBlank
    -- the first character that is not blank survives the first pass, so the second one sees it
    have kept : cs.dropWhile isBlank ≠ [] := fun gone =>
      notBlank (List.dropWhile_eq_nil_iff.mp gone c member)
    have headNotBlank := List.head_dropWhile_not isBlank kept
    rw [blankRest _ (by simp)] at headNotBlank
    exact Bool.noConfusion headNotBlank
  · intro blank c member
    exact blank c (List.dropWhile_sublist _ |>.mem (List.mem_reverse.mp member))

theorem trim_isEmpty (s : String) : (trim s).isEmpty = isBlankText s := by
  rw [Bool.eq_iff_iff, isBlankText_iff, ← trimChars_eq_nil_iff, String.isEmpty_iff, trim,
    ← String.toList_eq_nil_iff, String.toList_ofList]

/-- A text between two characters that are not blank is trimmed already. -/
theorem trimChars_eq_self {first last : Char} {middle : List Char}
    (firstNotBlank : isBlank first = false) (lastNotBlank : isBlank last = false) :
    trimChars (first :: (middle ++ [last])) = first :: (middle ++ [last]) := by
  have front : (first :: (middle ++ [last])).dropWhile isBlank = first :: (middle ++ [last]) :=
    List.dropWhile_cons_of_neg (by simp [firstNotBlank])
  rw [trimChars, trimEndChars, front]
  simp [lastNotBlank]

theorem trimEndChars_append_blank {after : List Char} (blank : ∀ c ∈ after, isBlank c = true)
    (cs : List Char) : trimEndChars (cs ++ after) = trimEndChars cs := by
  have reversed : ∀ c ∈ after.reverse, isBlank c = true := fun c member =>
    blank c (List.mem_reverse.mp member)
  rw [trimEndChars, List.reverse_append, List.dropWhile_append_of_pos reversed, ← trimEndChars]

/-- Further blanks at the end are trimmed away with the others. -/
theorem trimChars_append_blank {after : List Char} (blank : ∀ c ∈ after, isBlank c = true)
    (cs : List Char) : trimChars (cs ++ after) = trimChars cs := by
  rw [trimChars, trimChars, List.dropWhile_append]
  split_ifs with nothing
  · rw [List.dropWhile_eq_nil_iff.mpr blank, List.isEmpty_iff.mp nothing]
  · exact trimEndChars_append_blank blank _

/-- Further blanks in front are trimmed away with the others. -/
theorem trimChars_blank_append {before : List Char} (blank : ∀ c ∈ before, isBlank c = true)
    (cs : List Char) : trimChars (before ++ cs) = trimChars cs := by
  rw [trimChars, trimChars, List.dropWhile_append_of_pos blank]

/-- Trimming takes blanks away at either end. -/
theorem exists_blanks_around (cs : List Char) :
    ∃ before after, cs = before ++ trimChars cs ++ after ∧
      (∀ c ∈ before, isBlank c = true) ∧ ∀ c ∈ after, isBlank c = true := by
  have front : cs = cs.takeWhile isBlank ++ cs.dropWhile isBlank :=
    (List.takeWhile_append_dropWhile).symm
  have back : cs.dropWhile isBlank =
      trimChars cs ++ ((cs.dropWhile isBlank).reverse.takeWhile isBlank).reverse := by
    rw [trimChars, trimEndChars, ← List.reverse_append, List.takeWhile_append_dropWhile,
      List.reverse_reverse]
  refine ⟨cs.takeWhile isBlank, ((cs.dropWhile isBlank).reverse.takeWhile isBlank).reverse,
    ?_, ?_, ?_⟩
  · rw [List.append_assoc, ← back, ← front]
  · intro c member
    exact List.mem_takeWhile_imp member
  · intro c member
    exact List.mem_takeWhile_imp (List.mem_reverse.mp member)

/-- A text with no blank at either end. -/
def IsTrimmed (cs : List Char) : Prop :=
  cs.head?.any isBlank = false ∧ cs.getLast?.any isBlank = false

theorem head?_any_dropWhile (cs : List Char) :
    (cs.dropWhile isBlank).head?.any isBlank = false := by
  have head := List.head?_dropWhile_not isBlank cs
  cases first : (cs.dropWhile isBlank).head? with
  | none => rfl
  | some c =>
      rw [first] at head
      exact head

theorem isTrimmed_trimChars (cs : List Char) : IsTrimmed (trimChars cs) := by
  have front := head?_any_dropWhile cs
  have back := head?_any_dropWhile (cs.dropWhile isBlank).reverse
  constructor
  · cases kept : trimChars cs with
    | nil => rfl
    | cons c rest =>
        have part : c :: rest <+: cs.dropWhile isBlank := by
          rw [← kept]
          exact List.rdropWhile_prefix isBlank _
        obtain ⟨more, whole⟩ := part
        rw [← whole] at front
        exact front
  · rw [trimChars, trimEndChars, List.getLast?_reverse]
    exact back

/-- Dropping blanks stops at a piece that begins with none. -/
theorem dropWhile_append_of_head {piece : List Char} (nonempty : piece ≠ [])
    (head : piece.head?.any isBlank = false) (before : List Char) :
    (before ++ piece).dropWhile isBlank = before.dropWhile isBlank ++ piece := by
  obtain ⟨c, rest, rfl⟩ := List.exists_cons_of_ne_nil nonempty
  have stops : (c :: rest).dropWhile isBlank = c :: rest :=
    List.dropWhile_cons_of_neg (Bool.eq_false_iff.mp head)
  rw [List.dropWhile_append, stops]
  split_ifs with blank
  · rw [List.isEmpty_iff.mp blank, List.nil_append]
  · rfl

/-- Trimming does not reach into a piece that is trimmed. -/
theorem trimChars_around {piece : List Char} (nonempty : piece ≠ []) (trimmed : IsTrimmed piece)
    (before after : List Char) :
    trimChars (before ++ piece ++ after) =
      before.dropWhile isBlank ++ piece ++ trimEndChars after := by
  have front : (before ++ (piece ++ after)).dropWhile isBlank =
      before.dropWhile isBlank ++ (piece ++ after) := by
    refine dropWhile_append_of_head (by simp [nonempty]) ?_ before
    rw [List.head?_append_of_ne_nil _ nonempty]
    exact trimmed.1
  have back : (after.reverse ++ (before.dropWhile isBlank ++ piece).reverse).dropWhile isBlank =
      after.reverse.dropWhile isBlank ++ (before.dropWhile isBlank ++ piece).reverse := by
    refine dropWhile_append_of_head (by simp [nonempty]) ?_ after.reverse
    rw [List.head?_reverse, List.getLast?_append_of_ne_nil _ nonempty]
    exact trimmed.2
  rw [trimChars, List.append_assoc, front, ← List.append_assoc, trimEndChars, List.reverse_append,
    back, List.reverse_append, List.reverse_reverse, trimEndChars]

/-- Nothing but the blanks around it is trimmed off a piece that is trimmed. -/
theorem trimChars_between_blanks {piece before after : List Char} (nonempty : piece ≠ [])
    (trimmed : IsTrimmed piece) (blankBefore : ∀ c ∈ before, isBlank c = true)
    (blankAfter : ∀ c ∈ after, isBlank c = true) : trimChars (before ++ piece ++ after) = piece := by
  have noAfter : trimEndChars after = [] := trimEndChars_append_blank blankAfter []
  rw [trimChars_around nonempty trimmed, noAfter, List.dropWhile_eq_nil_iff.mpr blankBefore,
    List.nil_append, List.append_nil]

/-- A text is another one with blanks around it, and has no blank at either end itself. -/
structure Trims (cs trimmed : List Char) : Prop where
  exists_around : ∃ before after, cs = before ++ trimmed ++ after ∧
    (∀ c ∈ before, isBlank c = true) ∧ ∀ c ∈ after, isBlank c = true
  isTrimmed : IsTrimmed trimmed

theorem trims_iff {cs trimmed : List Char} : Trims cs trimmed ↔ trimChars cs = trimmed := by
  constructor
  · rintro ⟨⟨before, after, rfl, blankBefore, blankAfter⟩, isTrimmed⟩
    cases trimmed with
    | nil =>
        rw [List.append_nil, trimChars_blank_append blankBefore]
        exact trimChars_eq_nil_iff.mpr blankAfter
    | cons c rest =>
        exact trimChars_between_blanks (List.cons_ne_nil c rest) isTrimmed blankBefore blankAfter
  · rintro rfl
    exact ⟨exists_blanks_around cs, isTrimmed_trimChars cs⟩

/-- What is trimmed stays as it is. -/
theorem trimChars_trimChars (cs : List Char) : trimChars (trimChars cs) = trimChars cs := by
  by_cases empty : trimChars cs = []
  · rw [empty]
    rfl
  · have alone := trimChars_between_blanks empty (isTrimmed_trimChars cs) (List.forall_mem_nil _)
      (List.forall_mem_nil _)
    rwa [List.nil_append, List.append_nil] at alone

end StudyDesk.Text
