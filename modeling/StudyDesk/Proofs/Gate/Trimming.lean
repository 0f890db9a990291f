/-
Module: StudyDesk.Proofs.Gate.Trimming
Purpose: A gate reports the same of a question with and without the blanks around it.
Main exports:
  Gate.exists_front_of_ends, Gate.endsFirst_between_blanks, Gate.find_trim
-/
import StudyDesk.Proofs.Gate.Matching

namespace StudyDesk.Gate

/-!
The terms of a gate are trimmed, so none of them begins or ends among the blanks around a question.
The search then only moves on by the blanks in front.
-/

variable {gate : Gate} {terms : List String}

/-- Nothing that ends in blanks ends in a trimmed text. -/
theorem eq_nil_of_suffix_of_blank {term blanks : List Char} (nonempty : term ≠ [])
    (trimmed : Text.IsTrimmed term) (blank : ∀ c ∈ blanks, Text.isBlank c = true)
    (front : List Char) (ends : term <:+ front ++ blanks) : blanks = [] := by
  by_contra more
  obtain ⟨last, same⟩ := List.getLast?_isSome.mpr more |> Option.isSome_iff_exists.mp
  obtain ⟨start, split⟩ := ends
  have lastOfTerm : term.getLast? = some last := by
    rw [← List.getLast?_append_of_ne_nil start nonempty, split,
      List.getLast?_append_of_ne_nil front more, same]
  have notBlank := trimmed.2
  rw [lastOfTerm, Option.any_some, blank last (List.mem_of_getLast? same)] at notBlank
  cases notBlank

/-- A trimmed text does not begin among blanks. -/
theorem suffix_of_suffix_append_blank {term before front : List Char} (nonempty : term ≠ [])
    (trimmed : Text.IsTrimmed term) (blank : ∀ c ∈ before, Text.isBlank c = true)
    (ends : term <:+ before ++ front) : term <:+ front := by
  rcases List.suffix_or_suffix_of_suffix ends (List.suffix_append before front) with
    inside | ⟨early, rfl⟩
  · exact inside
  · cases early with
    | nil => exact List.suffix_rfl
    | cons first rest =>
        obtain ⟨start, split⟩ := ends
        rw [← List.append_assoc] at split
        have within : first ∈ before := by
          rw [← List.append_cancel_right split]
          exact List.mem_append_right start List.mem_cons_self
        have notBlank := trimmed.1
        rw [List.cons_append, List.head?_cons, Option.any_some, blank first within] at notBlank
        cases notBlank

/-- Where a term ends in a text between blanks, it ends in the text itself. -/
theorem exists_front_of_ends {term text before after other : List Char} (nonempty : term ≠ [])
    (trimmed : Text.IsTrimmed term) (blankBefore : ∀ c ∈ before, Text.isBlank c = true)
    (blankAfter : ∀ c ∈ after, Text.isBlank c = true) (within : other <+: before ++ text ++ after)
    (ends : term <:+ other) : ∃ front, other = before ++ front ∧ front <+: text ∧ term <:+ front := by
  rcases List.prefix_or_prefix_of_prefix within (List.prefix_append (before ++ text) after) with
    inText | ⟨late, rfl⟩
  · rcases List.prefix_or_prefix_of_prefix inText (List.prefix_append before text) with
      inBlanks | ⟨front, rfl⟩
    · -- a trimmed term does not end among the blanks in front
      obtain rfl := eq_nil_of_suffix_of_blank nonempty trimmed
        (fun c member => blankBefore c (inBlanks.subset member)) [] ends
      exact absurd (List.suffix_nil.mp ends) nonempty
    · exact ⟨front, rfl, (List.prefix_append_right_inj before).mp inText,
        suffix_of_suffix_append_blank nonempty trimmed blankBefore ends⟩
  · have lateBlank : ∀ c ∈ late, Text.isBlank c = true := fun c member =>
      blankAfter c (((List.prefix_append_right_inj (before ++ text)).mp within).subset member)
    obtain rfl := eq_nil_of_suffix_of_blank nonempty trimmed lateBlank (before ++ text) ends
    rw [List.append_nil] at ends ⊢
    exact ⟨text, rfl, List.prefix_rfl,
      suffix_of_suffix_append_blank nonempty trimmed blankBefore ends⟩

/-- Blanks around a text move the first end of a term by those in front. -/
theorem endsFirst_between_blanks {names : List String} {text before after front : List Char}
    {found : String} (nonempty : ∀ name ∈ names, name ≠ "")
    (trimmed : ∀ name ∈ names, Text.IsTrimmed name.toList)
    (blankBefore : ∀ c ∈ before, Text.isBlank c = true)
    (blankAfter : ∀ c ∈ after, Text.isBlank c = true) :
    EndsFirst names (before ++ text ++ after) (before ++ front) found ↔
      EndsFirst names text front found := by
  have inner : ∀ name ∈ names, ∀ other, other <+: before ++ text ++ after → name.toList <:+ other →
      ∃ front, other = before ++ front ∧ front <+: text ∧ name.toList <:+ front := by
    intro name isTerm other within ends
    have someLetters := mt String.toList_eq_nil_iff.mp (nonempty name isTerm)
    exact exists_front_of_ends someLetters (trimmed name isTerm) blankBefore blankAfter within ends
  have outer : ∀ {front}, front <+: text → before ++ front <+: before ++ text ++ after :=
    fun within => ((List.prefix_append_right_inj before).mpr within).trans
      (List.prefix_append (before ++ text) after)
  constructor
  · intro first
    obtain ⟨same, split, within, ends⟩ := inner found first.isTerm _ first.within first.ends
    obtain rfl := List.append_cancel_left split
    refine ⟨first.isTerm, within, ends, ?_, ?_⟩
    · intro name isTerm other inText otherEnds
      have later := first.earliest name isTerm (before ++ other) (outer inText)
        (otherEnds.trans (List.suffix_append before other))
      rw [List.length_append, List.length_append] at later
      omega
    · intro name isTerm otherEnds
      exact first.longest name isTerm (otherEnds.trans (List.suffix_append before front))
  · intro first
    refine ⟨first.isTerm, outer first.within,
      first.ends.trans (List.suffix_append before front), ?_, ?_⟩
    · intro name isTerm other inText otherEnds
      obtain ⟨place, rfl, within, ends⟩ := inner name isTerm other inText otherEnds
      have later := first.earliest name isTerm place within ends
      rw [List.length_append, List.length_append]
      omega
    · intro name isTerm otherEnds
      obtain ⟨place, split, -, ends⟩ := inner name isTerm _ (outer first.within) otherEnds
      obtain rfl := List.append_cancel_left split
      exact first.longest name isTerm ends

/-- A gate reports of a question what it reports of the question without the blanks around it. -/
theorem find_trim (made : ofTerms? terms = some gate) (query : String) :
    gate.find (Text.trim query) = gate.find query := by
  obtain ⟨before, after, around, blankBefore, blankAfter⟩ :=
    Text.exists_blanks_around query.toList
  have nonempty := nonempty_of_made made
  have trimmed : ∀ name ∈ gate.terms, Text.IsTrimmed name.toList := fun _ isTerm =>
    isTrimmed_of_made made isTerm
  have lowered : Text.lowerChars query.toList =
      before ++ Text.lowerChars (Text.trim query).toList ++ after := by
    rw [Text.trim, String.toList_ofList, ← Text.lowerChars_between_blanks blankBefore blankAfter,
      ← around]
  apply Option.ext
  intro found
  rw [find_eq_some_iff nonempty, find_eq_some_iff nonempty, lowered]
  constructor
  · rintro ⟨front, first⟩
    exact ⟨before ++ front,
      (endsFirst_between_blanks nonempty trimmed blankBefore blankAfter).mpr first⟩
  · rintro ⟨other, first⟩
    have someLetters := mt String.toList_eq_nil_iff.mp (nonempty found first.isTerm)
    obtain ⟨front, rfl, -, -⟩ := exists_front_of_ends someLetters (trimmed found first.isTerm)
      blankBefore blankAfter first.within first.ends
    exact ⟨front, (endsFirst_between_blanks nonempty trimmed blankBefore blankAfter).mp first⟩

end StudyDesk.Gate
