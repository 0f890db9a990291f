/-
Module: StudyDesk.Proofs.Gate.Matching
Purpose: Which terms a gate finds wherever they stand.
Main exports:
  Gate.ofTerms?_eq_some_iff, Gate.normalize_eq_empty_iff, Gate.blocks_of_infix,
  Gate.blocks_everywhere_iff_steady, Gate.misses_sigma_before_letter
-/
import StudyDesk.Proofs.Gate.Search
import StudyDesk.Proofs.Text.LowerCase

namespace StudyDesk.Gate

variable {gate : Gate} {terms : List String}

/-! ### Gates that are made -/

theorem toList_normalize (term : String) :
    (normalize term).toList = Text.lowerChars (Text.trimChars term.toList) := by
  rw [normalize, Text.lower, Text.trim, String.toList_ofList, String.toList_ofList]

/-- Nothing is left to look for exactly of a term that is blank. -/
theorem normalize_eq_empty_iff {term : String} :
    normalize term = "" ↔ Text.isBlankText term = true := by
  rw [← String.toList_eq_nil_iff, toList_normalize, Text.lowerChars_eq_nil_iff,
    Text.trimChars_eq_nil_iff, Text.isBlankText_iff]

/-- The terms of a gate that is made: those it was made of, none of them blank. -/
theorem ofTerms?_eq_some_iff :
    ofTerms? terms = some gate ↔
      (∀ term ∈ terms, normalize term ≠ "") ∧ gate.terms = terms.map normalize := by
  rw [ofTerms?]
  by_cases blank : ∃ term ∈ terms, normalize term = ""
  · obtain ⟨term, isTerm, empty⟩ := blank
    have refused : (terms.map normalize).any String.isEmpty = true := by
      rw [List.any_map, List.any_eq_true]
      exact ⟨term, isTerm, by simp [empty]⟩
    rw [if_pos refused]
    exact iff_of_false (Option.some_ne_none gate).symm fun made => made.1 term isTerm empty
  · push Not at blank
    have accepted : ¬ (terms.map normalize).any String.isEmpty = true := by
      rw [List.any_map, List.any_eq_true]
      rintro ⟨term, isTerm, empty⟩
      exact blank term isTerm (String.isEmpty_iff.mp empty)
    rw [if_neg accepted, Option.some.injEq]
    constructor
    · rintro rfl
      exact ⟨blank, rfl⟩
    · rintro ⟨-, same⟩
      rw [← same]

theorem nonempty_of_made (made : ofTerms? terms = some gate) :
    ∀ term ∈ gate.terms, term ≠ "" := by
  obtain ⟨nonempty, same⟩ := ofTerms?_eq_some_iff.mp made
  rw [same, List.forall_mem_map]
  exact nonempty

/-- The terms of a gate that is made are trimmed. -/
theorem isTrimmed_of_made (made : ofTerms? terms = some gate) {term : String}
    (isTerm : term ∈ gate.terms) : Text.IsTrimmed term.toList := by
  obtain ⟨-, same⟩ := ofTerms?_eq_some_iff.mp made
  rw [same] at isTerm
  obtain ⟨given, -, rfl⟩ := List.mem_map.mp isTerm
  rw [toList_normalize, Text.isTrimmed_lowerChars_iff]
  exact Text.isTrimmed_trimChars given.toList

/-! ### Terms in their surroundings -/

theorem passes_eq_false_iff_find (query : String) :
    gate.passes query = false ↔ ∃ term, gate.find query = some term := by
  rw [passes, Option.isNone_eq_false_iff, Option.isSome_iff_exists]

/-- A question whose lower case holds a term is blocked. -/
theorem blocks_of_infix (nonempty : ∀ term ∈ gate.terms, term ≠ "") {term query : String}
    (isTerm : term ∈ gate.terms) (shows : term.toList <:+: Text.lowerChars query.toList) :
    ∃ found, gate.find query = some found := by
  rw [← Option.isSome_iff_exists, ← Option.ne_none_iff_isSome, ne_eq,
    find_eq_none_iff nonempty]
  intro missed
  exact missed term isTerm shows

/-- A term is steady when its own letters settle the form of each of its capital sigmas. -/
def IsSteadyTerm (term : String) : Prop := Text.IsSteady (Text.trimChars term.toList)

theorem toList_around (before term after : String) :
    (before ++ Text.trim term ++ after).toList =
      before.toList ++ Text.trimChars term.toList ++ after.toList := by
  rw [String.toList_append, String.toList_append, Text.trim, String.toList_ofList]

/-- A gate of one term that is not steady lets a question through that holds it. -/
theorem misses_of_not_steady {term : String} (unsteady : ¬ IsSteadyTerm term)
    (made : ofTerms? [term] = some gate) :
    ∃ before after, gate.find (before ++ Text.trim term ++ after) = none := by
  obtain ⟨before, after, missed⟩ := Text.exists_surroundings_of_not_steady unsteady
  obtain ⟨-, same⟩ := ofTerms?_eq_some_iff.mp made
  refine ⟨String.ofList before, String.ofList after, ?_⟩
  rw [find_eq_none_iff (nonempty_of_made made), same, toList_around, String.toList_ofList,
    String.toList_ofList]
  simpa [toList_normalize] using missed

/-- A term that is blank is steady, for lack of letters; a gate is made of any other. -/
theorem exists_gate_of_not_steady {term : String} (unsteady : ¬ IsSteadyTerm term) :
    ∃ gate, ofTerms? [term] = some gate := by
  refine ⟨⟨[normalize term]⟩, ofTerms?_eq_some_iff.mpr ⟨?_, rfl⟩⟩
  rw [List.forall_mem_singleton]
  intro empty
  have noLetters := toList_normalize term
  rw [empty, String.toList_empty] at noLetters
  refine unsteady (Text.isSteady_of_not_mem ?_)
  rw [Text.lowerChars_eq_nil_iff.mp noLetters.symm]
  exact List.not_mem_nil

/-- A term is found wherever it stands exactly if it is steady: a gate that has it among its terms then
blocks every question that holds it, and otherwise the gate of this term alone does not. -/
theorem blocks_everywhere_iff_steady (term : String) :
    (∀ terms gate, ofTerms? terms = some gate → term ∈ terms → ∀ before after : String,
      gate.passes (before ++ Text.trim term ++ after) = false ∧
        ∃ found, gate.find (before ++ Text.trim term ++ after) = some found) ↔
      IsSteadyTerm term := by
  constructor
  · intro blocks
    by_contra unsteady
    obtain ⟨gate, made⟩ := exists_gate_of_not_steady unsteady
    obtain ⟨before, after, missed⟩ := misses_of_not_steady unsteady made
    obtain ⟨-, found, finds⟩ := blocks [term] gate made List.mem_cons_self before after
    rw [missed] at finds
    cases finds
  · intro steady terms gate made isTerm before after
    obtain ⟨-, same⟩ := ofTerms?_eq_some_iff.mp made
    have listed : normalize term ∈ gate.terms := by
      rw [same]
      exact List.mem_map_of_mem isTerm
    have shows : (normalize term).toList <:+:
        Text.lowerChars (before ++ Text.trim term ++ after).toList := by
      rw [toList_normalize, toList_around]
      exact Text.lowerChars_infix_of_steady steady before.toList after.toList
    have found := blocks_of_infix (nonempty_of_made made) listed shows
    exact ⟨(passes_eq_false_iff_find _).mpr found, found⟩

/-- Before a letter the term `ΟΔΟΣ` is missed by the gate that it was given to: its last letter is a
final sigma in the term, but not in the question. -/
theorem misses_sigma_before_letter :
    ¬ ∀ terms gate, ofTerms? terms = some gate → ∀ term ∈ terms, ∀ before after : String,
      gate.passes (before ++ Text.trim term ++ after) = false ∧
        ∃ found, gate.find (before ++ Text.trim term ++ after) = some found := by
  intro blocks
  have made : ofTerms? ["ΟΔΟΣ"] = some ⟨["οδος"]⟩ := by decide +kernel
  have passed : (Gate.mk ["οδος"]).passes ("" ++ Text.trim "ΟΔΟΣ" ++ "Α") = true := by
    decide +kernel
  have blocked := (blocks _ _ made "ΟΔΟΣ" List.mem_cons_self "" "Α").1
  rw [passed] at blocked
  cases blocked

end StudyDesk.Gate
