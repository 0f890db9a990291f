/-
Module: StudyDesk.Proofs.Gate.Composition
Purpose: What a gate reports of a question, and how the gates of several lists of terms go together.
Main exports:
  Gate.exists_made_iff, Gate.passes_iff, Gate.EndsFirst.congr, Gate.lowered, Gate.SearchLaw,
  Gate.search_obeys_law
-/
import StudyDesk.Proofs.Gate.Matching

namespace StudyDesk.Gate

variable {terms more : List String} {gate other : Gate} {query : String}

/-- A gate is made of any terms that are not blank. -/
theorem exists_made_iff :
    (∃ gate, ofTerms? terms = some gate) ↔ ∀ term ∈ terms, Text.isBlankText term = false := by
  have blank : ∀ term, normalize term ≠ "" ↔ Text.isBlankText term = false := by
    intro term
    rw [ne_eq, normalize_eq_empty_iff, Bool.not_eq_true]
  constructor
  · rintro ⟨gate, made⟩ term isTerm
    exact (blank term).mp ((ofTerms?_eq_some_iff.mp made).1 term isTerm)
  · intro notBlank
    refine ⟨⟨terms.map normalize⟩, ofTerms?_eq_some_iff.mpr ⟨?_, rfl⟩⟩
    intro term isTerm
    exact (blank term).mpr (notBlank term isTerm)

theorem passes_eq_true_iff : gate.passes query = true ↔ gate.find query = none := by
  rw [passes, Option.isNone_iff_eq_none]

/-- A question passes a gate when its lower case holds no term of it. -/
theorem passes_iff (made : ofTerms? terms = some gate) :
    gate.passes query = true ↔
      ∀ term ∈ terms, ¬ (normalize term).toList <:+: (Text.lower query).toList := by
  obtain ⟨-, same⟩ := ofTerms?_eq_some_iff.mp made
  rw [passes_eq_true_iff, find_eq_none_iff (nonempty_of_made made), same, List.forall_mem_map,
    Text.lower, String.toList_ofList]

/-- Which term ends first does not hang on the order of the terms, nor on repetitions. -/
theorem EndsFirst.congr {names others : List String} {text front : List Char} {found : String}
    (same : ∀ name, name ∈ names ↔ name ∈ others) (first : EndsFirst names text front found) :
    EndsFirst others text front found where
  isTerm := (same found).mp first.isTerm
  within := first.within
  ends := first.ends
  earliest := fun term isTerm => first.earliest term ((same term).mpr isTerm)
  longest := fun term isTerm => first.longest term ((same term).mpr isTerm)

/-- Gates with the same terms report the same. -/
theorem find_congr (nonempty : ∀ term ∈ gate.terms, term ≠ "")
    (same : ∀ name, name ∈ gate.terms ↔ name ∈ other.terms) :
    gate.find query = other.find query := by
  have otherNonempty : ∀ term ∈ other.terms, term ≠ "" := fun term isTerm =>
    nonempty term ((same term).mpr isTerm)
  apply Option.ext
  intro found
  rw [find_eq_some_iff nonempty, find_eq_some_iff otherNonempty]
  constructor
  · rintro ⟨front, first⟩
    exact ⟨front, first.congr same⟩
  · rintro ⟨front, first⟩
    exact ⟨front, first.congr fun name => (same name).symm⟩

/-! ### The law -/

/-- The forms in which the terms are looked for: trimmed, and in lower case. -/
def lowered (terms : List String) : List String :=
  terms.map fun term => Text.lower (Text.trim term)

theorem lowered_eq_map (terms : List String) : lowered terms = terms.map normalize := rfl

/-- What holds of the gates that are made of two lists of terms, and of both together. -/
structure SearchLaw (terms more : List String) : Prop where
  /-- A gate is made unless one of the terms is blank. -/
  made_iff : (∃ gate, ofTerms? terms = some gate) ↔
    ∀ term ∈ terms, Text.isBlankText term = false
  /-- It finds nothing in a question whose lower case holds none of its terms, -/
  misses_iff : ∀ gate, ofTerms? terms = some gate → ∀ query, gate.find query = none ↔
    ∀ term ∈ lowered terms, ¬ term.toList <:+: (Text.lower query).toList
  /-- and in any other the term that ends first, the longest of those that end there. -/
  finds_iff : ∀ gate, ofTerms? terms = some gate → ∀ query found,
    gate.find query = some found ↔
      ∃ front, EndsFirst (lowered terms) (Text.lower query).toList front found
  /-- A question passes when nothing is found. -/
  passes_iff : ∀ gate : Gate, ∀ query, gate.passes query = true ↔ gate.find query = none
  /-- Of two lists of which gates are made one is made together, and it lets through what both let
  through. -/
  append : ∀ first second, ofTerms? terms = some first → ofTerms? more = some second →
    ∃ both, ofTerms? (terms ++ more) = some both ∧
      ∀ query, both.passes query = true ↔ first.passes query = true ∧ second.passes query = true
  /-- A gate lets through no more than one that has some of its terms only, -/
  subset : ∀ fewer all, ofTerms? terms = some fewer → ofTerms? more = some all →
    (∀ term ∈ lowered terms, term ∈ lowered more) →
      ∀ query, all.passes query = true → fewer.passes query = true
  /-- and reports the same as one that has all of them, in whatever order and however often. -/
  same : ∀ first second, ofTerms? terms = some first → ofTerms? more = some second →
    (∀ name, name ∈ lowered terms ↔ name ∈ lowered more) →
      ∀ query, first.find query = second.find query ∧ first.passes query = second.passes query

/-- The gates of any two lists of terms obey the law. -/
theorem search_obeys_law (terms more : List String) : SearchLaw terms more where
  made_iff := exists_made_iff
  misses_iff := by
    intro gate made query
    rw [← passes_eq_true_iff, passes_iff made, lowered_eq_map, List.forall_mem_map]
  finds_iff := by
    intro gate made query found
    obtain ⟨-, same⟩ := ofTerms?_eq_some_iff.mp made
    rw [find_eq_some_iff (nonempty_of_made made), same, Text.lower, String.toList_ofList,
      lowered_eq_map]
  passes_iff := fun _ _ => passes_eq_true_iff
  append := by
    intro first second firstMade secondMade
    have notBlank := List.forall_mem_append.mpr
      ⟨exists_made_iff.mp ⟨first, firstMade⟩, exists_made_iff.mp ⟨second, secondMade⟩⟩
    obtain ⟨both, made⟩ := exists_made_iff.mpr notBlank
    refine ⟨both, made, ?_⟩
    intro query
    rw [passes_iff made, passes_iff firstMade, passes_iff secondMade, List.forall_mem_append]
  subset := by
    intro fewer all fewerMade allMade listed query passed
    rw [passes_iff allMade] at passed
    rw [passes_iff fewerMade]
    intro term isTerm
    rw [lowered_eq_map, lowered_eq_map] at listed
    obtain ⟨alike, isOther, same⟩ := List.mem_map.mp (listed _ (List.mem_map_of_mem isTerm))
    rw [← same]
    exact passed alike isOther
  same := by
    intro first second firstMade secondMade alike query
    have found : first.find query = second.find query := by
      apply find_congr (nonempty_of_made firstMade)
      rw [(ofTerms?_eq_some_iff.mp firstMade).2, (ofTerms?_eq_some_iff.mp secondMade).2]
      exact alike
    exact ⟨found, by rw [passes, passes, found]⟩

/-- Of two terms that end together the longer one is reported, and one that starts earlier but ends
later is not. -/
example : (Gate.mk ["cd", "bcd", "abcde"]).find "xABCDE" = some "bcd" := by decide +kernel

end StudyDesk.Gate
