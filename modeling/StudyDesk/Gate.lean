/-
Module: StudyDesk.Gate
Purpose: The deny-list gate that every question passes before the inference service is asked.
Main exports:
  Gate, Gate.ofTerms?, Gate.find, Gate.passes
-/
import StudyDesk.Text.Blank
import StudyDesk.Text.Case

namespace StudyDesk

/-!
Terms are trimmed and put in lower case once, questions are put in lower case as a whole.  A
question is blocked when it contains a term.  The term that is reported is the one whose occurrence
ends first; of several that end at the same place the longest; of equal ones the first listed.
-/

/-- A gate, with its terms in the form in which they are looked for. -/
structure Gate where
  terms : List String
deriving DecidableEq, Repr

namespace Gate

/-- The terms of the gate when none are configured. -/
def defaultTerms : List String := ["hack", "exploit", "bypass"]

/-- The reason given for a blocked question. -/
def blockedReason : String := "blocked by safety filter"

/-- The form in which a term is looked for. -/
def normalize (term : String) : String := Text.lower (Text.trim term)

/-- A gate for the given terms; none if one of them is blank. -/
def ofTerms? (terms : List String) : Option Gate :=
  let normalized := terms.map normalize
  if normalized.any String.isEmpty then none else some ⟨normalized⟩

/-- A term with its characters from the last to the first. -/
def backwards (term : String) : String × List Char := (term, term.toList.reverse)

/-- The longest of the terms that end where `seen`, the text so far from its last character on,
ends; the first of equally long ones. -/
def longestEnding (terms : List (String × List Char)) (seen : List Char) :
    Option (String × List Char) :=
  terms.foldl
    (fun best term =>
      if term.2.isPrefixOf seen then
        match best with
        | none => some term
        | some other => if other.2.length < term.2.length then some term else best
      else best)
    none

/-- The term that ends first in the rest of a text. -/
def findAfter (terms : List (String × List Char)) (seen : List Char) : List Char → Option String
  | [] => none
  | c :: rest =>
      match longestEnding terms (c :: seen) with
      | some term => some term.1
      | none => findAfter terms (c :: seen) rest

/-- The term for which a question is blocked, if it is. -/
def find (gate : Gate) (query : String) : Option String :=
  findAfter (gate.terms.map backwards) [] (Text.lowerChars query.toList)

/-- Whether a question may go on. -/
def passes (gate : Gate) (query : String) : Bool := (gate.find query).isNone

end Gate

end StudyDesk
