/-
Module: StudyDesk.Text.Case
Purpose: Full lower-casing of a text, on which every comparison without regard to case rests.
Main exports:
  lowerChar, lowerChars, lower
-/
import StudyDesk.Text.CaseTable

namespace StudyDesk.Text

/-!
Every character has a lower case of its own, with two exceptions.  The dotted capital I becomes two
characters.  The capital sigma looks at its neighbours: it becomes the final form when a letter
stands before it and none after it, where marks and apostrophes in between do not count.
-/

/-- The code point of the lower case, found in the table of runs. -/
def lowerCode (n : Nat) : Nat :=
  match lowerRuns.find? (fun r => r.1 ≤ n && n ≤ r.2.1) with
  | some (first, _, stride, shift) =>
      if (n - first) % stride = 0 then ((n : Int) + shift).toNat else n
  | none => n

/-- The lower case of one character, apart from its neighbours. -/
def lowerChar (c : Char) : List Char :=
  if c.toNat < 0x80 then [c.toLower]
  else if c.toNat = 0x130 then ['i', Char.ofNat 0x307]
  else [Char.ofNat (lowerCode c.toNat)]

/-- Whether the search for a neighbouring letter passes over the character. -/
def isCaseIgnorable (c : Char) : Bool :=
  inRanges caseIgnorableRanges c.toNat

/-- Whether the character is a letter with case. -/
def isCased (c : Char) : Bool :=
  inRanges casedRanges c.toNat

/-- Whether the first character that counts is a letter with case. -/
def startsWithLetter (cs : List Char) : Bool :=
  match cs.dropWhile isCaseIgnorable with
  | c :: _ => isCased c
  | [] => false

/-- Lower-case the rest of a text, given what stands before it in reverse order. -/
def lowerAfter (before : List Char) : List Char → List Char
  | [] => []
  | c :: rest =>
      let here :=
        if c = 'Σ' then
          if startsWithLetter before && !startsWithLetter rest then ['ς'] else ['σ']
        else lowerChar c
      here ++ lowerAfter (c :: before) rest

/-- The lower case of a list of characters. -/
def lowerChars (cs : List Char) : List Char :=
  lowerAfter [] cs

/-- The lower case of a text. -/
def lower (s : String) : String :=
  String.ofList (lowerChars s.toList)

end StudyDesk.Text
