/-
Module: StudyDesk.Answer.Fence
Purpose: The one repair of model output: removing a code fence around it.
Main exports:
  stripFence
-/
import StudyDesk.Text.Blank

namespace StudyDesk

/-- The three backticks that open and close a fence. -/
def fenceMark : List Char := ['\x60', '\x60', '\x60']

/-- A text without the given ending, if it has it. -/
def withoutEnding? (ending cs : List Char) : Option (List Char) :=
  if ending.isSuffixOf cs then some (cs.take (cs.length - ending.length)) else none

/-- A text without the given beginning, if it has it. -/
def withoutBeginning? (beginning cs : List Char) : Option (List Char) :=
  if beginning.isPrefixOf cs then some (cs.drop beginning.length) else none

/-- The text inside a fence: what follows the first line break, or all of it when it is one line.
The part before the break is the info string of the opening line. -/
def insideFence (inner : List Char) : List Char :=
  match inner.dropWhile (· != '\n') with
  | [] => inner
  | _ :: body => body

/-- A text without surrounding blanks and without one surrounding fence. -/
def stripFence (cs : List Char) : List Char :=
  let trimmed := Text.trimChars cs
  match withoutBeginning? fenceMark trimmed with
  | none => trimmed
  | some rest =>
      match withoutEnding? fenceMark rest with
      | none => trimmed
      | some inner => Text.trimChars (insideFence inner)

end StudyDesk
