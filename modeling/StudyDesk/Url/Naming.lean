/-
Module: StudyDesk.Url.Naming
Purpose: The names that are brought into ASCII without any tables.
Main exports:
  Naming.plain
-/
import StudyDesk.Url.Host

namespace StudyDesk.Naming

/-- Characters that no name may have. -/
def isForbidden (c : Char) : Bool :=
  Host.isForbidden c || c.toNat < 0x20 || c = '%' || c.toNat = 0x7F

/-- Whether a character is one of ASCII. -/
def isPlain (c : Char) : Bool := c.toNat < 0x80

/-- The mark of a label that stands for text beyond ASCII. -/
def labelMark : List Char := ['x', 'n', '-', '-']

/-- Names in ASCII are put in lower case.  A name that has other characters, or a label that bears the
mark of them, takes tables, and there are none here; it is refused, like one that has a character
that none may have. -/
def plain : Naming := fun bytes => do
  let name := (← Text.decodeChars? bytes).map Char.toLower
  guard (name.all fun c => isPlain c && !isForbidden c)
  guard ((Host.splitAt '.' name).all fun label => !labelMark.isPrefixOf label)
  return name

end StudyDesk.Naming
