/-
Module: StudyDesk.Text.Blank
Purpose: The white space that surrounds queries, answers and deny-list terms.
Main exports:
  isBlank, trimChars, trim, isBlankText
-/

namespace StudyDesk.Text

/-!
White space is the Unicode property of that name: the six ASCII blanks, the next-line and no-break
controls, the typographic spaces and the two separators.  A zero-width space or a byte order mark
is text, not blank.
-/

/-- The characters that trimming removes. -/
def isBlank (c : Char) : Bool :=
  let n := c.toNat
  (0x09 ≤ n && n ≤ 0x0D) || n == 0x20 || n == 0x85 || n == 0xA0 || n == 0x1680 ||
    (0x2000 ≤ n && n ≤ 0x200A) || n == 0x2028 || n == 0x2029 || n == 0x202F || n == 0x205F ||
    n == 0x3000

/-- A list of characters without the blanks at its end. -/
def trimEndChars (cs : List Char) : List Char :=
  (cs.reverse.dropWhile isBlank).reverse

/-- A list of characters without the blanks at either end. -/
def trimChars (cs : List Char) : List Char :=
  trimEndChars (cs.dropWhile isBlank)

/-- A text without the blanks at either end. -/
def trim (s : String) : String :=
  String.ofList (trimChars s.toList)

/-- A text that holds nothing but blanks. -/
def isBlankText (s : String) : Bool :=
  s.toList.all isBlank

end StudyDesk.Text
