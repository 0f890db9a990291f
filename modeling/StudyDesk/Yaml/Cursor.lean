/-
Module: StudyDesk.Yaml.Cursor
Purpose: A place in a YAML text, and the classes of characters that end things there.
Main exports:
  Yaml.Cursor, Yaml.isBreak, Yaml.isEnd
-/

namespace StudyDesk.Yaml

/-- The text that is left, and how far into the text and its line it starts. -/
structure Cursor where
  rest : List Char
  index : Nat
  line : Nat
  column : Nat
deriving Repr

/-- Characters that break a line. -/
def isBreak (c : Char) : Bool :=
  c = '\r' || c = '\n' || c.toNat = 0x85 || c.toNat = 0x2028 || c.toNat = 0x2029

/-- Blanks within a line. -/
def isBlank (c : Char) : Bool := c = ' ' || c = '\t'

/-- Whether there is a blank, a line break, or nothing more. -/
def isEnd : Option Char → Bool
  | none => true
  | some c => isBlank c || isBreak c

/-- Whether there is a line break or nothing more. -/
def isLineEnd : Option Char → Bool
  | none => true
  | some c => isBreak c

/-- Characters of the names of anchors and directives. -/
def isNameChar (c : Char) : Bool := c.isAlphanum || c = '_' || c = '-'

/-- Characters that may stand in a text at all. -/
def isAllowed (c : Char) : Bool :=
  let n := c.toNat
  n == 0x09 || n == 0x0A || n == 0x0D || (0x20 ≤ n && n ≤ 0x7E) || n == 0x85 ||
    (0xA0 ≤ n && n ≤ 0xD7FF) || (0xE000 ≤ n && n ≤ 0xFFFD && n != 0xFEFF) || 0x10000 ≤ n

namespace Cursor

/-- The start of a text, behind a byte order mark. -/
def start (cs : List Char) : Cursor :=
  match cs with
  | c :: rest => if c.toNat = 0xFEFF then ⟨rest, 0, 0, 0⟩ else ⟨cs, 0, 0, 0⟩
  | [] => ⟨[], 0, 0, 0⟩

/-- The character some places further on. -/
def peek (here : Cursor) (n : Nat) : Option Char := here.rest[n]?

/-- The next character. -/
def head (here : Cursor) : Option Char := here.rest.head?

/-- Past one character of the line. -/
def skip (here : Cursor) : Cursor :=
  ⟨here.rest.drop 1, here.index + 1, here.line, here.column + 1⟩

/-- Past several characters of the line. -/
def skipN (here : Cursor) (n : Nat) : Cursor :=
  ⟨here.rest.drop n, here.index + n, here.line, here.column + n⟩

/-- Past a line break. -/
def skipLine (here : Cursor) : Cursor :=
  match here.rest with
  | '\r' :: '\n' :: rest => ⟨rest, here.index + 2, here.line + 1, 0⟩
  | _ :: rest => ⟨rest, here.index + 1, here.line + 1, 0⟩
  | [] => here

/-- What a line break adds to a text: the separators of lines and paragraphs stay, others become a
line feed. -/
def breakText (here : Cursor) : List Char :=
  match here.rest with
  | c :: _ => if c.toNat = 0x2028 || c.toNat = 0x2029 then [c] else ['\n']
  | [] => []

/-- Past the characters of the line that satisfy a test. -/
def skipWhile (p : Char → Bool) (here : Cursor) : Cursor :=
  here.skipN (here.rest.takeWhile p).length

/-- Past the blanks of the line. -/
def skipBlanks (here : Cursor) : Cursor := here.skipWhile isBlank

/-- Past a comment, if one starts here, up to the end of the line. -/
def skipComment (here : Cursor) : Cursor :=
  if here.head = some '#' then here.skipWhile (!isBreak ·) else here

/-- Whether three marks stand at the start of a line with nothing behind them. -/
def atMarks (here : Cursor) (mark : Char) : Bool :=
  here.column = 0 && here.peek 0 = some mark && here.peek 1 = some mark &&
    here.peek 2 = some mark && isEnd (here.peek 3)

/-- Whether a document starts or ends here. -/
def atDocumentMark (here : Cursor) : Bool := here.atMarks '-' || here.atMarks '.'

end Cursor

end StudyDesk.Yaml
