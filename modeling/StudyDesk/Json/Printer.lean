/-
Module: StudyDesk.Json.Printer
Purpose: The compact and the indented text of a JSON value.
Main exports:
  Json.Spacing, Json.write, Json.compact, Json.pretty
-/
import StudyDesk.Decimal.Layout
import StudyDesk.Json.Value

namespace StudyDesk.Json

/-!
Only the quote, the backslash and the controls below the space are escaped in a text; every other
character stands for itself.  Numbers that are not finite have no JSON form and are written null.
-/

/-- A hexadecimal digit. -/
def hexDigit (n : Nat) : Char := Nat.digitChar (n % 16)

/-- One character of a text. -/
def escapeChar (c : Char) : List Char :=
  if c = '"' then ['\\', '"']
  else if c = '\\' then ['\\', '\\']
  else if c.toNat < 0x20 then
    if c.toNat = 0x08 then ['\\', 'b']
    else if c.toNat = 0x09 then ['\\', 't']
    else if c.toNat = 0x0A then ['\\', 'n']
    else if c.toNat = 0x0C then ['\\', 'f']
    else if c.toNat = 0x0D then ['\\', 'r']
    else ['\\', 'u', '0', '0', hexDigit (c.toNat / 16), hexDigit c.toNat]
  else [c]

/-- The characters of a text between its quotes. -/
def escape (cs : List Char) : List Char := cs.flatMap escapeChar

/-- A text with its quotes. -/
def stringText (s : String) : List Char := '"' :: escape s.toList ++ ['"']

/-- An integer. -/
def integerText (i : Int) : List Char :=
  if i < 0 then '-' :: Layout.digitsOf i.natAbs else Layout.digitsOf i.natAbs

/-- The text of the missing value. -/
def nullText : List Char := ['n', 'u', 'l', 'l']

/-- The text of a truth value. -/
def boolText (b : Bool) : List Char :=
  if b then ['t', 'r', 'u', 'e'] else ['f', 'a', 'l', 's', 'e']

/-- A number. -/
def numberText : Number → List Char
  | .integer i => integerText i
  | .double x => if x.isFinite then Layout.jsonDouble.write .double x else nullText
  | .single x => if x.isFinite then Layout.jsonSingle.write .single x else nullText

/-!
### Values

One writer serves both forms.  They differ only in the white space: where a line may break, and after
the colon of a member.
-/

/-- The white space of a written value. -/
structure Spacing where
  /-- What stands before an item, a member or a closing bracket, at its level of nesting. -/
  line : Nat → List Char
  /-- What stands after the colon of a member. -/
  afterColon : List Char

namespace Spacing

/-- No white space outside texts. -/
def tight : Spacing := ⟨fun _ => [], []⟩

/-- A line for each item and member, indented by two blanks a level. -/
def indented : Spacing := ⟨fun level => '\n' :: List.replicate (2 * level) ' ', [' ']⟩

end Spacing

mutual

/-- The text of a value at a level of nesting; empty containers are closed up. -/
def write (spacing : Spacing) (level : Nat) : Json → List Char
  | .null => nullText
  | .bool b => boolText b
  | .number n => numberText n
  | .string s => stringText s
  | .array [] => ['[', ']']
  | .array (item :: rest) =>
      '[' :: (spacing.line (level + 1) ++ (write spacing (level + 1) item ++
        (writeItems spacing (level + 1) rest ++ (spacing.line level ++ [']']))))
  | .object [] => ['{', '}']
  | .object ((key, value) :: rest) =>
      '{' :: (spacing.line (level + 1) ++ (stringText key ++ ':' :: (spacing.afterColon ++
        (write spacing (level + 1) value ++
          (writeMembers spacing (level + 1) rest ++ (spacing.line level ++ ['}']))))))

/-- Further items, each after a comma. -/
def writeItems (spacing : Spacing) (level : Nat) : List Json → List Char
  | [] => []
  | item :: rest =>
      ',' :: (spacing.line level ++ (write spacing level item ++ writeItems spacing level rest))

/-- Further members, each after a comma. -/
def writeMembers (spacing : Spacing) (level : Nat) : List (String × Json) → List Char
  | [] => []
  | (key, value) :: rest =>
      ',' :: (spacing.line level ++ (stringText key ++ ':' :: (spacing.afterColon ++
        (write spacing level value ++ writeMembers spacing level rest))))

end

/-- A value on one line. -/
def compact (v : Json) : String := String.ofList (write .tight 0 v)

/-- A value over several lines, indented by two blanks a level. -/
def pretty (v : Json) : String := String.ofList (write .indented 0 v)

end StudyDesk.Json
