/-
Module: StudyDesk.Json.Skip
Purpose: Passing over the value of a member that no record asks for.
Main exports:
  Json.skipValue
-/
import StudyDesk.Json.Parser

namespace StudyDesk.Json

/-!
A value that nobody wants is only checked for its outline: its numbers may have any size, its texts
may hold unpaired surrogates, and containers may nest without limit.  The open containers are kept
in a list, so no depth is spent.
-/

/-- A text after its opening quote, passed over.  `left` counts the hexadecimal digits that are due,
`escaped` says that a backslash came before. -/
def skipBody (escaped : Bool) (left : Nat) : List Char → Except Failure (List Char)
  | [] => if left = 0 then .error ⟨.endInString, [], 0⟩ else .error (brokenHex left [])
  | c :: rest =>
      if left != 0 then
        match Text.hexDigit? c with
        | some _ => skipBody false (left - 1) rest
        | none => .error (brokenHex left (c :: rest))
      else if escaped then
        if c = 'u' then skipBody false 4 rest
        else if (simpleEscape? c).isSome then skipBody false 0 rest
        else failAt .invalidEscape (c :: rest)
      else if c = '"' then .ok rest
      else if c = '\\' then skipBody true 0 rest
      else if c.toNat < 0x20 then .error ⟨.controlCharacter, c :: rest, 0⟩
      else skipBody false 0 rest

/-- An exponent after its letter, passed over. -/
def skipExponent (cs : List Char) : Except Failure (List Char) :=
  let digits :=
    match cs with
    | '+' :: rest => rest
    | '-' :: rest => rest
    | rest => rest
  if startsWithDigit digits then .ok (afterDigits digits) else failAt .invalidNumber digits

/-- What may follow the whole part of a number, passed over. -/
def skipFraction : List Char → Except Failure (List Char)
  | '.' :: rest =>
      if startsWithDigit rest then
        match afterDigits rest with
        | 'e' :: more => skipExponent more
        | 'E' :: more => skipExponent more
        | more => .ok more
      else failAt .invalidNumber (afterDigits rest)
  | 'e' :: rest => skipExponent rest
  | 'E' :: rest => skipExponent rest
  | rest => .ok rest

/-- A number after its sign, passed over. -/
def skipNumber : List Char → Except Failure (List Char)
  | [] => failAt .invalidNumber []
  | c :: rest =>
      if c = '0' then
        if startsWithDigit rest then failAt .invalidNumber rest else skipFraction rest
      else if c.isDigit then skipFraction (afterDigits rest)
      else failAt .invalidNumber (c :: rest)

/-- A container that is open. -/
inductive Frame where
  | list
  | object
deriving DecidableEq, Repr

/-- What is due next. -/
inductive Due where
  | value
  /-- The end of the innermost container, or more in it; after something a comma is wanted. -/
  | more (afterItem : Bool)
deriving DecidableEq, Repr

/-- The name of a member and its colon, passed over. -/
def skipName (cs : List Char) : Except Failure (List Char) :=
  match skipBlanks cs with
  | [] => failAt .endInObject []
  | '"' :: rest => do
      let rest ← skipBody false 0 rest
      readColon rest
  | rest => failAt .keyNotText rest

/-- Pass over what is due and over everything that the open containers still hold.  Two steps for a
character are enough. -/
def skipOpen : Nat → Due → List Frame → List Char → Except Failure (List Char)
  | 0, _, _, cs => failAt .expectedValue cs
  | steps + 1, .value, frames, cs =>
      match skipBlanks cs with
      | [] => failAt .endInValue []
      | c :: rest =>
          if c = 'n' then do
            skipOpen steps (.more true) frames (← readWord ['u', 'l', 'l'] rest)
          else if c = 't' then do
            skipOpen steps (.more true) frames (← readWord ['r', 'u', 'e'] rest)
          else if c = 'f' then do
            skipOpen steps (.more true) frames (← readWord ['a', 'l', 's', 'e'] rest)
          else if c = '-' then do
            skipOpen steps (.more true) frames (← skipNumber rest)
          else if c.isDigit then do
            skipOpen steps (.more true) frames (← skipNumber (c :: rest))
          else if c = '"' then do
            skipOpen steps (.more true) frames (← skipBody false 0 rest)
          else if c = '[' then skipOpen steps (.more false) (.list :: frames) rest
          else if c = '{' then skipOpen steps (.more false) (.object :: frames) rest
          else failAt .expectedValue (c :: rest)
  | _ + 1, .more _, [], cs => .ok cs
  | steps + 1, .more afterItem, frame :: outer, cs =>
      let enter := fun (text : List Char) =>
        match frame with
        | .list => skipOpen steps .value (frame :: outer) text
        | .object => do skipOpen steps .value (frame :: outer) (← skipName text)
      match skipBlanks cs with
      | [] => failAt (if frame = .list then .endInList else .endInObject) []
      | c :: rest =>
          if afterItem && c = ',' then enter rest
          else if (frame = .list && c = ']') || (frame = .object && c = '}') then
            skipOpen steps (.more true) outer rest
          else if afterItem then
            failAt (if frame = .list then .expectedListEnd else .expectedObjectEnd) (c :: rest)
          else enter (c :: rest)

/-- Pass over the value at the front of a text. -/
def skipValue (cs : List Char) : Except Failure (List Char) :=
  skipOpen (2 * cs.length + 2) .value [] cs

end StudyDesk.Json
