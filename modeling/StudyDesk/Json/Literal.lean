/-
Module: StudyDesk.Json.Literal
Purpose: Reading the words and the texts of JSON.
Main exports:
  Json.skipBlanks, Json.readWord, Json.readBody
-/
import StudyDesk.Json.Fault
import StudyDesk.Text.Digits

namespace StudyDesk.Json

/-- The four characters that may stand between the parts of a JSON text. -/
def isSpace (c : Char) : Bool := c = ' ' || c = '\n' || c = '\t' || c = '\r'

/-- A text without its leading blanks. -/
def skipBlanks (cs : List Char) : List Char := cs.dropWhile isSpace

/-- A fault at the next character, which counts as read. -/
def failAt (fault : Fault) (cs : List Char) : Except Failure α := .error ⟨fault, cs, 1⟩

/-- The rest of a word, letter by letter. -/
def readWord : List Char → List Char → Except Failure (List Char)
  | [], cs => .ok cs
  | _ :: _, [] => .error ⟨.endInValue, [], 0⟩
  | w :: word, c :: cs => if c = w then readWord word cs else failAt .expectedIdent (c :: cs)

/-!
### Texts

A text is read by an automaton that moves over it one character at a time.  Code units are written
with four hexadecimal digits; a leading surrogate wants its trailing one right behind it.
-/

/-- Where the automaton stands inside a text. -/
inductive Spot where
  | plain
  /-- After a backslash. -/
  | escape
  /-- `left` more hexadecimal digits, `unit` gathered so far, after a leading surrogate or not. -/
  | hex (left : Nat) (unit : Nat) (lead : Option Nat)
  /-- Where the backslash of a trailing surrogate is due. -/
  | wantBackslash (lead : Nat)
  /-- Where the letter of a trailing surrogate is due. -/
  | wantLetter (lead : Nat)
deriving DecidableEq, Repr

/-- The character of a one-letter escape. -/
def simpleEscape? (c : Char) : Option Char :=
  if c = '"' || c = '\\' || c = '/' then some c
  else if c = 'b' then some (Char.ofNat 0x08)
  else if c = 'f' then some (Char.ofNat 0x0C)
  else if c = 'n' then some '\n'
  else if c = 'r' then some '\r'
  else if c = 't' then some '\t'
  else none

/-- A broken group of hexadecimal digits, `left` of which are due: four bytes are looked at in one
go, and when there are not so many the text has ended. -/
def brokenHex (left : Nat) (cs : List Char) : Failure :=
  if Text.byteLength cs < left then ⟨.endInString, [], 0⟩ else ⟨.invalidEscape, cs, left⟩

/-- Whether a code unit is a leading surrogate. -/
def isLeadSurrogate (unit : Nat) : Bool := 0xD800 ≤ unit && unit ≤ 0xDBFF

/-- Whether a code unit is a trailing surrogate. -/
def isTrailSurrogate (unit : Nat) : Bool := 0xDC00 ≤ unit && unit ≤ 0xDFFF

/-- The characters of a text up to its closing quote; `done` holds those read so far, the last one
first. -/
def readBody (spot : Spot) (done : List Char) : List Char → Read (List Char)
  | [] =>
      match spot with
      | .hex left _ _ => .error (brokenHex left [])
      | _ => .error ⟨.endInString, [], 0⟩
  | c :: rest =>
      match spot with
      | .plain =>
          if c = '"' then .ok (done.reverse, rest)
          else if c = '\\' then readBody .escape done rest
          else if c.toNat < 0x20 then failAt .controlCharacter (c :: rest)
          else readBody .plain (c :: done) rest
      | .escape =>
          if c = 'u' then readBody (.hex 4 0 none) done rest
          else
            match simpleEscape? c with
            | some d => readBody .plain (d :: done) rest
            | none => failAt .invalidEscape (c :: rest)
      | .hex left unit lead =>
          match Text.hexDigit? c with
          | none => .error (brokenHex left (c :: rest))
          | some d =>
              let now := unit * 16 + d
              if 1 < left then readBody (.hex (left - 1) now lead) done rest
              else
                match lead with
                | none =>
                    if isTrailSurrogate now then .error ⟨.loneSurrogate, rest, 0⟩
                    else if isLeadSurrogate now then readBody (.wantBackslash now) done rest
                    else readBody .plain (Char.ofNat now :: done) rest
                | some high =>
                    if isTrailSurrogate now then
                      readBody .plain
                        (Char.ofNat ((high - 0xD800) * 0x400 + (now - 0xDC00) + 0x10000) :: done)
                        rest
                    else .error ⟨.loneSurrogate, rest, 0⟩
      | .wantBackslash high =>
          if c = '\\' then readBody (.wantLetter high) done rest
          else failAt .unexpectedHexEnd (c :: rest)
      | .wantLetter high =>
          if c = 'u' then readBody (.hex 4 0 (some high)) done rest
          else failAt .unexpectedHexEnd (c :: rest)

/-- A text after its opening quote. -/
def readText (cs : List Char) : Read String :=
  (readBody .plain [] cs).map fun r => (String.ofList r.1, r.2)

end StudyDesk.Json
