/-
Module: StudyDesk.Url.Percent
Purpose: Percent-encoding, with the set of characters that each part of an address encodes.
Main exports:
  Percent.encode, Percent.decode, Percent.inFragment, Percent.inQuery, Percent.inPath,
  Percent.inUserInfo
-/
import StudyDesk.Text.Bytes
import StudyDesk.Text.Digits

namespace StudyDesk.Percent

/-- The two upper-case hexadecimal digits of a byte, after a percent sign. -/
def encodeByte (b : UInt8) : List Char :=
  ['%', (Nat.digitChar (b.toNat / 16)).toUpper, (Nat.digitChar (b.toNat % 16)).toUpper]

/-!
### What is encoded

Controls and everything outside ASCII are encoded in every part; the parts differ in the ASCII
punctuation that they encode beside.
-/

/-- Characters that no part keeps. -/
def inEvery (c : Char) : Bool := c.toNat < 0x20 || 0x7F ≤ c.toNat

/-- Characters encoded in a fragment. -/
def inFragment (c : Char) : Bool :=
  inEvery c || c = ' ' || c = '"' || c = '<' || c = '>' || c = '\x60'

/-- Characters encoded in the query of a web address. -/
def inQuery (c : Char) : Bool :=
  inEvery c || c = ' ' || c = '"' || c = '#' || c = '<' || c = '>' || c = '\''

/-- Characters encoded in a path. -/
def inPath (c : Char) : Bool :=
  inFragment c || c = '#' || c = '?' || c = '{' || c = '}'

/-- Characters encoded in a user name or password. -/
def inUserInfo (c : Char) : Bool :=
  inPath c || c = '/' || c = ':' || c = ';' || c = '=' || c = '@' || c = '[' || c = '\\' ||
    c = ']' || c = '^' || c = '|'

/-- One character, encoded byte by byte if the part says so. -/
def encodeChar (encoded : Char → Bool) (c : Char) : List Char :=
  if encoded c then (Text.encode [c]).flatMap encodeByte else [c]

/-- A text with the characters encoded that the part says. -/
def encode (encoded : Char → Bool) (cs : List Char) : List Char :=
  cs.flatMap (encodeChar encoded)

/-!
### Decoding
-/

/-- The value of a hexadecimal digit given as a byte. -/
def hexByte? (b : UInt8) : Option Nat := Text.hexDigit? (Char.ofNat b.toNat)

/-- Bytes with each percent sign before two hexadecimal digits replaced by the byte meant; a percent
sign before anything else stays. -/
def decode : List UInt8 → List UInt8
  | [] => []
  | [b] => [b]
  | [b, c] => [b, c]
  | b :: c :: d :: rest =>
      if b == 0x25 then
        match hexByte? c, hexByte? d with
        | some h, some l => UInt8.ofNat (16 * h + l) :: decode rest
        | _, _ => b :: decode (c :: d :: rest)
      else b :: decode (c :: d :: rest)
termination_by bytes => bytes.length

end StudyDesk.Percent
