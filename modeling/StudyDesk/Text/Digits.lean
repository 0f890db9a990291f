/-
Module: StudyDesk.Text.Digits
Purpose: Numbers that are written in digits.
Main exports:
  hexDigit?, digitsValue?
-/

namespace StudyDesk.Text

/-- The value of a hexadecimal digit. -/
def hexDigit? (c : Char) : Option Nat :=
  if c.isDigit then some (c.toNat - '0'.toNat)
  else if 'a' ≤ c && c ≤ 'f' then some (c.toNat - 'a'.toNat + 10)
  else if 'A' ≤ c && c ≤ 'F' then some (c.toNat - 'A'.toNat + 10)
  else none

/-- A number written in a base, if all its digits belong to the base. -/
def digitsValue? (base : Nat) (cs : List Char) : Option Nat :=
  cs.foldl
    (fun total c => do
      let t ← total
      let d ← hexDigit? c
      if d < base then some (t * base + d) else none)
    (some 0)

end StudyDesk.Text
