/-
Module: StudyDesk.Decimal.Reading
Purpose: Reading decimal numbers with point and exponent, rounded once.
Main exports:
  Floating.ofDecimal, readDecimal?
-/
import StudyDesk.Decimal.Shortest

namespace StudyDesk

/-- The number nearest to `digits * 10 ^ exponent`.  Beyond a thousand places no format has a number
other than zero or infinity, so no power of ten is formed there. -/
def Floating.ofDecimal (fmt : FloatFormat) (negative : Bool) (digits : Nat) (exponent : Int) :
    Floating :=
  let lead := exponent + Decimal.digitCount digits
  if digits = 0 || lead < -1000 then .finite negative 0 fmt.lowest
  else if 1000 < lead then .infinite negative
  else if exponent < 0 then .ofRatio fmt negative digits (Nat.pow 10 exponent.natAbs)
  else .ofRatio fmt negative (digits * Nat.pow 10 exponent.natAbs) 1

/-- The value of decimal digits. -/
def digitsNat (cs : List Char) : Nat :=
  cs.foldl (fun n c => n * 10 + (c.toNat - '0'.toNat)) 0

/-- An exponent behind its letter: digits with or without a sign. -/
def readExponent? (cs : List Char) : Option Int :=
  let signed : Bool × List Char :=
    match cs with
    | '-' :: rest => (true, rest)
    | '+' :: rest => (false, rest)
    | rest => (false, rest)
  if signed.2.isEmpty || !signed.2.all Char.isDigit then none
  else some (if signed.1 then -(digitsNat signed.2 : Int) else digitsNat signed.2)

/-- The number of 64 bits that a text spells: an optional minus sign, digits with at most one point
among or beside them, and an optional exponent. -/
def readDecimal? (cs : List Char) : Option Floating := do
  let negative := cs.head? = some '-'
  let body := if negative then cs.drop 1 else cs
  let whole := body.takeWhile Char.isDigit
  let rest := body.dropWhile Char.isDigit
  let fraction := if rest.head? = some '.' then (rest.drop 1).takeWhile Char.isDigit else []
  let rest := if rest.head? = some '.' then (rest.drop 1).dropWhile Char.isDigit else rest
  if whole.isEmpty && fraction.isEmpty then none
  else do
    let exponent ←
      match rest with
      | [] => some 0
      | 'e' :: more => readExponent? more
      | 'E' :: more => readExponent? more
      | _ => none
    some (.ofDecimal .double negative (digitsNat (whole ++ fraction)) (exponent - fraction.length))

end StudyDesk
