/-
Module: StudyDesk.Decimal.Layout
Purpose: How a floating-point number is written out.
Main exports:
  Layout, Layout.write
-/
import StudyDesk.Decimal.Shortest

namespace StudyDesk

/-- The decisions about the written form of a finite number. -/
structure Layout where
  /-- Exponents of the leading digit that are written positionally. -/
  positional : Int → Bool
  /-- Whether a whole number gets a fraction of zero. -/
  pointZero : Bool

namespace Layout

/-- A JSON number of 64 bits: positional from 0.00001 up to sixteen digits before the point. -/
def jsonDouble : Layout := ⟨fun e => -5 ≤ e && e ≤ 15, true⟩

/-- A JSON number of 32 bits: positional from 0.000001 up to thirteen digits before the point. -/
def jsonSingle : Layout := ⟨fun e => -6 ≤ e && e ≤ 12, true⟩

/-- A number in a message: always positional, and whole numbers without a point. -/
def message : Layout := ⟨fun _ => true, false⟩

/-- The digits of a natural number. -/
def digitsOf (n : Nat) : List Char := Nat.toDigits 10 n

/-- The digits of a decimal whose leading digit stands at `lead`, with the point in its place. -/
def positionalForm (pointZero : Bool) (digits : List Char) (lead : Int) : List Char :=
  if lead < 0 then
    ['0', '.'] ++ List.replicate (lead.natAbs - 1) '0' ++ digits
  else
    let whole := lead.toNat + 1
    if digits.length ≤ whole then
      digits ++ List.replicate (whole - digits.length) '0' ++
        (if pointZero then ['.', '0'] else [])
    else digits.take whole ++ ['.'] ++ digits.drop whole

/-- One digit before the point, the others after it, and the exponent with its sign. -/
def scientificForm (digits : List Char) (lead : Int) : List Char :=
  digits.take 1 ++ (if digits.length ≤ 1 then [] else '.' :: digits.drop 1) ++
    ['e', if lead < 0 then '-' else '+'] ++ digitsOf lead.natAbs

/-- The magnitude of a finite number. -/
def magnitude (layout : Layout) (fmt : FloatFormat) (m : Nat) (e : Int) : List Char :=
  if m = 0 then (if layout.pointZero then ['0', '.', '0'] else ['0'])
  else
    let d := Decimal.shortest fmt m e
    let digits := digitsOf d.digits
    let lead := d.exponent + digits.length - 1
    if layout.positional lead then positionalForm layout.pointZero digits lead
    else scientificForm digits lead

/-- The written form of a number. -/
def write (layout : Layout) (fmt : FloatFormat) : Floating → List Char
  | .finite negative m e => (if negative then ['-'] else []) ++ layout.magnitude fmt m e
  | .infinite negative => (if negative then ['-'] else []) ++ ['i', 'n', 'f']
  | .undefined => ['N', 'a', 'N']

end Layout

end StudyDesk
