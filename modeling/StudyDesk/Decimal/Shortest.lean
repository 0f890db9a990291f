/-
Module: StudyDesk.Decimal.Shortest
Purpose: The fewest decimal digits that read back as a given floating-point number.
Main exports:
  Decimal, Decimal.shortest
-/
import StudyDesk.Decimal.Floating

namespace StudyDesk

/-- A positive decimal number `digits * 10 ^ exponent`, without trailing zeros. -/
structure Decimal where
  digits : Nat
  exponent : Int
deriving DecidableEq, Repr

namespace Decimal

/-!
The reals that round to a number `m * 2 ^ e` form an interval around it: half a unit up, and half a
unit down, or a quarter when the number is a power of two above the smallest unit.  The ends belong
to it when `m` is even.  On each decimal grid, coarsest first, only the two neighbours of the number
can be the nearest points, so testing these two finds the shortest digits.
-/

/-- The interval of a number, in quarters of its unit: lower end, number, upper end. -/
def quarters (fmt : FloatFormat) (m : Nat) (e : Int) : Nat × Nat × Nat :=
  let low := if m = Nat.pow 2 (fmt.precision - 1) && fmt.lowest < e then 4 * m - 1 else 4 * m - 2
  (low, 4 * m, 4 * m + 2)

/-- How many decimal digits a natural number has. -/
def digitCount (n : Nat) : Nat := (Nat.toDigits 10 n).length

/-- The position of the leading digit of a positive ratio. -/
def leading (num den : Nat) : Int :=
  if den ≤ num then (digitCount (num / den) : Int) - 1
  else -(digitCount ((den - 1) / num) : Int)

/-- Drop trailing zeros, at most `fuel` of them. -/
def normalize : Nat → Nat → Int → Decimal
  | 0, d, k => ⟨d, k⟩
  | fuel + 1, d, k => if d % 10 = 0 && d != 0 then normalize fuel (d / 10) (k + 1) else ⟨d, k⟩

/-- Search the grids from `10 ^ k` downwards, at most `fuel` of them.  The interval and the number
are numerators over the common denominator `den`. -/
def search (low value high den : Nat) (closed : Bool) : Nat → Int → Decimal
  | fuel, k =>
      -- one step of the grid is `step / unit` in the scale of the numerators
      let step := if k < 0 then den else den * Nat.pow 10 k.natAbs
      let unit := if k < 0 then Nat.pow 10 k.natAbs else 1
      let below := value * unit / step
      let inside := fun (c : Nat) =>
        if closed then low * unit ≤ c * step && c * step ≤ high * unit
        else low * unit < c * step && c * step < high * unit
      let downOk := inside below && below != 0
      let upOk := inside (below + 1)
      let downGap := value * unit - below * step
      let upGap := (below + 1) * step - value * unit
      if downOk && upOk then
        if downGap < upGap || (downGap == upGap && below % 2 == 0) then normalize 400 below k
        else normalize 400 (below + 1) k
      else if downOk then normalize 400 below k
      else if upOk then normalize 400 (below + 1) k
      else
        match fuel with
        | 0 => normalize 400 below k
        | fuel + 1 => search low value high den closed fuel (k - 1)

/-- The shortest decimal that rounds to the positive number `m * 2 ^ e`; of several, the nearest. -/
def shortest (fmt : FloatFormat) (m : Nat) (e : Int) : Decimal :=
  let (low, value, high) := quarters fmt m e
  let scale := Floating.ratio 1 (e - 2)
  let num := value * scale.1
  search (low * scale.1) num (high * scale.1) scale.2 (m % 2 == 0) 20 (leading num scale.2)

end Decimal

end StudyDesk
