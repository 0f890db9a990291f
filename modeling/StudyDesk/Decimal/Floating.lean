/-
Module: StudyDesk.Decimal.Floating
Purpose: Binary floating-point numbers as exact data, and rounding to them.
Main exports:
  FloatFormat, Floating, Floating.ofRatio, Floating.mul, Floating.div, Floating.convert
-/

namespace StudyDesk

/-!
A finite number is a sign and a dyadic magnitude: a mantissa times a power of two.  Everything here
is arithmetic on natural numbers, so each operation is the exact result rounded once, to nearest,
with a tie going to the even mantissa.
-/

/-- A binary format: the mantissa has at most `precision` bits, and its unit is a power of two
between `lowest` and `highest`. -/
structure FloatFormat where
  precision : Nat
  lowest : Int
  highest : Int
deriving DecidableEq, Repr

/-- The 32-bit format, in which sampling temperatures are kept. -/
def FloatFormat.single : FloatFormat := ⟨24, -149, 104⟩

/-- The 64-bit format, in which numbers with a fraction are read. -/
def FloatFormat.double : FloatFormat := ⟨53, -1074, 971⟩

/-- A floating-point number. -/
inductive Floating where
  /-- The number `mantissa * 2 ^ exponent`, with its sign. -/
  | finite (negative : Bool) (mantissa : Nat) (exponent : Int)
  | infinite (negative : Bool)
  | undefined
deriving DecidableEq, Repr, Inhabited

namespace FloatFormat

/-- A quotient rounded to the nearest whole number, a half to the even one. -/
def roundQuotient (num den : Nat) : Nat :=
  let q := num / den
  let r := num % den
  if 2 * r < den then q
  else if den < 2 * r then q + 1
  else if q % 2 = 0 then q else q + 1

/-- Numerator and denominator of `num / den` measured in units of `2 ^ unit`. -/
def inUnits (num den : Nat) (unit : Int) : Nat × Nat :=
  if unit < 0 then (num * Nat.pow 2 unit.natAbs, den) else (num, den * Nat.pow 2 unit.natAbs)

/-- The unit in which a positive ratio has the most bits that the format holds. -/
def unitOf (fmt : FloatFormat) (num den : Nat) : Int :=
  let guess : Int := (Nat.log2 num : Int) - Nat.log2 den - fmt.precision
  let scaled := inUnits num den guess
  let unit := if Nat.pow 2 fmt.precision ≤ scaled.1 / scaled.2 then guess + 1 else guess
  max fmt.lowest unit

/-- The mantissa and exponent nearest to a ratio; none if the ratio is beyond the format. -/
def nearest (fmt : FloatFormat) (num den : Nat) : Option (Nat × Int) :=
  if num = 0 then some (0, fmt.lowest)
  else
    let unit := fmt.unitOf num den
    let scaled := inUnits num den unit
    let m := roundQuotient scaled.1 scaled.2
    let rounded := if Nat.pow 2 fmt.precision ≤ m then (m / 2, unit + 1) else (m, unit)
    if fmt.highest < rounded.2 then none else some rounded

end FloatFormat

namespace Floating

/-- The number nearest to a ratio, infinite when the ratio is beyond the format. -/
def ofRatio (fmt : FloatFormat) (negative : Bool) (num den : Nat) : Floating :=
  match fmt.nearest num den with
  | some (m, e) => .finite negative m e
  | none => .infinite negative

/-- The number nearest to an integer. -/
def ofInt (fmt : FloatFormat) (i : Int) : Floating :=
  ofRatio fmt (i < 0) i.natAbs 1

/-- A magnitude as a ratio of natural numbers. -/
def ratio (m : Nat) (e : Int) : Nat × Nat :=
  if e < 0 then (m, Nat.pow 2 e.natAbs) else (m * Nat.pow 2 e.natAbs, 1)

/-- The same number in another format. -/
def convert (fmt : FloatFormat) : Floating → Floating
  | .finite negative m e => ofRatio fmt negative (ratio m e).1 (ratio m e).2
  | .infinite negative => .infinite negative
  | .undefined => .undefined

/-- The number with the other sign. -/
def neg : Floating → Floating
  | .finite negative m e => .finite (!negative) m e
  | .infinite negative => .infinite (!negative)
  | .undefined => .undefined

/-- Whether the number is a zero of either sign. -/
def isZero : Floating → Bool
  | .finite _ m _ => m = 0
  | _ => false

/-- Whether the number is neither infinite nor undefined. -/
def isFinite : Floating → Bool
  | .finite _ _ _ => true
  | _ => false

/-- The product of two finite numbers, rounded once. -/
def mul (fmt : FloatFormat) : Floating → Floating → Floating
  | .finite s m e, .finite t n f =>
      let product := ratio (m * n) (e + f)
      ofRatio fmt (s != t) product.1 product.2
  | _, _ => .undefined

/-- The quotient of two finite numbers with a nonzero divisor, rounded once. -/
def div (fmt : FloatFormat) : Floating → Floating → Floating
  | .finite s m e, .finite t n f =>
      let a := ratio m (e - f)
      if n = 0 then .undefined else ofRatio fmt (s != t) a.1 (a.2 * n)
  | _, _ => .undefined

/-- Whether the number lies between zero and a natural bound, both included; a negative zero does,
an undefined number does not. -/
def between0And (bound : Nat) : Floating → Bool
  | .finite negative m e =>
      m = 0 || (!negative && (ratio m e).1 ≤ bound * (ratio m e).2)
  | _ => false

end Floating

end StudyDesk
