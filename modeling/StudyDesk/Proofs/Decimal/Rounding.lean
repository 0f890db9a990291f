/-
Module: StudyDesk.Proofs.Decimal.Rounding
Purpose: How large a number can become when it is rounded, and that no number within the range of the
  format is lost.
Main exports:
  exists_nearest, Floating.IsUpTo, isUpTo_ofRatio, isFinite_mul
-/
import Mathlib.Algebra.Ring.Nat
import Mathlib.Tactic.SplitIfs
import StudyDesk.Decimal.Floating

namespace StudyDesk

/-! ### Rounding to a whole number -/

namespace FloatFormat

variable {num den : Nat} {unit : Int} {fmt : FloatFormat}

theorem roundQuotient_le (num den : Nat) : roundQuotient num den ≤ num / den + 1 := by
  unfold roundQuotient
  dsimp only
  split_ifs <;> omega

/-- How many more bits the numerator of a ratio has than its denominator. -/
def excess (num den : Nat) : Int := (Nat.log2 num : Int) - Nat.log2 den

/-- Measured in a unit that is not too small, a ratio has few bits. -/
theorem inUnits_lt (positive : 0 < den) {bits : Nat} (large : excess num den - bits ≤ unit) :
    (inUnits num den unit).1 < (inUnits num den unit).2 * 2 ^ (bits + 1) := by
  have upper : num < 2 ^ (Nat.log2 num + 1) := Nat.lt_log2_self
  have lower : 2 ^ Nat.log2 den ≤ den := Nat.log2_self_le (Nat.ne_of_gt positive)
  unfold excess at large
  unfold inUnits
  split_ifs with below
  · calc num * 2 ^ unit.natAbs
        < 2 ^ (Nat.log2 num + 1) * 2 ^ unit.natAbs :=
          Nat.mul_lt_mul_of_pos_right upper (Nat.two_pow_pos _)
      _ = 2 ^ (Nat.log2 num + 1 + unit.natAbs) := (Nat.pow_add ..).symm
      _ ≤ 2 ^ (Nat.log2 den + (bits + 1)) := Nat.pow_le_pow_right (by decide) (by omega)
      _ = 2 ^ Nat.log2 den * 2 ^ (bits + 1) := Nat.pow_add ..
      _ ≤ den * 2 ^ (bits + 1) := Nat.mul_le_mul_right _ lower
  · calc num < 2 ^ (Nat.log2 num + 1) := upper
      _ ≤ 2 ^ (Nat.log2 den + unit.natAbs + (bits + 1)) :=
          Nat.pow_le_pow_right (by decide) (by omega)
      _ = 2 ^ Nat.log2 den * 2 ^ unit.natAbs * 2 ^ (bits + 1) := by
          rw [Nat.pow_add, Nat.pow_add]
      _ ≤ den * 2 ^ unit.natAbs * 2 ^ (bits + 1) :=
          Nat.mul_le_mul_right _ (Nat.mul_le_mul_right _ lower)

theorem unitOf_bounds (fmt : FloatFormat) (num den : Nat) :
    excess num den - fmt.precision ≤ fmt.unitOf num den ∧
      fmt.unitOf num den ≤ max fmt.lowest (excess num den - fmt.precision + 1) := by
  unfold unitOf excess
  dsimp only
  split_ifs <;> omega

/-- A ratio within the range of the format is not lost, and its mantissa and exponent are bounded. -/
theorem exists_nearest (positive : 0 < den) (lowest : fmt.lowest < fmt.highest)
    (small : excess num den - fmt.precision + 2 ≤ fmt.highest) :
    ∃ m e, fmt.nearest num den = some (m, e) ∧ m ≤ 2 ^ (fmt.precision + 1) ∧
      e ≤ max fmt.lowest (excess num den - fmt.precision + 1) + 1 := by
  unfold nearest
  split_ifs with zero
  · exact ⟨0, fmt.lowest, rfl, Nat.zero_le _, by omega⟩
  · obtain ⟨lower, upper⟩ := unitOf_bounds fmt num den
    have few := inUnits_lt positive lower
    have scaled_positive : 0 < (inUnits num den (fmt.unitOf num den)).2 := by
      unfold inUnits
      split_ifs
      · exact positive
      · exact Nat.mul_pos positive (Nat.two_pow_pos _)
    have mantissa := Nat.le_trans (roundQuotient_le (inUnits num den (fmt.unitOf num den)).1
      (inUnits num den (fmt.unitOf num den)).2)
      (Nat.div_lt_of_lt_mul few)
    dsimp only
    split_ifs with carried lost lost
    · dsimp only at lost
      omega
    · exact ⟨_, _, rfl, Nat.le_trans (Nat.div_le_self _ _) mantissa, by omega⟩
    · dsimp only at lost
      omega
    · exact ⟨_, _, rfl, mantissa, by omega⟩

end FloatFormat

namespace Floating

open FloatFormat (excess exists_nearest)

variable {num den : Nat} {bound : Int}

/-- A finite number of 64 bits with an exponent up to a bound. -/
def IsUpTo (bound : Int) (x : Floating) : Prop :=
  ∃ negative m e, x = .finite negative m e ∧ m ≤ 2 ^ 54 ∧ e ≤ bound

/-- A ratio with an excess up to 1022 bits is a number of 64 bits. -/
theorem isUpTo_ofRatio (negative : Bool) (positive : 0 < den) (small : excess num den ≤ 1022) :
    IsUpTo (max (-1074) (excess num den - 52) + 1) (ofRatio .double negative num den) := by
  have range : excess num den - FloatFormat.double.precision + 2 ≤ FloatFormat.double.highest := by
    simp only [FloatFormat.double]
    omega
  obtain ⟨m, e, nearest, mantissa, exponent⟩ := exists_nearest positive (by decide) range
  simp only [FloatFormat.double] at mantissa exponent
  refine ⟨negative, m, e, by rw [ofRatio, nearest], mantissa, by omega⟩

theorem log2_mul_two_pow_le (m k : Nat) : Nat.log2 (m * 2 ^ k) ≤ Nat.log2 m + k := by
  by_cases zero : m = 0
  · subst zero
    rw [Nat.zero_mul]
    exact Nat.zero_le _
  · refine Nat.le_of_lt_succ ((Nat.log2_lt (Nat.mul_ne_zero zero (Nat.ne_of_gt (Nat.two_pow_pos k)))).mpr ?_)
    calc m * 2 ^ k < 2 ^ (Nat.log2 m + 1) * 2 ^ k :=
          Nat.mul_lt_mul_of_pos_right Nat.lt_log2_self (Nat.two_pow_pos k)
      _ = 2 ^ (Nat.log2 m + k + 1) := by rw [← Nat.pow_add, Nat.add_right_comm]

theorem excess_ratio_le (m : Nat) (e : Int) :
    0 < (ratio m e).2 ∧ excess (ratio m e).1 (ratio m e).2 ≤ Nat.log2 m + e := by
  unfold ratio
  split_ifs with below
  · have size : Nat.log2 (Nat.pow 2 e.natAbs) = e.natAbs := Nat.log2_two_pow
    refine ⟨Nat.two_pow_pos _, ?_⟩
    simp only [excess, size]
    omega
  · have size := log2_mul_two_pow_le m e.natAbs
    have one : Nat.log2 1 = 0 := by decide
    refine ⟨Nat.one_pos, ?_⟩
    simp only [excess, one]
    have : Nat.log2 (m * Nat.pow 2 e.natAbs) ≤ Nat.log2 m + e.natAbs := size
    omega

/-- The product of two numbers is finite if their exponents leave room for both mantissas. -/
theorem isFinite_mul {x y : Floating} {bound other : Int} (first : IsUpTo bound x)
    (second : IsUpTo other y) (room : bound + other ≤ 914) :
    (x.mul .double y).isFinite = true := by
  obtain ⟨s, m, e, rfl, mantissa, exponent⟩ := first
  obtain ⟨t, n, f, rfl, mantissa', exponent'⟩ := second
  obtain ⟨positive, size⟩ := excess_ratio_le (m * n) (e + f)
  have bits : Nat.log2 (m * n) ≤ 108 := by
    have product : m * n ≤ 2 ^ 54 * 2 ^ 54 := Nat.mul_le_mul mantissa mantissa'
    by_cases zero : m * n = 0
    · rw [zero]
      decide
    · refine Nat.le_of_lt_succ ((Nat.log2_lt zero).mpr ?_)
      exact Nat.lt_of_le_of_lt product (by decide)
  have small := Int.le_trans size (show (Nat.log2 (m * n) : Int) + (e + f) ≤ 1022 by omega)
  obtain ⟨negative, p, g, same, -⟩ := isUpTo_ofRatio (s != t) positive small
  rw [mul, same]
  rfl

end Floating

end StudyDesk
