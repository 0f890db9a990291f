/-
Module: StudyDesk.Proofs.Decimal.Shortest
Purpose: The decimal that stands for a number is not zero, and its leading digit stands where the
  number's size says.
Main exports:
  Decimal.digitCount_le_iff, Decimal.normalize_spec, Decimal.search_spec, Decimal.shortest_spec
-/
import Mathlib.Algebra.Ring.Nat
import Mathlib.Tactic.SplitIfs
import StudyDesk.Decimal.Shortest

namespace StudyDesk.Decimal

variable {n k : Nat}

/-! ### Digits -/

theorem digitCount_pos (n : Nat) : 0 < digitCount n := Nat.length_toDigits_pos

theorem digitCount_le_iff (positive : 0 < k) : digitCount n ≤ k ↔ n < 10 ^ k :=
  Nat.length_toDigits_le_iff (by decide) positive

theorem lt_pow_digitCount (n : Nat) : n < 10 ^ digitCount n :=
  (digitCount_le_iff (digitCount_pos n)).mp (Nat.le_refl _)

theorem pow_le_of_pos (positive : 0 < n) : 10 ^ (digitCount n - 1) ≤ n := by
  by_cases one : digitCount n = 1
  · rw [one]
    exact positive
  · have counted := digitCount_pos n
    have shorter : ¬ digitCount n ≤ digitCount n - 1 := by omega
    rw [digitCount_le_iff (by omega)] at shorter
    omega

theorem digitCount_div_ten (large : 10 ≤ n) : digitCount n = digitCount (n / 10) + 1 := by
  rw [digitCount, Nat.toDigits_of_base_le (by decide) large, List.length_append]
  rfl

/-- Dropping trailing zeros neither moves the leading digit nor makes the number zero. -/
theorem normalize_spec (fuel d : Nat) (k : Int) :
    (digitCount (normalize fuel d k).digits : Int) + (normalize fuel d k).exponent =
        digitCount d + k ∧
      (0 < d → 0 < (normalize fuel d k).digits) := by
  induction fuel generalizing d k with
  | zero => exact ⟨rfl, id⟩
  | succ fuel ih =>
      rw [normalize]
      split_ifs with divides
      · simp only [Bool.and_eq_true, decide_eq_true_eq, bne_iff_ne] at divides
        have large : 10 ≤ d := by omega
        obtain ⟨lead, positive⟩ := ih (d / 10) (k + 1)
        have count := digitCount_div_ten large
        exact ⟨by omega, fun _ => positive (by omega)⟩
      · exact ⟨rfl, id⟩

/-! ### Grids -/

/-- One step of the grid of `10 ^ k`, in the scale in which the number is `value * unit k`. -/
def step (den : Nat) (k : Int) : Nat := den * 10 ^ k.toNat

/-- How much finer the scale is than the numerators. -/
def unit (k : Int) : Nat := 10 ^ (-k).toNat

/-- The point of the grid below a number. -/
def below (value den : Nat) (k : Int) : Nat := value * unit k / step den k

/-- The number is not below the first step of the grid. -/
def Reaches (value den : Nat) (k : Int) : Prop := step den k ≤ value * unit k

variable {value den low high : Nat} {closed : Bool}

theorem step_pos (positive : 0 < den) (k : Int) : 0 < step den k :=
  Nat.mul_pos positive (Nat.pow_pos (by decide))

/-- A finer grid is reached, too. -/
theorem Reaches.of_le {k j : Int} (reaches : Reaches value den k) (finer : j ≤ k) :
    Reaches value den j :=
  calc den * 10 ^ j.toNat
      ≤ den * 10 ^ k.toNat := Nat.mul_le_mul_left _ (Nat.pow_le_pow_right (by decide) (by omega))
    _ ≤ value * 10 ^ (-k).toNat := reaches
    _ ≤ value * 10 ^ (-j).toNat :=
        Nat.mul_le_mul_left _ (Nat.pow_le_pow_right (by decide) (by omega))

theorem Reaches.below_pos {k : Int} (positive : 0 < den) (reaches : Reaches value den k) :
    0 < below value den k :=
  Nat.div_pos reaches (step_pos positive k)

/-- The grid of the leading digit is reached. -/
theorem reaches_leading (positive : 0 < den) (nonzero : 0 < n) :
    Reaches n den (leading n den) := by
  unfold Reaches leading step unit
  split_ifs with whole
  · have quotient : 0 < n / den := Nat.div_pos whole positive
    have counted := digitCount_pos (n / den)
    have places : ((digitCount (n / den) : Int) - 1).toNat = digitCount (n / den) - 1 := by omega
    have none : (-((digitCount (n / den) : Int) - 1)).toNat = 0 := by omega
    rw [places, none, Nat.pow_zero, Nat.mul_one]
    exact Nat.le_trans (Nat.mul_le_mul_left _ (pow_le_of_pos quotient)) (Nat.mul_div_le n den)
  · have places : (- -(digitCount ((den - 1) / n) : Int)).toNat = digitCount ((den - 1) / n) := by
      omega
    have none : (-(digitCount ((den - 1) / n) : Int)).toNat = 0 := by omega
    rw [places, none, Nat.pow_zero, Nat.mul_one]
    have fits := (Nat.div_lt_iff_lt_mul nonzero).mp (lt_pow_digitCount ((den - 1) / n))
    rw [Nat.mul_comm] at fits
    omega

variable {places : Nat}

theorem leading_le (small : n < den * 10 ^ places) (some : 0 < places) :
    leading n den ≤ places - 1 := by
  unfold leading
  split_ifs
  · have few := (digitCount_le_iff some).mpr (Nat.div_lt_of_lt_mul small)
    omega
  · omega

/-- A point beside a small number has few digits. -/
theorem digitCount_add_le {k : Int} {c : Nat} (small : value < den * 10 ^ places)
    (coarse : k ≤ places) (near : c ≤ below value den k + 1) :
    (digitCount c : Int) + k ≤ places + 1 := by
  have within : below value den k < 10 ^ (places - k).toNat := by
    refine Nat.div_lt_of_lt_mul ?_
    calc value * 10 ^ (-k).toNat
        < den * 10 ^ places * 10 ^ (-k).toNat :=
          Nat.mul_lt_mul_of_pos_right small (Nat.pow_pos (by decide))
      _ = den * 10 ^ (places + (-k).toNat) := by rw [Nat.mul_assoc, Nat.pow_add]
      _ = den * 10 ^ (k.toNat + (places - k).toNat) := by
          congr 2
          omega
      _ = step den k * 10 ^ (places - k).toNat := by rw [Nat.pow_add, ← Nat.mul_assoc, step]
  have fits : c < 10 ^ ((places - k).toNat + 1) := by
    have more := Nat.pow_lt_pow_succ (show 1 < 10 by decide) (n := (places - k).toNat)
    omega
  have few := (digitCount_le_iff (Nat.succ_pos _)).mpr fits
  omega

theorem step_eq (den : Nat) (k : Int) :
    (if k < 0 then den else den * Nat.pow 10 k.natAbs) = step den k := by
  unfold step
  split_ifs with negative
  · rw [show k.toNat = 0 by omega, Nat.pow_zero, Nat.mul_one]
  · rw [show k.natAbs = k.toNat by omega]
    rfl

theorem unit_eq (k : Int) : (if k < 0 then Nat.pow 10 k.natAbs else 1) = unit k := by
  unfold unit
  split_ifs with negative
  · rw [show k.natAbs = (-k).toNat by omega]
    rfl
  · rw [show (-k).toNat = 0 by omega, Nat.pow_zero]

/-- Of the two points beside a number the one is taken that lies in the interval, or the nearer one;
if neither does, the rest decides. -/
theorem choose_cases (inside : Nat → Bool) (nearer : Bool) (b : Nat) (k : Int) (rest chosen : Decimal)
    (same : chosen =
      if inside b && b != 0 && inside (b + 1) then
        if nearer then normalize 400 b k else normalize 400 (b + 1) k
      else if inside b && b != 0 then normalize 400 b k
      else if inside (b + 1) then normalize 400 (b + 1) k
      else rest) :
    chosen = normalize 400 (b + 1) k ∨ (b ≠ 0 ∧ chosen = normalize 400 b k) ∨ chosen = rest := by
  subst same
  split_ifs with both _ down _
  · rw [Bool.and_eq_true, Bool.and_eq_true, bne_iff_ne] at both
    exact .inr (.inl ⟨both.1.2, rfl⟩)
  · exact .inl rfl
  · rw [Bool.and_eq_true, bne_iff_ne] at down
    exact .inr (.inl ⟨down.2, rfl⟩)
  · exact .inl rfl
  · exact .inr (.inr rfl)

/-- On one grid the search ends above the number, or below it but not on zero, or it goes on. -/
theorem search_cases (low value high den : Nat) (closed : Bool) (fuel : Nat) (k : Int) :
    search low value high den closed fuel k = normalize 400 (below value den k + 1) k ∨
      (below value den k ≠ 0 ∧
        search low value high den closed fuel k = normalize 400 (below value den k) k) ∨
      search low value high den closed fuel k =
        match fuel with
        | 0 => normalize 400 (below value den k) k
        | fuel + 1 => search low value high den closed fuel (k - 1) := by
  have choice := search.eq_def low value high den closed fuel k
  simp only [step_eq, unit_eq] at choice
  exact choose_cases
    (fun c =>
      if closed then low * unit k ≤ c * step den k && c * step den k ≤ high * unit k
      else low * unit k < c * step den k && c * step den k < high * unit k)
    _ _ k _ _ choice

/-- The search ends on a point beside the number, and not on zero if the finest grid that it tries is
reached. -/
theorem search_spec {fuel : Nat} {k : Int} (positive : 0 < den)
    (reaches : Reaches value den (k - fuel)) :
    ∃ c j, j ≤ k ∧ 0 < c ∧ c ≤ below value den j + 1 ∧
      search low value high den closed fuel k = normalize 400 c j := by
  induction fuel generalizing k with
  | zero =>
      have nonzero : below value den k ≠ 0 := by
        have here : Reaches value den k := by simpa using reaches
        exact Nat.ne_of_gt (here.below_pos positive)
      rcases search_cases low value high den closed 0 k with up | ⟨-, down⟩ | last
      · exact ⟨_, k, Int.le_refl k, Nat.succ_pos _, Nat.le_refl _, up⟩
      · exact ⟨_, k, Int.le_refl k, Nat.pos_of_ne_zero nonzero, Nat.le_succ _, down⟩
      · exact ⟨_, k, Int.le_refl k, Nat.pos_of_ne_zero nonzero, Nat.le_succ _, last⟩
  | succ fuel ih =>
      rcases search_cases low value high den closed (fuel + 1) k with up | ⟨nonzero, down⟩ | next
      · exact ⟨_, k, Int.le_refl k, Nat.succ_pos _, Nat.le_refl _, up⟩
      · exact ⟨_, k, Int.le_refl k, Nat.pos_of_ne_zero nonzero, Nat.le_succ _, down⟩
      · obtain ⟨c, j, finer, found, near, same⟩ := ih (reaches.of_le (j := k - 1 - fuel) (by omega))
        exact ⟨c, j, by omega, found, near, next.trans same⟩

/-- A number of 32 bits as a ratio: it is below `10 ^ 39`. -/
theorem exists_scale {m : Nat} {e : Int} (bounded : m < 2 ^ 24) (small : e ≤ 104) :
    ∃ top bottom, Floating.ratio 1 (e - 2) = (top, bottom) ∧ 0 < top ∧ 0 < bottom ∧
      4 * m * top < bottom * 10 ^ 39 := by
  unfold Floating.ratio
  split_ifs with negative
  · have one : 1 ≤ Nat.pow 2 (e - 2).natAbs := Nat.two_pow_pos _
    exact ⟨_, _, rfl, Nat.one_pos, one, by omega⟩
  · have power : Nat.pow 2 (e - 2).natAbs ≤ 2 ^ 102 :=
      Nat.pow_le_pow_right (by decide) (by omega)
    refine ⟨_, _, rfl, Nat.mul_pos Nat.one_pos (Nat.two_pow_pos _), Nat.one_pos, ?_⟩
    calc 4 * m * (1 * Nat.pow 2 (e - 2).natAbs)
        ≤ 4 * 2 ^ 24 * (1 * 2 ^ 102) :=
          Nat.mul_le_mul (Nat.mul_le_mul_left 4 (Nat.le_of_lt bounded))
            (Nat.mul_le_mul_left 1 power)
      _ < 1 * 10 ^ 39 := by decide

/-- The decimal of a number of 32 bits other than zero is not zero, and its leading digit stands no
higher than the size of the number allows. -/
theorem shortest_spec {m : Nat} {e : Int} (fmt : FloatFormat) (nonzero : 0 < m)
    (bounded : m < 2 ^ 24) (small : e ≤ 104) :
    0 < (shortest fmt m e).digits ∧
      (digitCount (shortest fmt m e).digits : Int) + (shortest fmt m e).exponent ≤ 40 := by
  obtain ⟨top, bottom, scale, top_pos, bottom_pos, upper⟩ := exists_scale bounded small
  have value_pos : 0 < 4 * m * top := Nat.mul_pos (Nat.mul_pos (by decide) nonzero) top_pos
  have lead := leading_le upper (by decide)
  have finest : leading (4 * m * top) bottom - (20 : Nat) ≤ leading (4 * m * top) bottom := by omega
  obtain ⟨c, j, finer, found, near, same⟩ : ∃ c j, j ≤ leading (4 * m * top) bottom ∧ 0 < c ∧
      c ≤ below (4 * m * top) bottom j + 1 ∧ shortest fmt m e = normalize 400 c j := by
    simp only [shortest, quarters, scale]
    exact search_spec bottom_pos ((reaches_leading bottom_pos value_pos).of_le finest)
  obtain ⟨place, positive⟩ := normalize_spec 400 c j
  have few := digitCount_add_le upper (by omega) near
  rw [same]
  exact ⟨positive found, by omega⟩

end StudyDesk.Decimal
