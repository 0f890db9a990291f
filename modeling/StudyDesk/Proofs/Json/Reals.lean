/-
Module: StudyDesk.Proofs.Json.Reals
Purpose: The written form of a number is a JSON number: every finite number of 32 bits is read as some
  number, and a natural number of 64 bits as itself.
Main exports:
  exists_scaled, exists_readFraction, exists_readExponent, exists_readNumber_magnitude,
  Number.ReadsAs, exists_readsAs, readsBack_natural
-/
import StudyDesk.Json.Printer
import StudyDesk.Proofs.Decimal.Rounding
import StudyDesk.Proofs.Decimal.Shortest
import StudyDesk.Proofs.Json.Extent

namespace StudyDesk.Json

variable {negative : Bool} {significand : Nat} {exponent : Int} {n : Number}
variable {digits tail cs : List Char} {c : Char}

/-! ### Sizes -/

open Floating (IsUpTo isUpTo_ofRatio isFinite_mul)

/-- A significand that was read, as a number of 64 bits. -/
theorem isUpTo_significand (fits : significand < significandLimit) :
    IsUpTo 12 (.ofRatio .double false significand 1) := by
  have bits : Nat.log2 significand ≤ 63 := by
    by_cases zero : significand = 0
    · rw [zero]
      decide
    · exact Nat.le_of_lt_succ ((Nat.log2_lt zero).mpr fits)
  have size : FloatFormat.excess significand 1 ≤ 63 := by
    have one : Nat.log2 1 = 0 := by decide
    simp only [FloatFormat.excess, one]
    omega
  obtain ⟨sign, m, e, same, mantissa, bound⟩ :=
    isUpTo_ofRatio false Nat.one_pos (by omega : FloatFormat.excess significand 1 ≤ 1022)
  exact ⟨sign, m, e, same, mantissa, by omega⟩

theorem isUpTo_powerOfTen {places : Nat} (few : places ≤ 200) : IsUpTo 750 (powerOfTen places) := by
  have bits : Nat.log2 (Nat.pow 10 places) ≤ 4 * places := by
    refine Nat.le_of_lt_succ ((Nat.log2_lt (Nat.ne_of_gt (Nat.pow_pos (by decide)))).mpr ?_)
    calc 10 ^ places ≤ (2 ^ 4) ^ places := Nat.pow_le_pow_left (by decide) places
      _ = 2 ^ (4 * places) := (Nat.pow_mul ..).symm
      _ < 2 ^ (4 * places + 1) := Nat.pow_lt_pow_succ (by decide)
  have size : FloatFormat.excess (Nat.pow 10 places) 1 ≤ 800 := by
    have one : Nat.log2 1 = 0 := by decide
    simp only [FloatFormat.excess, one]
    omega
  obtain ⟨sign, m, e, same, mantissa, bound⟩ := isUpTo_ofRatio false Nat.one_pos
    (by omega : FloatFormat.excess (Nat.pow 10 places) 1 ≤ 1022)
  exact ⟨sign, m, e, same, mantissa, by omega⟩

/-- A number with an exponent up to two hundred is in range. -/
theorem exists_scaled (fits : significand < significandLimit) (small : exponent ≤ 200) :
    ∃ x, scaled significand exponent = some x := by
  by_cases below : exponent < 0
  · exact ⟨_, if_pos below⟩
  · have few : exponent.natAbs ≤ 200 := by omega
    have inRange : exponent.natAbs ≤ greatestPower := Nat.le_trans few (by decide)
    have finite := isFinite_mul (isUpTo_significand fits) (isUpTo_powerOfTen few) (by decide)
    exact ⟨_, by rw [scaled, if_neg below, if_pos inRange, if_pos finite]⟩

theorem exists_finishReal (negative : Bool) (fits : significand < significandLimit) (small : exponent ≤ 200)
    (rest : List Char) : ∃ n, finishReal negative significand exponent rest = .ok (n, rest) := by
  obtain ⟨x, inRange⟩ := exists_scaled fits small
  exact ⟨_, by rw [finishReal, inRange]⟩

/-! ### Runs of digits -/

theorem le_ofDigitChars (digits : List Char) (start : Nat) :
    start ≤ Nat.ofDigitChars 10 digits start := by
  rw [Nat.ofDigitChars_eq_ofDigitChars_zero]
  exact Nat.le_add_right_of_le (Nat.le_mul_of_pos_left _ (Nat.pow_pos (by decide)))

theorem ofDigitChars_cons_digitValue (c : Char) (digits : List Char) (start : Nat) :
    Nat.ofDigitChars 10 (c :: digits) start =
      Nat.ofDigitChars 10 digits (start * 10 + digitValue c) := by
  rw [Nat.ofDigitChars_cons, Nat.mul_comm, digitValue]

theorem isDigit_of_mem_digitsOf {number : Nat} (member : c ∈ Layout.digitsOf number) :
    c.isDigit = true :=
  Nat.isDigit_of_mem_toDigits (by decide) (by decide) member

/-- The digits of a number other than zero do not begin with one. -/
theorem head_digitsOf {number : Nat} (positive : 0 < number) (rest : List Char) :
    Layout.digitsOf number ≠ '0' :: rest := by
  induction number using Nat.strongRecOn generalizing rest with
  | ind number ih =>
      intro begins
      rw [Layout.digitsOf, Nat.toDigits_eq_if (by decide)] at begins
      split_ifs at begins with small
      · have first : ∀ d < 10, 0 < d → Nat.digitChar d ≠ '0' := by decide
        exact first number small positive (List.cons.inj begins).1
      · cases shown : Nat.toDigits 10 (number / 10) with
        | nil => exact Nat.toDigits_ne_nil shown
        | cons d more =>
            rw [shown, List.cons_append] at begins
            obtain rfl := (List.cons.inj begins).1
            exact ih (number / 10) (by omega) (by omega) more shown

/-- The digits of a number are at least one, and their value is the number. -/
theorem exists_digitsOf (number : Nat) :
    ∃ c digits, Layout.digitsOf number = c :: digits ∧ c.isDigit = true ∧
      (∀ d ∈ digits, d.isDigit = true) ∧ (0 < number → c ≠ '0') ∧
      Nat.ofDigitChars 10 digits (digitValue c) = number := by
  have isRun : ∀ c ∈ Layout.digitsOf number, c.isDigit = true := fun _ => isDigit_of_mem_digitsOf
  have value : Nat.ofDigitChars 10 (Layout.digitsOf number) 0 = number :=
    Nat.ofDigitChars_ten_toDigits
  cases shown : Layout.digitsOf number with
  | nil => exact absurd shown Nat.toDigits_ne_nil
  | cons c digits =>
      rw [shown] at isRun value
      obtain ⟨digit, isRun⟩ := List.forall_mem_cons.mp isRun
      rw [ofDigitChars_cons_digitValue, Nat.zero_mul, Nat.zero_add] at value
      refine ⟨c, digits, rfl, digit, isRun, ?_, value⟩
      rintro positive rfl
      exact head_digitsOf positive digits shown

/-! ### Parts of a number -/

theorem takeDigits_lt (fits : significand < significandLimit) (cs : List Char) :
    (takeDigits significand cs).1 < significandLimit := by
  induction cs generalizing significand with
  | nil => exact fits
  | cons c cs ih =>
      rw [takeDigits]
      split_ifs with more
      · rw [Bool.and_eq_true, decide_eq_true_eq] at more
        exact ih more.2
      · exact fits

/-- A run of digits whose value fits is taken whole. -/
theorem takeDigits_of_fits (isRun : ∀ c ∈ digits, c.isDigit = true)
    (fits : Nat.ofDigitChars 10 digits significand < significandLimit) :
    takeDigits significand digits =
      (Nat.ofDigitChars 10 digits significand, digits.length, []) := by
  induction digits generalizing significand with
  | nil => rw [takeDigits, Nat.ofDigitChars_nil, List.length_nil]
  | cons c digits ih =>
      obtain ⟨digit, isRun⟩ := List.forall_mem_cons.mp isRun
      rw [ofDigitChars_cons_digitValue] at fits ⊢
      have first := Nat.lt_of_le_of_lt (le_ofDigitChars digits _) fits
      rw [takeDigits, if_pos (by rw [digit, decide_eq_true first]; rfl), ih isRun fits]
      rfl

/-- A fraction may end a number, or a power may follow it. -/
theorem exists_readFraction (negative : Bool) (fits : significand < significandLimit) (small : exponent ≤ 100)
    (isRun : ∀ c ∈ digits, c.isDigit = true) (nonempty : digits ≠ []) :
    (∃ n, readFraction negative significand exponent digits = .ok (n, [])) ∧
      ∃ gathered start, gathered < significandLimit ∧ start ≤ 100 ∧ ∀ more,
        readFraction negative significand exponent (digits ++ 'e' :: more) =
          readExponent negative gathered start more := by
  have next : exponent - (takeDigits significand digits).2.1 ≤ 100 := by omega
  constructor
  · obtain ⟨n, finished⟩ :=
      exists_finishReal negative (takeDigits_lt fits digits) (Int.le_trans next (by decide)) []
    refine ⟨n, ?_⟩
    rw [← List.append_nil digits, readFraction_of_run isRun nonempty rfl]
    exact finished
  · refine ⟨_, _, takeDigits_lt fits digits, next, fun more => ?_⟩
    rw [readFraction_of_run isRun nonempty rfl]
    rfl

/-- Digits of an exponent that does not lead out of range are read; one that goes down never does. -/
theorem exists_readExponentDigits (negative : Bool) {start : Int} {down : Bool} {gathered : Nat}
    (fits : significand < significandLimit) (isRun : ∀ c ∈ digits, c.isDigit = true)
    (low : start ≤ 100)
    (small : down = true ∨ Nat.ofDigitChars 10 digits gathered ≤ 100) :
    ∃ n, readExponentDigits negative significand start down gathered digits = .ok (n, []) := by
  induction digits generalizing gathered with
  | nil =>
      rw [Nat.ofDigitChars_nil] at small
      refine exists_finishReal negative fits ?_ []
      rcases small with rfl | few
      · rw [if_pos rfl]
        omega
      · split_ifs <;> omega
  | cons c digits ih =>
      obtain ⟨digit, isRun⟩ := List.forall_mem_cons.mp isRun
      rw [ofDigitChars_cons_digitValue] at small
      rw [readExponentDigits, if_pos digit]
      split_ifs with more outOfRange
      · exact ih isRun small
      · -- an exponent that goes up is far below the limit
        exfalso
        have larger := le_ofDigitChars digits (gathered * 10 + digitValue c)
        rcases small with rfl | few
        · simp at outOfRange
        · have limit : 100 < exponentLimit := by decide
          omega
      · have rest : afterDigits digits = [] := List.dropWhile_eq_nil_iff.mpr isRun
        exact ⟨_, by rw [rest]⟩

/-- The sign and the digits of a power. -/
def powerText (lead : Int) : List Char :=
  (if lead < 0 then '-' else '+') :: Layout.digitsOf lead.natAbs

theorem exists_readExponent (negative : Bool) {start lead : Int} (fits : significand < significandLimit)
    (low : start ≤ 100) (small : lead ≤ 100) :
    ∃ n, readExponent negative significand start (powerText lead) = .ok (n, []) := by
  obtain ⟨c, digits, shown, digit, isRun, -, value⟩ := exists_digitsOf lead.natAbs
  have signed : ([if lead < 0 then '-' else '+'], decide (lead < 0)) ∈ exponentSigns := by
    by_cases down : lead < 0 <;> simp [down, exponentSigns]
  have read : readExponent negative significand start (powerText lead) =
      readExponentDigits negative significand start (decide (lead < 0)) (digitValue c) digits := by
    rw [powerText, shown]
    exact (readExponent_of_sign signed digit digits).1
  rw [read]
  refine exists_readExponentDigits negative fits isRun low ?_
  rw [value, decide_eq_true_eq]
  omega

/-- The whole part of a number, before a point or a power. -/
theorem exists_readNumber (negative : Bool) (notZero : c ≠ '0') (digit : c.isDigit = true)
    (isRun : ∀ c ∈ digits, c.isDigit = true) (short : digits.length ≤ 100) :
    ∃ gathered start, gathered < significandLimit ∧ start ≤ 100 ∧
      (∀ more, readNumber negative (c :: digits ++ '.' :: more) =
        readFraction negative gathered start more) ∧
      ∀ more, readNumber negative (c :: digits ++ 'e' :: more) =
        readExponent negative gathered start more := by
  have first : digitValue c < significandLimit := by
    have range : c.toNat < 2 ^ 32 := c.val.toNat_lt
    have limit : 2 ^ 32 < significandLimit := by decide
    unfold digitValue
    omega
  have count := takeDigits_length (digitValue c) digits
  by_cases whole : (takeDigits (digitValue c) digits).2.2 = []
  · refine ⟨_, 0, takeDigits_lt first digits, by decide, fun more => ?_, fun more => ?_⟩
    · rw [readNumber_of_run notZero digit isRun rfl, if_pos whole]
      rfl
    · rw [readNumber_of_run notZero digit isRun rfl, if_pos whole]
      rfl
  · refine ⟨_, (takeDigits (digitValue c) digits).2.2.length, takeDigits_lt first digits, by omega,
      fun more => ?_, fun more => ?_⟩
    · rw [readNumber_of_run notZero digit isRun rfl, if_neg whole]
      rfl
    · rw [readNumber_of_run notZero digit isRun rfl, if_neg whole]
      rfl

/-! ### Written numbers -/

/-- A number with a fraction behind its whole part. -/
theorem exists_readNumber_point (negative : Bool) {fraction : List Char} (notZero : c ≠ '0')
    (digit : c.isDigit = true) (isRun : ∀ c ∈ digits, c.isDigit = true)
    (short : digits.length ≤ 100) (isFraction : ∀ c ∈ fraction, c.isDigit = true)
    (nonempty : fraction ≠ []) :
    ∃ n, readNumber negative (c :: digits ++ '.' :: fraction) = .ok (n, []) := by
  obtain ⟨gathered, start, fits, small, point, -⟩ := exists_readNumber negative notZero digit isRun short
  rw [point]
  exact (exists_readFraction negative fits small isFraction nonempty).1

theorem isDigit_of_mem_zeros (count : Nat) (member : c ∈ List.replicate count '0') :
    c.isDigit = true := by
  rw [List.eq_of_mem_replicate member]
  rfl

theorem exists_readNumber_positional (negative : Bool) {lead : Int} (notZero : c ≠ '0')
    (digit : c.isDigit = true) (isRun : ∀ c ∈ digits, c.isDigit = true) (small : lead ≤ 99) :
    ∃ d rest n, Layout.positionalForm true (c :: digits) lead = d :: rest ∧ d.isDigit = true ∧
      readNumber negative (d :: rest) = .ok (n, []) := by
  have allRun : ∀ d ∈ c :: digits, d.isDigit = true := List.forall_mem_cons.mpr ⟨digit, isRun⟩
  unfold Layout.positionalForm
  dsimp only
  by_cases below : lead < 0
  · obtain ⟨n, read⟩ := (exists_readFraction negative (show 0 < significandLimit by decide)
      (show (0 : Int) ≤ 100 by decide) (List.forall_mem_append.mpr
        ⟨fun d => isDigit_of_mem_zeros (lead.natAbs - 1), allRun⟩)
      (List.append_ne_nil_of_right_ne_nil _ (List.cons_ne_nil c digits))).1
    rw [if_pos below]
    exact ⟨'0', _, n, rfl, rfl, read⟩
  · rw [if_neg below]
    by_cases fits : (c :: digits).length ≤ lead.toNat + 1
    · obtain ⟨n, read⟩ := exists_readNumber_point negative notZero digit
        (List.forall_mem_append.mpr ⟨isRun, fun d =>
          isDigit_of_mem_zeros (lead.toNat + 1 - (c :: digits).length)⟩)
        (by
          rw [List.length_append, List.length_replicate, List.length_cons]
          rw [List.length_cons] at fits
          omega)
        (List.forall_mem_singleton.mpr (show '0'.isDigit = true by decide)) (List.cons_ne_nil _ _)
      rw [if_pos fits]
      exact ⟨c, _, n, rfl, digit, read⟩
    · obtain ⟨n, read⟩ := exists_readNumber_point negative notZero digit
        (fun d member => isRun d (List.mem_of_mem_take (i := lead.toNat) member))
        (by
          rw [List.length_take]
          omega)
        (fun d member => allRun d (List.mem_of_mem_drop (i := lead.toNat + 1) member))
        (by
          rw [ne_eq, List.drop_eq_nil_iff]
          exact fits)
      rw [if_neg fits, List.append_assoc]
      exact ⟨c, _, n, rfl, digit, read⟩

theorem exists_readNumber_scientific (negative : Bool) {lead : Int} (notZero : c ≠ '0')
    (digit : c.isDigit = true) (isRun : ∀ c ∈ digits, c.isDigit = true) (small : lead ≤ 100) :
    ∃ d rest n, Layout.scientificForm (c :: digits) lead = d :: rest ∧ d.isDigit = true ∧
      readNumber negative (d :: rest) = .ok (n, []) := by
  obtain ⟨gathered, start, fits, low, point, power⟩ :=
    exists_readNumber negative notZero digit (List.forall_mem_nil _) (Nat.zero_le 100)
  cases digits with
  | nil =>
      obtain ⟨n, read⟩ := exists_readExponent negative fits low small
      rw [← power] at read
      exact ⟨c, _, n, rfl, digit, read⟩
  | cons d digits =>
      obtain ⟨more, start, fits, low, fractionPower⟩ :=
        (exists_readFraction negative fits low isRun (List.cons_ne_nil d digits)).2
      obtain ⟨n, read⟩ := exists_readExponent negative fits low small
      rw [← fractionPower, ← point] at read
      refine ⟨c, _, n, ?_, digit, read⟩
      simp [Layout.scientificForm, powerText]

/-- The written form of the magnitude of a number of 32 bits is read. -/
theorem exists_readNumber_magnitude (negative : Bool) {m : Nat} {e : Int} (bounded : m < 2 ^ 24)
    (low : e ≤ 104) :
    ∃ d rest n, Layout.jsonSingle.magnitude .single m e = d :: rest ∧ d.isDigit = true ∧
      readNumber negative (d :: rest) = .ok (n, []) := by
  unfold Layout.magnitude
  by_cases zero : m = 0
  · obtain ⟨n, read⟩ := (exists_readFraction negative (show 0 < significandLimit by decide)
      (show (0 : Int) ≤ 100 by decide)
      (List.forall_mem_singleton.mpr (show '0'.isDigit = true by decide)) (List.cons_ne_nil _ _)).1
    rw [if_pos zero]
    exact ⟨'0', _, n, rfl, rfl, read⟩
  · obtain ⟨positive, place⟩ :=
      Decimal.shortest_spec .single (Nat.pos_of_ne_zero zero) bounded low
    obtain ⟨c, digits, shown, digit, isRun, notZero, -⟩ :=
      exists_digitsOf (Decimal.shortest .single m e).digits
    rw [if_neg zero]
    dsimp only
    have count : (Layout.digitsOf (Decimal.shortest .single m e).digits).length =
        Decimal.digitCount (Decimal.shortest .single m e).digits := rfl
    rw [shown] at count ⊢
    split_ifs
    · exact exists_readNumber_positional negative (notZero positive) digit isRun (by omega)
    · exact exists_readNumber_scientific negative (notZero positive) digit isRun (by omega)

/-! ### Numbers of their own -/

/-- The written form of a number is read as another, whatever follows. -/
def Number.ReadsAs (n found : Number) : Prop :=
  ∀ depth rest, EndsNumber rest →
    readValue depth (numberText n ++ rest) = .ok (.number found, rest)

theorem Number.ReadsAs.readsAsAt {found : Number} {spacing : Spacing} {depth : Nat}
    (reads : n.ReadsAs found) : ReadsAsAt spacing depth (.number n) (.number found) :=
  fun _ rest ends => reads depth rest ends

/-- What ends a text is read from the front of any text that does not go on with a number. -/
theorem readNumber_append (read : readNumber negative cs = .ok (n, [])) {rest : List Char}
    (ends : EndsNumber rest) : readNumber negative (cs ++ rest) = .ok (n, rest) := by
  obtain ⟨c, used, takes⟩ := readNumber_takes read
  have split : cs = c :: used := takes.split.trans (List.append_nil _)
  rw [split]
  exact takes.reads rest ends

/-- Every finite number of 32 bits is written as a JSON number. -/
theorem exists_readsAs {m : Nat} {e : Int} (negative : Bool) (bounded : m < 2 ^ 24)
    (low : e ≤ 104) : ∃ found, (Number.single (.finite negative m e)).ReadsAs found := by
  obtain ⟨d, text, n, written, digit, read⟩ := exists_readNumber_magnitude negative bounded low
  refine ⟨n, fun depth rest ends => ?_⟩
  have whole := readNumber_append read ends
  cases negative with
  | false =>
      have form : numberText (.single (.finite false m e)) = d :: text := written
      rw [form, List.cons_append, readValue_digit digit, ← List.cons_append, whole]
      rfl
  | true =>
      have form : numberText (.single (.finite true m e)) = '-' :: d :: text :=
        congrArg ('-' :: ·) written
      rw [form, List.cons_append, readValue_minus, whole]
      rfl

/-- A natural number of 64 bits is read as itself. -/
theorem readsBack_natural {number : Nat} (fits : number < significandLimit) :
    (Number.integer number).ReadsBack := by
  obtain ⟨c, digits, shown, digit, isRun, notZero, value⟩ := exists_digitsOf number
  have form : numberText (.integer number) = c :: digits := shown
  have read : readNumber false (c :: digits) = .ok (.integer number, []) := by
    by_cases zero : number = 0
    · subst zero
      obtain ⟨rfl, rfl⟩ : c = '0' ∧ digits = [] := by simpa [Layout.digitsOf] using shown.symm
      rfl
    · have taken := takeDigits_of_fits isRun (value.symm ▸ fits)
      rw [← List.append_nil (c :: digits),
        readNumber_of_run (notZero (Nat.pos_of_ne_zero zero)) digit isRun rfl, taken, value]
      rfl
  intro depth rest ends
  rw [form, List.cons_append, readValue_digit digit, ← List.cons_append, readNumber_append read ends]
  rfl

theorem readsBackAt_ofNat (spacing : Spacing) (depth : Nat) {number : Nat}
    (fits : number < significandLimit) : ReadsBackAt spacing depth (.ofNat number) :=
  Number.ReadsAs.readsAsAt (readsBack_natural fits)

end StudyDesk.Json
