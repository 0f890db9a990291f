/-
Module: StudyDesk.Proofs.Json.Lexical
Purpose: The numbers and the strings that a reader takes are those of the grammar.
Main exports:
  skipNumber_append, exists_numeral, skipBody_append, exists_body_of_skipBody, readText_eq_ok_iff
-/
import StudyDesk.Proofs.Json.Extent
import StudyDesk.Proofs.Json.Grammar

namespace StudyDesk.Json

variable {c : Char} {cs core more rest : List Char}

/-! ### Numbers -/

theorem exists_run (starts : startsWithDigit cs = true) :
    ∃ digits tail, IsRun digits ∧ startsWithDigit tail = false ∧ cs = digits ++ tail := by
  obtain ⟨digits, tail, rfl, isRun, stop⟩ := exists_digits cs
  refine ⟨digits, tail, ⟨?_, isRun⟩, stop, rfl⟩
  rintro rfl
  rw [List.nil_append, stop] at starts
  cases starts

theorem skipExponent_append {sign digits : List Char}
    (isSign : sign = [] ∨ sign = ['+'] ∨ sign = ['-']) (isRun : IsRun digits)
    (stop : startsWithDigit more = false) :
    skipExponent (sign ++ (digits ++ more)) = .ok more := by
  have starts := startsWithDigit_append isRun.2 isRun.1 more
  have after := afterDigits_append isRun.2 stop
  rcases isSign with rfl | rfl | rfl
  · cases digits with
    | nil => exact absurd rfl isRun.1
    | cons c digits =>
        have digit := isRun.2 c List.mem_cons_self
        have plus : c ≠ '+' := ne_of_isDigit digit (by decide)
        have minus : c ≠ '-' := ne_of_isDigit digit (by decide)
        rw [List.cons_append] at starts after
        simp [skipExponent, plus, minus, starts, after]
  · simp [skipExponent, starts, after]
  · simp [skipExponent, starts, after]

theorem exists_power_of_skipExponent {mark : Char} (isMark : mark = 'e' ∨ mark = 'E')
    (skipped : skipExponent cs = .ok rest) :
    ∃ power, IsPower power ∧ mark :: cs = power ++ rest := by
  obtain ⟨sign, digits, isSign, rfl, starts, rfl⟩ : ∃ sign digits,
      (sign = [] ∨ sign = ['+'] ∨ sign = ['-']) ∧ cs = sign ++ digits ∧
        startsWithDigit digits = true ∧ rest = afterDigits digits := by
    unfold skipExponent at skipped
    dsimp only at skipped
    split_ifs at skipped with starts
    · obtain rfl := Except.ok.inj skipped
      split at starts
      · exact ⟨['+'], _, .inr (.inl rfl), rfl, starts, rfl⟩
      · exact ⟨['-'], _, .inr (.inr rfl), rfl, starts, rfl⟩
      · exact ⟨[], _, .inl rfl, rfl, starts, rfl⟩
    · cases skipped
  obtain ⟨digits, tail, isRun, stop, rfl⟩ := exists_run starts
  refine ⟨_, .some isMark isSign isRun, ?_⟩
  rw [afterDigits_append isRun.2 stop]
  simp

theorem skipPower_append {power : List Char} (isPower : IsPower power) (ends : EndsNumber more) :
    skipPower (power ++ more) = .ok more := by
  cases isPower with
  | none =>
      cases more with
      | nil => rfl
      | cons c more =>
          obtain ⟨-, -, notLower, notUpper⟩ := ends c rfl
          simp [skipPower, notLower, notUpper]
  | some isMark isSign isRun =>
      rw [List.cons_append, List.append_assoc]
      rcases isMark with rfl | rfl <;> exact skipExponent_append isSign isRun ends.stop

theorem exists_power (skipped : skipPower cs = .ok rest) :
    ∃ power, IsPower power ∧ cs = power ++ rest := by
  unfold skipPower at skipped
  split at skipped
  · exact exists_power_of_skipExponent (.inl rfl) skipped
  · exact exists_power_of_skipExponent (.inr rfl) skipped
  · obtain rfl := Except.ok.inj skipped
    exact ⟨[], .none, rfl⟩

theorem IsPower.stops {power : List Char} (isPower : IsPower power) (ends : EndsNumber more) :
    startsWithDigit (power ++ more) = false ∧ ∀ inner, power ++ more ≠ '.' :: inner := by
  cases isPower with
  | none =>
      refine ⟨ends.stop, ?_⟩
      rintro inner rfl
      exact (ends '.' rfl).2.1 rfl
  | some isMark =>
      rcases isMark with rfl | rfl <;>
        exact ⟨rfl, fun _ same => absurd (List.cons.inj same).1 (by decide)⟩

theorem skipFraction_point {digits : List Char} (isRun : IsRun digits)
    (stop : startsWithDigit more = false) :
    skipFraction ('.' :: (digits ++ more)) = skipPower more := by
  simp only [skipFraction, startsWithDigit_append isRun.2 isRun.1, afterDigits_append isRun.2 stop]
  rfl

theorem skipFraction_append {fraction power : List Char} (isFraction : IsFraction fraction)
    (isPower : IsPower power) (ends : EndsNumber more) :
    skipFraction (fraction ++ (power ++ more)) = .ok more := by
  obtain ⟨stop, noPoint⟩ := isPower.stops ends
  cases isFraction with
  | none =>
      rw [List.nil_append, skipFraction_eq_skipPower noPoint]
      exact skipPower_append isPower ends
  | some isRun =>
      rw [List.cons_append, skipFraction_point isRun stop]
      exact skipPower_append isPower ends

theorem exists_fraction (skipped : skipFraction cs = .ok rest) :
    ∃ fraction power, IsFraction fraction ∧ IsPower power ∧ cs = fraction ++ (power ++ rest) := by
  by_cases point : ∃ inner, cs = '.' :: inner
  · obtain ⟨inner, rfl⟩ := point
    have starts : startsWithDigit inner = true := by
      by_contra stop
      simp [skipFraction, stop, failAt] at skipped
    obtain ⟨digits, tail, isRun, stop, rfl⟩ := exists_run starts
    rw [skipFraction_point isRun stop] at skipped
    obtain ⟨power, isPower, rfl⟩ := exists_power skipped
    exact ⟨'.' :: digits, power, .some isRun, isPower, rfl⟩
  · rw [skipFraction_eq_skipPower fun inner same => point ⟨inner, same⟩] at skipped
    obtain ⟨power, isPower, rfl⟩ := exists_power skipped
    exact ⟨[], power, .none, isPower, rfl⟩

theorem IsFraction.stops {fraction power : List Char} (isFraction : IsFraction fraction)
    (isPower : IsPower power) (ends : EndsNumber more) :
    startsWithDigit (fraction ++ (power ++ more)) = false := by
  cases isFraction with
  | none => exact (isPower.stops ends).1
  | some => rfl

/-- A number is passed over in front of anything that does not go on with it. -/
theorem skipNumber_append (isNumeral : IsNumeral core) (ends : EndsNumber more) :
    skipNumber (core ++ more) = .ok more := by
  obtain ⟨isWhole, isFraction, isPower⟩ := isNumeral
  have stop := isFraction.stops isPower ends
  rw [List.append_assoc, List.append_assoc]
  cases isWhole with
  | zero =>
      simp only [List.cons_append, List.nil_append, skipNumber, stop, if_true]
      exact skipFraction_append isFraction isPower ends
  | @run c digits notZero isRun =>
      obtain ⟨digit, digits'⟩ := List.forall_mem_cons.mp isRun.2
      simp only [List.cons_append, skipNumber, notZero, digit, if_false, if_true,
        afterDigits_append digits' stop]
      exact skipFraction_append isFraction isPower ends

/-- Nothing but a number is passed over as one. -/
theorem exists_numeral (skipped : skipNumber cs = .ok rest) :
    ∃ core, IsNumeral core ∧ cs = core ++ rest := by
  cases cs with
  | nil => cases skipped
  | cons c cs =>
      rw [skipNumber] at skipped
      split_ifs at skipped with zero double digit
      · cases skipped
      · obtain ⟨fraction, power, isFraction, isPower, rfl⟩ := exists_fraction skipped
        subst zero
        exact ⟨_, .mk .zero isFraction isPower, by simp⟩
      · obtain ⟨digits, tail, rfl, isRun, stop⟩ := exists_digits cs
        rw [afterDigits_append isRun stop] at skipped
        obtain ⟨fraction, power, isFraction, isPower, rfl⟩ := exists_fraction skipped
        have whole : IsRun (c :: digits) :=
          ⟨List.cons_ne_nil c digits, List.forall_mem_cons.mpr ⟨digit, isRun⟩⟩
        exact ⟨_, .mk (.run zero whole) isFraction isPower, by simp⟩
      · cases skipped

/-! ### Strings -/

theorem hexDigit?_eq_some_iff {n : Nat} : Text.hexDigit? c = some n ↔ (c, n) ∈ hexDigits := by
  constructor
  · intro value
    have spelled {base : Nat} (least : base ≤ c.toNat) :
        c = Char.ofNat (base + (c.toNat - base)) := by
      rw [Nat.add_sub_cancel' least, Char.ofNat_toNat]
    have decimal : ∀ k < 10, (Char.ofNat (48 + k), k) ∈ hexDigits := by decide
    have lower : ∀ k < 6, (Char.ofNat (97 + k), k + 10) ∈ hexDigits := by decide
    have upper : ∀ k < 6, (Char.ofNat (65 + k), k + 10) ∈ hexDigits := by decide
    rw [Text.hexDigit?] at value
    split_ifs at value with isDecimal isLower isUpper
    · have range : 48 ≤ c.toNat ∧ c.toNat ≤ 57 := by
        simpa [Char.isDigit, UInt32.le_iff_toNat_le] using isDecimal
      obtain rfl := Option.some.inj value
      have listed := decimal (c.toNat - 48) (by omega)
      rw [← spelled range.1] at listed
      exact listed
    · have range : 97 ≤ c.toNat ∧ c.toNat ≤ 102 := by
        simpa [Char.le_def, UInt32.le_iff_toNat_le] using isLower
      obtain rfl := Option.some.inj value
      have listed := lower (c.toNat - 97) (by omega)
      rw [← spelled range.1] at listed
      exact listed
    · have range : 65 ≤ c.toNat ∧ c.toNat ≤ 70 := by
        simpa [Char.le_def, UInt32.le_iff_toNat_le] using isUpper
      obtain rfl := Option.some.inj value
      have listed := upper (c.toNat - 65) (by omega)
      rw [← spelled range.1] at listed
      exact listed
  · have all : ∀ known ∈ hexDigits, Text.hexDigit? known.1 = some known.2 := by decide
    exact all (c, n)

theorem simpleEscape?_eq_some_iff {d : Char} : simpleEscape? c = some d ↔ (c, d) ∈ escapes := by
  constructor
  · intro letter
    simp only [simpleEscape?, Bool.or_eq_true, decide_eq_true_eq] at letter
    split_ifs at letter with same h1 h2 h3 h4 h5
    · obtain rfl := Option.some.inj letter
      rcases same with (rfl | rfl) | rfl <;> decide
    all_goals
      obtain rfl := Option.some.inj letter
      subst c
      decide
  · have all : ∀ known ∈ escapes, simpleEscape? known.1 = some known.2 := by decide
    exact all (c, d)

/-- The letter of a code unit is no other escape. -/
theorem ne_unit_of_mem_escapes {d : Char} (known : (c, d) ∈ escapes) : c ≠ 'u' := by
  rintro rfl
  have letter := simpleEscape?_eq_some_iff.mpr known
  simp [simpleEscape?] at letter

theorem skipBody_hex_iff {left : Nat} :
    skipBody false (left + 1) cs = .ok rest ↔
      ∃ c n more, (c, n) ∈ hexDigits ∧ cs = c :: more ∧ skipBody false left more = .ok rest := by
  cases cs with
  | nil => simp [skipBody]
  | cons c cs =>
      cases value : Text.hexDigit? c with
      | none =>
          have unknown (n : Nat) : (c, n) ∉ hexDigits := by
            rw [← hexDigit?_eq_some_iff, value]
            exact Option.some_ne_none n ∘ Eq.symm
          simp [skipBody, value]
          grind
      | some n =>
          have known := hexDigit?_eq_some_iff.mp value
          simp [skipBody, value]
          grind

/-- Four hexadecimal digits are passed over as one code unit. -/
theorem skipBody_unit_iff :
    skipBody false 4 cs = .ok rest ↔
      ∃ digits n more, SpellsUnit digits n ∧ cs = digits ++ more ∧
        skipBody false 0 more = .ok rest := by
  simp only [skipBody_hex_iff]
  constructor
  · rintro ⟨a, i, _, first, rfl, b, j, _, second, rfl, c, k, _, third, rfl, d, l, more, fourth, rfl,
      skipped⟩
    exact ⟨_, _, more, .mk first second third fourth, rfl, skipped⟩
  · rintro ⟨_, _, more, ⟨first, second, third, fourth⟩, rfl, skipped⟩
    exact ⟨_, _, _, first, rfl, _, _, _, second, rfl, _, _, _, third, rfl, _, _, more, fourth, rfl,
      skipped⟩

theorem skipBody_escape_iff :
    skipBody true 0 cs = .ok rest ↔
      (∃ c d more, (c, d) ∈ escapes ∧ cs = c :: more ∧ skipBody false 0 more = .ok rest) ∨
        ∃ digits n more, SpellsUnit digits n ∧ cs = 'u' :: (digits ++ more) ∧
          skipBody false 0 more = .ok rest := by
  constructor
  · intro skipped
    cases cs with
    | nil => cases skipped
    | cons c cs =>
        by_cases unit : c = 'u'
        · subst unit
          obtain ⟨digits, n, more, spells, rfl, later⟩ :=
            skipBody_unit_iff.mp (by simpa [skipBody] using skipped)
          exact .inr ⟨digits, n, more, spells, rfl, later⟩
        · cases letter : simpleEscape? c with
          | none => simp [skipBody, unit, letter, failAt] at skipped
          | some d =>
              exact .inl ⟨c, d, cs, simpleEscape?_eq_some_iff.mp letter, rfl,
                by simpa [skipBody, unit, letter] using skipped⟩
  · rintro (⟨c, d, more, known, rfl, skipped⟩ | ⟨digits, n, more, spells, rfl, skipped⟩)
    · simp [skipBody, ne_unit_of_mem_escapes known, simpleEscape?_eq_some_iff.mpr known, skipped]
    · simpa [skipBody] using skipBody_unit_iff.mpr ⟨digits, n, more, spells, rfl, skipped⟩

/-- One step over a string: it ends, or its next character is passed over. -/
theorem skipBody_cons_iff :
    skipBody false 0 (c :: cs) = .ok rest ↔
      c = '"' ∧ cs = rest ∨ c = '\\' ∧ skipBody true 0 cs = .ok rest ∨
        IsPlain c ∧ skipBody false 0 cs = .ok rest := by
  constructor
  · intro skipped
    rw [skipBody] at skipped
    simp only [bne_self_eq_false, Bool.false_eq_true, if_false] at skipped
    split_ifs at skipped with quote backslash control
    · exact .inl ⟨quote, Except.ok.inj skipped⟩
    · exact .inr (.inl ⟨backslash, skipped⟩)
    · exact .inr (.inr ⟨⟨Nat.le_of_not_lt control, quote, backslash⟩, skipped⟩)
  · rintro (⟨rfl, rfl⟩ | ⟨rfl, skipped⟩ | ⟨⟨visible, notQuote, notBackslash⟩, skipped⟩)
    · simp [skipBody]
    · simpa [skipBody] using skipped
    · simp [skipBody, notQuote, notBackslash, Nat.not_lt.mpr visible, skipped]

/-- What stands between two quotes is passed over up to the second one. -/
theorem skipBody_append {body : List Char} (isBody : IsBody body) (more : List Char) :
    skipBody false 0 (body ++ '"' :: more) = .ok more := by
  induction isBody with
  | nil => exact skipBody_cons_iff.mpr (.inl ⟨rfl, rfl⟩)
  | plain isPlain others ih => exact skipBody_cons_iff.mpr (.inr (.inr ⟨isPlain, ih⟩))
  | escape known others ih =>
      exact skipBody_cons_iff.mpr
        (.inr (.inl ⟨rfl, skipBody_escape_iff.mpr (.inl ⟨_, _, _, known, rfl, ih⟩)⟩))
  | unit spells others ih =>
      refine skipBody_cons_iff.mpr
        (.inr (.inl ⟨rfl, skipBody_escape_iff.mpr (.inr ⟨_, _, _, spells, ?_, ih⟩)⟩))
      simp

/-- Nothing else is passed over as a string. -/
theorem exists_body_of_skipBody (skipped : skipBody false 0 cs = .ok rest) :
    ∃ body, IsBody body ∧ cs = body ++ '"' :: rest := by
  induction size : cs.length using Nat.strong_induction_on generalizing cs with
  | _ size ih =>
      subst size
      cases cs with
      | nil => cases skipped
      | cons c cs =>
          rcases skipBody_cons_iff.mp skipped with
            ⟨rfl, rfl⟩ | ⟨rfl, escaped⟩ | ⟨isPlain, later⟩
          · exact ⟨[], .nil, rfl⟩
          · rcases skipBody_escape_iff.mp escaped with
              ⟨c, d, more, known, rfl, later⟩ | ⟨digits, n, more, spells, rfl, later⟩
            · have shorter : more.length < ('\\' :: c :: more).length := by
                simp only [List.length_cons]
                omega
              obtain ⟨body, isBody, rfl⟩ := ih more.length shorter later rfl
              exact ⟨_, .escape known isBody, rfl⟩
            · have shorter : more.length < ('\\' :: 'u' :: (digits ++ more)).length := by
                simp only [List.length_cons, List.length_append]
                omega
              obtain ⟨body, isBody, rfl⟩ := ih more.length shorter later rfl
              exact ⟨_, .unit spells isBody, by simp⟩
          · obtain ⟨body, isBody, rfl⟩ := ih cs.length (by simp) later rfl
            exact ⟨_, .plain isPlain isBody, rfl⟩

/-! ### The characters of a string -/

section Reading

variable {done digits : List Char} {n : Nat} {lead : Option Nat} {found : List Char × List Char}

/-- Where the four digits of a code unit lead. -/
def afterUnit (lead : Option Nat) (n : Nat) (done more : List Char) : Read (List Char) :=
  match lead with
  | none =>
      if isTrailSurrogate n then .error ⟨.loneSurrogate, more, 0⟩
      else if isLeadSurrogate n then readBody (.wantBackslash n) done more
      else readBody .plain (Char.ofNat n :: done) more
  | some high =>
      if isTrailSurrogate n then
        readBody .plain (Char.ofNat ((high - 0xD800) * 0x400 + (n - 0xDC00) + 0x10000) :: done) more
      else .error ⟨.loneSurrogate, more, 0⟩

theorem readBody_append_unit (spells : SpellsUnit digits n) (lead : Option Nat)
    (done more : List Char) :
    readBody (.hex 4 0 lead) done (digits ++ more) = afterUnit lead n done more := by
  obtain ⟨first, second, third, fourth⟩ := spells
  rw [← hexDigit?_eq_some_iff] at first second third fourth
  rename_i i j k l
  have gathered : ((i * 16 + j) * 16 + k) * 16 + l = i * 0x1000 + j * 0x100 + k * 0x10 + l := by
    omega
  simp [readBody, first, second, third, fourth, gathered]
  rfl

/-- One digit is read after the other. -/
theorem exists_digit_of_readBody {left unit : Nat}
    (read : readBody (.hex left unit lead) done cs = .ok found) :
    ∃ c d more, (c, d) ∈ hexDigits ∧ cs = c :: more ∧
      (1 < left → readBody (.hex (left - 1) (unit * 16 + d) lead) done more = .ok found) := by
  cases cs with
  | nil => cases read
  | cons c cs =>
      cases value : Text.hexDigit? c with
      | none => simp [readBody, value] at read
      | some d =>
          refine ⟨c, d, cs, hexDigit?_eq_some_iff.mp value, rfl, fun further => ?_⟩
          simpa [readBody, value, further] using read

theorem exists_unit_of_readBody (read : readBody (.hex 4 0 lead) done cs = .ok found) :
    ∃ digits n more, SpellsUnit digits n ∧ cs = digits ++ more ∧
      afterUnit lead n done more = .ok found := by
  obtain ⟨a, i, _, first, rfl, second'⟩ := exists_digit_of_readBody read
  obtain ⟨b, j, _, second, rfl, third'⟩ := exists_digit_of_readBody (second' (by decide))
  obtain ⟨c, k, _, third, rfl, fourth'⟩ := exists_digit_of_readBody (third' (by decide))
  obtain ⟨d, l, more, fourth, rfl, -⟩ := exists_digit_of_readBody (fourth' (by decide))
  have spells : SpellsUnit [a, b, c, d] _ := .mk first second third fourth
  refine ⟨_, _, more, spells, rfl, ?_⟩
  rw [← readBody_append_unit spells]
  exact read

/-- What denotes characters is read as them, up to the closing quote. -/
theorem readBody_append {body chars : List Char} (denotes : Denotes body chars)
    (done more : List Char) :
    readBody .plain done (body ++ '"' :: more) = .ok (done.reverse ++ chars, more) := by
  induction denotes generalizing done with
  | nil => simp [readBody]
  | @plain c body chars isPlain others ih =>
      have visible := Nat.not_lt.mpr isPlain.visible
      simp [readBody, isPlain.notQuote, isPlain.notBackslash, visible, ih]
  | escape known others ih =>
      have letter := simpleEscape?_eq_some_iff.mpr known
      simp [readBody, ne_unit_of_mem_escapes known, letter, ih]
  | @unit digits body chars n spells whole others ih =>
      have noTrail : isTrailSurrogate n = false := by simp [isTrailSurrogate]; omega
      have noLead : isLeadSurrogate n = false := by simp [isLeadSurrogate]; omega
      simp [readBody, readBody_append_unit spells, afterUnit, noTrail, noLead, ih]
  | @pair digits digits' body chars high low leading trailing isHigh isLow others ih =>
      have noTrail : isTrailSurrogate high = false := by simp [isTrailSurrogate]; omega
      have isLead : isLeadSurrogate high = true := by simpa [isLeadSurrogate] using isHigh
      have isTrail : isTrailSurrogate low = true := by simpa [isTrailSurrogate] using isLow
      simp [readBody, readBody_append_unit leading, readBody_append_unit trailing, afterUnit,
        noTrail, isLead, isTrail, ih]

/-- A trailing surrogate is due. -/
theorem exists_pair_of_readBody {high : Nat}
    (read : readBody (.wantBackslash high) done cs = .ok found) :
    ∃ digits low more, SpellsUnit digits low ∧ cs = '\\' :: 'u' :: (digits ++ more) ∧
      afterUnit (some high) low done more = .ok found := by
  cases cs with
  | nil => cases read
  | cons c cs =>
      simp only [readBody] at read
      split_ifs at read with backslash
      · cases cs with
        | nil => cases read
        | cons letter cs =>
            simp only [readBody] at read
            split_ifs at read with unit
            · obtain ⟨digits, low, more, spells, rfl, later⟩ := exists_unit_of_readBody read
              exact ⟨digits, low, more, spells, by rw [backslash, unit], later⟩
            · cases read
      · cases read

/-- In front of any body, the text `front` denotes one character more. -/
structure Writes (front : List Char) (c : Char) : Prop where
  some : front ≠ []
  denotes : ∀ {body chars}, Denotes body chars → Denotes (front ++ body) (c :: chars)

/-- Behind a backslash a character is written by a letter, by a code unit, or by two of them. -/
theorem readBody_escape_cases (read : readBody .escape done cs = .ok found) :
    ∃ front c more, Writes ('\\' :: front) c ∧ cs = front ++ more ∧
      readBody .plain (c :: done) more = .ok found := by
  cases cs with
  | nil => cases read
  | cons letter cs =>
      rw [readBody] at read
      by_cases unit : letter = 'u'
      · subst unit
        obtain ⟨digits, n, more, spells, rfl, first⟩ := exists_unit_of_readBody read
        simp only [afterUnit, isTrailSurrogate, isLeadSurrogate, Bool.and_eq_true,
          decide_eq_true_eq] at first
        split_ifs at first with trail high
        · obtain ⟨digits', low, more, spells', rfl, later⟩ := exists_pair_of_readBody first
          simp only [afterUnit, isTrailSurrogate, Bool.and_eq_true, decide_eq_true_eq] at later
          split_ifs at later with trail'
          refine ⟨'u' :: (digits ++ '\\' :: 'u' :: digits'), _, more, ⟨List.cons_ne_nil _ _, ?_⟩,
            by simp, later⟩
          intro body chars denotes
          simpa using Denotes.pair spells spells' high trail' denotes
        · refine ⟨'u' :: digits, _, more, ⟨List.cons_ne_nil _ _, fun denotes => ?_⟩, rfl, first⟩
          exact .unit spells (by omega) denotes
      · rw [if_neg unit] at read
        cases known : simpleEscape? letter with
        | none => simp [known, failAt] at read
        | some c =>
            simp only [known] at read
            refine ⟨[letter], c, cs, ⟨List.cons_ne_nil _ _, fun denotes => ?_⟩, rfl, read⟩
            exact .escape (simpleEscape?_eq_some_iff.mp known) denotes

/-- A text ends, or the next of its characters is written in front. -/
theorem readBody_cases (read : readBody .plain done cs = .ok found) :
    (cs = '"' :: found.2 ∧ found.1 = done.reverse) ∨
      ∃ front c more, Writes front c ∧ cs = front ++ more ∧
        readBody .plain (c :: done) more = .ok found := by
  cases cs with
  | nil => cases read
  | cons c cs =>
      rw [readBody] at read
      split_ifs at read with quote backslash control
      · obtain rfl := Except.ok.inj read
        exact .inl ⟨by rw [quote], rfl⟩
      · subst backslash
        obtain ⟨front, c, more, writes, rfl, later⟩ := readBody_escape_cases read
        exact .inr ⟨_, c, more, writes, rfl, later⟩
      · cases read
      · have isPlain : IsPlain c := ⟨Nat.le_of_not_lt control, quote, backslash⟩
        exact .inr ⟨[c], c, cs, ⟨List.cons_ne_nil c [], .plain isPlain⟩, rfl, read⟩

/-- Nothing else is read as a text. -/
theorem exists_body_of_readBody {chars : List Char}
    (read : readBody .plain done cs = .ok (chars, rest)) :
    ∃ body tail, Denotes body tail ∧ cs = body ++ '"' :: rest ∧ chars = done.reverse ++ tail := by
  induction size : cs.length using Nat.strong_induction_on generalizing cs done with
  | _ size ih =>
      subst size
      rcases readBody_cases read with ⟨rfl, rfl⟩ | ⟨front, c, more, writes, rfl, later⟩
      · exact ⟨[], [], .nil, rfl, (List.append_nil _).symm⟩
      · have some := List.length_pos_iff.mpr writes.some
        obtain ⟨body, tail, denotes, rfl, rfl⟩ :=
          ih more.length (by rw [List.length_append]; omega) later rfl
        exact ⟨front ++ body, c :: tail, writes.denotes denotes, by simp, by simp⟩

theorem readText_eq_ok_iff {s : String} :
    readText cs = .ok (s, rest) ↔ ∃ body, Denotes body s.toList ∧ cs = body ++ '"' :: rest := by
  constructor
  · intro read
    obtain ⟨⟨chars, after⟩, inside, same⟩ := map_eq_ok_iff.mp read
    obtain ⟨rfl, rfl⟩ := Prod.mk.inj same
    obtain ⟨body, tail, denotes, split, rfl⟩ := exists_body_of_readBody inside
    exact ⟨body, by simpa using denotes, split⟩
  · rintro ⟨body, denotes, rfl⟩
    rw [readText, readBody_append denotes]
    simp [Except.map]

/-- What is written of a text denotes it. -/
theorem denotes_escape (s : String) : Denotes (escape s.toList) s.toList := by
  obtain ⟨body, denotes, same⟩ := readText_eq_ok_iff.mp (readText_escape s [])
  rw [List.append_cancel_right same]
  exact denotes

end Reading

end StudyDesk.Json
