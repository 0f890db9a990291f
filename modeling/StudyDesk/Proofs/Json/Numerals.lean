/-
Module: StudyDesk.Proofs.Json.Numerals
Purpose: What a number takes of a text, and that passing over a number takes the same.
Main exports:
  isBlank_of_isDigit, exists_digits, Takes, readNumber_takes
-/
import StudyDesk.Json.Skip
import StudyDesk.Proofs.Json.Inversion
import StudyDesk.Proofs.Json.RoundTrip
import StudyDesk.Text.Blank

namespace StudyDesk.Json

variable {negative : Bool} {significand : Nat} {exponent : Int} {n : Number}
variable {cs digits tail rest used : List Char}

/-! ### Digits -/

theorem isBlank_of_isDigit {c : Char} (digit : c.isDigit = true) : Text.isBlank c = false := by
  have range : 48 ≤ c.toNat ∧ c.toNat ≤ 57 := by
    simp only [Char.isDigit, ge_iff_le, Bool.and_eq_true, decide_eq_true_eq,
      UInt32.le_iff_toNat_le] at digit
    exact digit
  simp [Text.isBlank]
  omega

theorem ne_of_isDigit {c d : Char} (digit : c.isDigit = true) (other : d.isDigit = false) :
    c ≠ d := by
  rintro rfl
  rw [digit] at other
  cases other

/-- A digit begins neither a word nor a sign. -/
theorem ne_mark_of_isDigit {c : Char} (digit : c.isDigit = true) :
    c ≠ 'n' ∧ c ≠ 't' ∧ c ≠ 'f' ∧ c ≠ '-' :=
  ⟨ne_of_isDigit digit (by decide), ne_of_isDigit digit (by decide),
    ne_of_isDigit digit (by decide), ne_of_isDigit digit (by decide)⟩

/-- Every text is a run of digits and a rest that does not begin with one. -/
theorem exists_digits (cs : List Char) :
    ∃ digits tail, cs = digits ++ tail ∧ (∀ c ∈ digits, c.isDigit = true) ∧
      startsWithDigit tail = false := by
  refine ⟨cs.takeWhile Char.isDigit, cs.dropWhile Char.isDigit,
    List.takeWhile_append_dropWhile.symm, fun c => List.mem_takeWhile_imp, ?_⟩
  have stopped := List.head?_dropWhile_not Char.isDigit cs
  cases shown : cs.dropWhile Char.isDigit with
  | nil => rfl
  | cons c more =>
      rw [shown] at stopped
      simpa [startsWithDigit] using stopped

theorem startsWithDigit_append (isRun : ∀ c ∈ digits, c.isDigit = true) (nonempty : digits ≠ [])
    (tail : List Char) : startsWithDigit (digits ++ tail) = true := by
  cases digits with
  | nil => exact absurd rfl nonempty
  | cons c digits => exact isRun c List.mem_cons_self

theorem afterDigits_of_stop (stop : startsWithDigit tail = false) : afterDigits tail = tail := by
  cases tail with
  | nil => rfl
  | cons c tail => exact List.dropWhile_cons_of_neg (Bool.eq_false_iff.mp stop)

theorem afterDigits_append (isRun : ∀ c ∈ digits, c.isDigit = true)
    (stop : startsWithDigit tail = false) : afterDigits (digits ++ tail) = tail := by
  rw [afterDigits, List.dropWhile_append_of_pos isRun]
  exact afterDigits_of_stop stop

/-- The significand only looks at the digits. -/
theorem takeDigits_append (significand : Nat) (isRun : ∀ c ∈ digits, c.isDigit = true)
    (stop : startsWithDigit tail = false) :
    takeDigits significand (digits ++ tail) =
      ((takeDigits significand digits).1, (takeDigits significand digits).2.1,
        (takeDigits significand digits).2.2 ++ tail) := by
  induction digits generalizing significand with
  | nil =>
      cases tail with
      | nil => rfl
      | cons c tail =>
          have noDigit : c.isDigit = false := stop
          simp [takeDigits, noDigit]
  | cons c digits ih =>
      rw [List.cons_append, takeDigits, takeDigits]
      split_ifs with fits
      · simp only [ih _ fun d member => isRun d (List.mem_cons_of_mem c member)]
      · rfl

theorem takeDigits_suffix (significand : Nat) (digits : List Char) :
    (takeDigits significand digits).2.2 <:+ digits := by
  induction digits generalizing significand with
  | nil => exact List.suffix_refl []
  | cons c digits ih =>
      rw [takeDigits]
      split_ifs
      · exact (ih _).trans (List.suffix_cons c digits)
      · exact List.suffix_refl _

theorem takeDigits_length (significand : Nat) (digits : List Char) :
    (takeDigits significand digits).2.1 + (takeDigits significand digits).2.2.length =
      digits.length := by
  induction digits generalizing significand with
  | nil => rfl
  | cons c digits ih =>
      rw [takeDigits]
      split_ifs
      · have := ih (significand * 10 + digitValue c)
        simp only [List.length_cons]
        omega
      · simp

/-! ### Readers of the parts of a number -/

/-- A reader of numbers took the front of a text.  There is no blank in it, the reader would take it
from any text that does not go on with a number, and to pass over it leaves the same rest. -/
structure Takes (read : List Char → Read Number) (skip : List Char → Except Failure (List Char))
    (cs : List Char) (n : Number) (rest used : List Char) : Prop where
  split : cs = used ++ rest
  dense : ∀ c ∈ used, Text.isBlank c = false
  reads : ∀ more, EndsNumber more → read (used ++ more) = .ok (n, more)
  skips : skip cs = .ok rest

theorem EndsNumber.stop {more : List Char} (ends : EndsNumber more) :
    startsWithDigit more = false := by
  cases more with
  | nil => rfl
  | cons c more => exact (ends c rfl).1

section Steps

variable {read inner : List Char → Read Number}
variable {skip skipInner : List Char → Except Failure (List Char)}

/-- More characters in front, which the readers take one after the other. -/
theorem Takes.prepend (front : List Char) (dense : ∀ c ∈ front, Text.isBlank c = false)
    (same : ∀ more, read (front ++ more) = inner more)
    (skipsSame : skip (front ++ cs) = skipInner cs) (takes : Takes inner skipInner cs n rest used) :
    Takes read skip (front ++ cs) n rest (front ++ used) where
  split := by rw [takes.split, List.append_assoc]
  dense := List.forall_mem_append.mpr ⟨dense, takes.dense⟩
  reads := fun more ends => by rw [List.append_assoc, same, takes.reads more ends]
  skips := by rw [skipsSame, takes.skips]

/-- One character in front. -/
theorem Takes.mark (c : Char) (visible : Text.isBlank c = false)
    (same : ∀ more, read (c :: more) = inner more) (skipsSame : skip (c :: cs) = skipInner cs)
    (takes : Takes inner skipInner cs n rest used) : Takes read skip (c :: cs) n rest (c :: used) :=
  takes.prepend [c] (List.forall_mem_singleton.mpr visible) same skipsSame

/-- A run of digits in front. -/
theorem Takes.run (isRun : ∀ c ∈ digits, c.isDigit = true) (stop : startsWithDigit cs = false)
    (same : ∀ more, startsWithDigit more = false → read (digits ++ more) = inner more)
    (skipsSame : skip (digits ++ cs) = skipInner cs)
    (takes : Takes inner skipInner cs n rest used) :
    Takes read skip (digits ++ cs) n rest (digits ++ used) where
  split := by rw [takes.split, List.append_assoc]
  dense := List.forall_mem_append.mpr ⟨fun c run => isBlank_of_isDigit (isRun c run), takes.dense⟩
  reads := by
    intro more ends
    have stopped : startsWithDigit (used ++ more) = false := by
      cases used with
      | nil => exact ends.stop
      | cons c used =>
          rw [takes.split] at stop
          exact stop
    rw [List.append_assoc, same _ stopped, takes.reads more ends]
  skips := by rw [skipsSame, takes.skips]

end Steps

theorem finishReal_eq_ok (read : finishReal negative significand exponent cs = .ok (n, rest)) :
    rest = cs ∧ ∀ more, finishReal negative significand exponent more = .ok (n, more) := by
  unfold finishReal at read ⊢
  cases size : scaled significand exponent with
  | none => simp [size] at read
  | some x =>
      simp only [size, Except.ok.injEq, Prod.mk.injEq] at read
      obtain ⟨rfl, rfl⟩ := read
      exact ⟨rfl, fun _ => rfl⟩

/-- The digits of an exponent decide the number, or that there is none. -/
theorem readExponentDigits_append {start : Int} {down : Bool} {gathered : Nat}
    (isRun : ∀ c ∈ digits, c.isDigit = true) (stop : startsWithDigit tail = false)
    (read : readExponentDigits negative significand start down gathered (digits ++ tail) =
      .ok (n, rest)) :
    rest = tail ∧ ∀ more, startsWithDigit more = false →
      readExponentDigits negative significand start down gathered (digits ++ more) =
        .ok (n, more) := by
  induction digits generalizing gathered with
  | nil =>
      have finish : ∀ more, startsWithDigit more = false →
          readExponentDigits negative significand start down gathered more =
            finishReal negative significand (if down then start - gathered else start + gathered)
              more := by
        intro more stopped
        cases more with
        | nil => rfl
        | cons c more =>
            have noDigit : c.isDigit = false := stopped
            simp [readExponentDigits, noDigit]
      rw [List.nil_append, finish tail stop] at read
      obtain ⟨rfl, same⟩ := finishReal_eq_ok read
      exact ⟨rfl, fun more stopped => (finish more stopped).trans (same more)⟩
  | cons c digits ih =>
      obtain ⟨digit, isRun⟩ := List.forall_mem_cons.mp isRun
      simp only [List.cons_append, readExponentDigits, digit, if_true] at read ⊢
      split_ifs at read ⊢ with fits outOfRange
      · exact ih isRun read
      · simp only [Except.ok.injEq, Prod.mk.injEq] at read
        obtain ⟨rfl, rfl⟩ := read
        rw [afterDigits_append isRun stop]
        exact ⟨rfl, fun more stopped => by rw [afterDigits_append isRun stopped]⟩

/-- The signs that an exponent may have, and whether they turn it down. -/
def exponentSigns : List (List Char × Bool) := [([], false), (['+'], false), (['-'], true)]

theorem readExponent_of_sign {start : Int} {sign : List Char} {down : Bool} {c : Char}
    (isSign : (sign, down) ∈ exponentSigns) (digit : c.isDigit = true) (inner : List Char) :
    readExponent negative significand start (sign ++ c :: inner) =
        readExponentDigits negative significand start down (digitValue c) inner ∧
      skipExponent (sign ++ c :: inner) = .ok (afterDigits inner) := by
  have plus : c ≠ '+' := ne_of_isDigit digit (by decide)
  have minus : c ≠ '-' := ne_of_isDigit digit (by decide)
  have passed : afterDigits (c :: inner) = afterDigits inner := List.dropWhile_cons_of_pos digit
  simp only [exponentSigns, List.mem_cons, Prod.mk.injEq, List.not_mem_nil, or_false] at isSign
  rcases isSign with ⟨rfl, rfl⟩ | ⟨rfl, rfl⟩ | ⟨rfl, rfl⟩ <;>
    simp [readExponent, skipExponent, startsWithDigit, digit, passed, plus, minus]

theorem exists_sign_of_readExponent {start : Int}
    (read : readExponent negative significand start cs = .ok (n, rest)) :
    ∃ sign down c inner, (sign, down) ∈ exponentSigns ∧ c.isDigit = true ∧
      cs = sign ++ c :: inner := by
  unfold readExponent at read
  dsimp only at read
  split at read
  case h_1 => cases read
  case h_2 c inner shown =>
    split_ifs at read with digit
    · split at shown
      · exact ⟨['+'], false, c, inner, by simp [exponentSigns], digit, congrArg _ shown⟩
      · exact ⟨['-'], true, c, inner, by simp [exponentSigns], digit, congrArg _ shown⟩
      · exact ⟨[], false, c, inner, by simp [exponentSigns], digit, shown⟩

/-- A sign may stand before the digits of an exponent, which are at least one. -/
theorem readExponent_takes {start : Int}
    (read : readExponent negative significand start cs = .ok (n, rest)) :
    ∃ used, Takes (readExponent negative significand start) skipExponent cs n rest used := by
  obtain ⟨sign, down, c, inner, isSign, digit, rfl⟩ := exists_sign_of_readExponent read
  obtain ⟨digits, tail, rfl, isRun, stop⟩ := exists_digits inner
  have dense : ∀ d ∈ sign ++ [c], Text.isBlank d = false := by
    refine List.forall_mem_append.mpr ⟨?_, by simp [isBlank_of_isDigit digit]⟩
    simp only [exponentSigns, List.mem_cons, Prod.mk.injEq, List.not_mem_nil, or_false] at isSign
    rcases isSign with ⟨rfl, -⟩ | ⟨rfl, -⟩ | ⟨rfl, -⟩
    · exact List.forall_mem_nil _
    · exact List.forall_mem_singleton.mpr (by decide)
    · exact List.forall_mem_singleton.mpr (by decide)
  have signed (inner : List Char) :
      readExponent negative significand start (sign ++ [c] ++ inner) =
          readExponentDigits negative significand start down (digitValue c) inner ∧
        skipExponent (sign ++ [c] ++ inner) = .ok (afterDigits inner) := by
    rw [List.append_assoc]
    exact readExponent_of_sign isSign digit inner
  rw [← List.singleton_append, ← List.append_assoc] at read ⊢
  rw [(signed _).1] at read
  obtain ⟨rfl, same⟩ := readExponentDigits_append isRun stop read
  have takes : Takes (readExponentDigits negative significand start down (digitValue c))
      (fun cs => .ok (afterDigits cs)) (digits ++ rest) n rest digits :=
    { split := rfl
      dense := fun d member => isBlank_of_isDigit (isRun d member)
      reads := fun more ends => same more ends.stop
      skips := by rw [afterDigits_append isRun stop] }
  exact ⟨_, takes.prepend (sign ++ [c]) dense (fun more => (signed more).1) (signed _).2⟩

/-- Where the exponent of a number would begin, passed over. -/
def skipPower : List Char → Except Failure (List Char)
  | 'e' :: more => skipExponent more
  | 'E' :: more => skipExponent more
  | more => .ok more

theorem afterFraction_takes
    (read : afterFraction negative significand exponent cs = .ok (n, rest)) :
    ∃ used, Takes (afterFraction negative significand exponent) skipPower cs n rest used := by
  unfold afterFraction at read
  split at read
  case h_1 inner =>
    obtain ⟨used, takes⟩ := readExponent_takes read
    exact ⟨_, takes.mark 'e' (by decide) (fun _ => rfl) rfl⟩
  case h_2 inner =>
    obtain ⟨used, takes⟩ := readExponent_takes read
    exact ⟨_, takes.mark 'E' (by decide) (fun _ => rfl) rfl⟩
  case h_3 lower upper =>
    obtain ⟨rfl, same⟩ := finishReal_eq_ok read
    refine ⟨[], rfl, List.forall_mem_nil _, ?_, ?_⟩
    · intro more ends
      rw [← same more, List.nil_append]
      cases more with
      | nil => rfl
      | cons c more =>
          obtain ⟨-, -, notLower, notUpper⟩ := ends c rfl
          simp [afterFraction, notLower, notUpper]
    · unfold skipPower
      split
      · exact absurd rfl (lower _)
      · exact absurd rfl (upper _)
      · rfl

/-- After a run of digits the digits that were left out of the significand are passed over. -/
theorem takeDigits_left (significand : Nat) (isRun : ∀ c ∈ digits, c.isDigit = true)
    (stop : startsWithDigit tail = false) :
    startsWithDigit ((takeDigits significand digits).2.2 ++ tail) =
        !(takeDigits significand digits).2.2.isEmpty ∧
      afterDigits ((takeDigits significand digits).2.2 ++ tail) = tail ∧
      countDigits ((takeDigits significand digits).2.2 ++ tail) =
        (takeDigits significand digits).2.2.length := by
  have isRun : ∀ c ∈ (takeDigits significand digits).2.2, c.isDigit = true := fun c member =>
    isRun c ((takeDigits_suffix significand digits).mem member)
  refine ⟨?_, afterDigits_append isRun stop, ?_⟩
  · cases left : (takeDigits significand digits).2.2 with
    | nil => exact stop
    | cons c more =>
        rw [left] at isRun
        exact startsWithDigit_append isRun (List.cons_ne_nil c more) tail
  · rw [countDigits, List.takeWhile_append_of_pos isRun]
    cases tail with
    | nil => simp
    | cons c tail =>
        have noDigit : c.isDigit = false := stop
        simp [noDigit]

/-- A fraction has at least one digit. -/
theorem readFraction_of_stop (stop : startsWithDigit tail = false) (found : Number × List Char) :
    readFraction negative significand exponent tail ≠ .ok found := by
  intro read
  have noDigits := takeDigits_append significand (List.forall_mem_nil _) stop
  simp only [List.nil_append, takeDigits] at noDigits
  simp only [readFraction, noDigits, stop, Bool.false_eq_true, if_false, if_true] at read
  split at read <;> cases read

theorem readFraction_of_run (isRun : ∀ c ∈ digits, c.isDigit = true) (nonempty : digits ≠ [])
    (stop : startsWithDigit tail = false) :
    readFraction negative significand exponent (digits ++ tail) =
      afterFraction negative (takeDigits significand digits).1
        (exponent - (takeDigits significand digits).2.1) tail := by
  obtain ⟨starts, after, -⟩ := takeDigits_left significand isRun stop
  have some := takeDigits_length significand digits
  simp only [readFraction, takeDigits_append significand isRun stop, starts, after]
  cases left : (takeDigits significand digits).2.2 with
  | nil =>
      have taken : (takeDigits significand digits).2.1 ≠ 0 := by
        rw [left, List.length_nil] at some
        have := List.length_pos_iff.mpr nonempty
        omega
      simp [taken]
  | cons c left => simp

theorem readFraction_takes
    (read : readFraction negative significand exponent cs = .ok (n, rest)) :
    ∃ used, Takes (readFraction negative significand exponent) (fun cs => skipFraction ('.' :: cs))
      cs n rest used := by
  obtain ⟨digits, tail, rfl, isRun, stop⟩ := exists_digits cs
  by_cases empty : digits = []
  · subst empty
    exact absurd read (readFraction_of_stop stop (n, rest))
  · rw [readFraction_of_run isRun empty stop] at read
    obtain ⟨used, takes⟩ := afterFraction_takes read
    refine ⟨_, takes.run isRun stop (fun _ => readFraction_of_run isRun empty) ?_⟩
    simp only [skipFraction, startsWithDigit_append isRun empty, afterDigits_append isRun stop]
    rfl

theorem afterWhole_takes (read : afterWhole negative significand cs = .ok (n, rest)) :
    ∃ used, Takes (afterWhole negative significand) skipFraction cs n rest used := by
  unfold afterWhole at read
  split at read
  case h_1 inner =>
    obtain ⟨used, takes⟩ := readFraction_takes read
    exact ⟨_, takes.mark '.' (by decide) (fun _ => rfl) rfl⟩
  case h_2 inner =>
    obtain ⟨used, takes⟩ := readExponent_takes read
    exact ⟨_, takes.mark 'e' (by decide) (fun _ => rfl) rfl⟩
  case h_3 inner =>
    obtain ⟨used, takes⟩ := readExponent_takes read
    exact ⟨_, takes.mark 'E' (by decide) (fun _ => rfl) rfl⟩
  case h_4 point lower upper =>
    obtain ⟨rfl, rfl⟩ := Prod.mk.inj (Except.ok.inj read)
    refine ⟨[], rfl, List.forall_mem_nil _, ?_, ?_⟩
    · intro more ends
      rw [List.nil_append]
      cases more with
      | nil => rfl
      | cons c more =>
          obtain ⟨-, notPoint, notLower, notUpper⟩ := ends c rfl
          simp [afterWhole, notPoint, notLower, notUpper]
    · unfold skipFraction
      split
      · exact absurd rfl (point _)
      · exact absurd rfl (lower _)
      · exact absurd rfl (upper _)
      · rfl

theorem skipFraction_eq_skipPower (noPoint : ∀ inner, cs ≠ '.' :: inner) :
    skipFraction cs = skipPower cs := by
  unfold skipFraction
  split
  · exact absurd rfl (noPoint _)
  · rfl
  · rfl
  case h_4 noLower noUpper =>
    unfold skipPower
    split
    · exact absurd rfl (noLower _)
    · exact absurd rfl (noUpper _)
    · rfl

theorem afterLongWhole_takes {dropped : Nat}
    (read : afterLongWhole negative significand dropped cs = .ok (n, rest)) :
    ∃ used, Takes (afterLongWhole negative significand dropped) skipFraction cs n rest used := by
  have noPoint_of {cs : List Char} (noPoint : ∀ inner, cs ≠ '.' :: inner) :
      afterLongWhole negative significand dropped cs =
        afterFraction negative significand dropped cs := by
    unfold afterLongWhole
    split
    · exact absurd rfl (noPoint _)
    · rfl
  by_cases point : ∃ inner, cs = '.' :: inner
  · obtain ⟨inner, rfl⟩ := point
    obtain ⟨used, takes⟩ := readFraction_takes read
    exact ⟨_, takes.mark '.' (by decide) (fun _ => rfl) rfl⟩
  · have noPoint : ∀ inner, cs ≠ '.' :: inner := fun inner same => point ⟨inner, same⟩
    rw [noPoint_of noPoint] at read
    obtain ⟨used, takes⟩ := afterFraction_takes read
    refine ⟨used, takes.split, takes.dense, ?_, ?_⟩
    · intro more ends
      rw [noPoint_of, takes.reads more ends]
      rintro inner same
      cases used with
      | nil =>
          rw [List.nil_append] at same
          exact (ends '.' (by rw [same]; rfl)).2.1 rfl
      | cons c used =>
          obtain ⟨rfl, -⟩ := List.cons.inj same
          exact noPoint _ takes.split
    · rw [skipFraction_eq_skipPower noPoint, takes.skips]

/-- The whole part of a number is a run of digits, and whether all of them fit decides how the number
goes on. -/
theorem readNumber_of_run {c : Char} (notZero : c ≠ '0') (digit : c.isDigit = true)
    (isRun : ∀ c ∈ digits, c.isDigit = true) (stop : startsWithDigit tail = false) :
    readNumber negative (c :: digits ++ tail) =
      if (takeDigits (digitValue c) digits).2.2 = [] then
        afterWhole negative (takeDigits (digitValue c) digits).1 tail
      else
        afterLongWhole negative (takeDigits (digitValue c) digits).1
          (takeDigits (digitValue c) digits).2.2.length tail := by
  obtain ⟨starts, after, count⟩ := takeDigits_left (digitValue c) isRun stop
  rw [List.cons_append, readNumber, if_neg notZero, if_pos digit]
  simp only [takeDigits_append (digitValue c) isRun stop, starts, after, count]
  cases left : (takeDigits (digitValue c) digits).2.2 with
  | nil => simp
  | cons d left => simp

/-- What a number takes of a text; it is more than nothing. -/
theorem readNumber_takes (read : readNumber negative cs = .ok (n, rest)) :
    ∃ c used, Takes (readNumber negative) skipNumber cs n rest (c :: used) := by
  cases cs with
  | nil => cases read
  | cons c cs =>
      by_cases zero : c = '0'
      · subst zero
        rw [readNumber, if_pos rfl] at read
        split_ifs at read with double
        obtain ⟨used, takes⟩ := afterWhole_takes read
        have alone (more : List Char) (stopped : startsWithDigit more = false) :
            readNumber negative (['0'] ++ more) = afterWhole negative 0 more := by
          simp [readNumber, stopped]
        have stop := Bool.eq_false_iff.mpr double
        exact ⟨'0', used, takes.run (List.forall_mem_singleton.mpr rfl) stop alone
          (by simp [skipNumber, stop])⟩
      · by_cases digit : c.isDigit = true
        · obtain ⟨digits, tail, rfl, isRun, stop⟩ := exists_digits cs
          have isWhole : ∀ d ∈ c :: digits, d.isDigit = true :=
            List.forall_mem_cons.mpr ⟨digit, isRun⟩
          have skips : skipNumber (c :: digits ++ tail) = skipFraction tail := by
            simp [skipNumber, zero, digit, afterDigits_append isRun stop]
          rw [← List.cons_append, readNumber_of_run zero digit isRun stop] at read
          split_ifs at read with fits
          · obtain ⟨used, takes⟩ := afterWhole_takes read
            refine ⟨c, _, takes.run isWhole stop (fun more stopped => ?_) skips⟩
            rw [readNumber_of_run zero digit isRun stopped, if_pos fits]
          · obtain ⟨used, takes⟩ := afterLongWhole_takes read
            refine ⟨c, _, takes.run isWhole stop (fun more stopped => ?_) skips⟩
            rw [readNumber_of_run zero digit isRun stopped, if_neg fits]
        · rw [readNumber, if_neg zero, if_neg digit] at read
          cases read

end StudyDesk.Json
