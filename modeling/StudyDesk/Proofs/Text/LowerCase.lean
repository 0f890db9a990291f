/-
Module: StudyDesk.Proofs.Text.LowerCase
Purpose: What lower-casing makes of a piece of text, whatever stands around it.
Main exports:
  lowerBetween, lowerChars_around, IsSteady, lowerBetween_of_steady, lowerChars_infix_of_steady,
  exists_surroundings_of_not_steady, isBlank_of_mem_lowerAt, isTrimmed_lowerChars_iff,
  lowerChars_between_blanks
-/
import Mathlib.Data.List.Infix
import StudyDesk.Proofs.Text.Trimming
import StudyDesk.Text.Case

namespace StudyDesk.Text

/-!
Only the capital sigma looks at its neighbours, and of them only at the nearest on each side that is
no mark.  A piece of text is therefore lower-cased alike in all surroundings when each of its capital
sigmas finds both neighbours that it looks at inside the piece, or finds one there that decides its form
alone.
-/

/-! ### Neighbours -/

/-- The first character that counts as a neighbour. -/
def neighbour? (cs : List Char) : Option Char := cs.find? fun c => !isCaseIgnorable c

theorem startsWithLetter_eq (cs : List Char) :
    startsWithLetter cs = (neighbour? cs).any isCased := by
  induction cs with
  | nil => rfl
  | cons c rest ih =>
      cases ignorable : isCaseIgnorable c with
      | true => simpa [startsWithLetter, neighbour?, ignorable] using ih
      | false => simp [startsWithLetter, neighbour?, ignorable]

theorem neighbour?_append (near far : List Char) :
    neighbour? (near ++ far) = (neighbour? near).or (neighbour? far) := List.find?_append

/-- Neither a capital sigma nor the letter `a` is passed over, and the latter is one with case. -/
theorem letters_count :
    (!isCaseIgnorable 'Σ') = true ∧ (neighbour? ['a']).any isCased = true := by
  decide +kernel

theorem neighbour?_sigma (rest : List Char) : neighbour? ('Σ' :: rest) = some 'Σ' :=
  List.find?_cons_of_pos letters_count.1

/-- Whether a capital sigma takes its final form. -/
def isFinal (before rest : List Char) : Bool := startsWithLetter before && !startsWithLetter rest

theorem isFinal_eq (before rest : List Char) :
    isFinal before rest =
      ((neighbour? before).any isCased && !(neighbour? rest).any isCased) := by
  rw [isFinal, startsWithLetter_eq, startsWithLetter_eq]

/-- The small letter for a capital sigma. -/
def sigma (isLast : Bool) : Char := if isLast then 'ς' else 'σ'

/-! ### A piece between others -/

/-- The lower case of one character between others. -/
def lowerAt (before : List Char) (c : Char) (rest : List Char) : List Char :=
  if c = 'Σ' then [sigma (isFinal before rest)] else lowerChar c

/-- The lower case of a piece, given what stands before it in reverse order and what after it. -/
def lowerBetween (before after : List Char) : List Char → List Char
  | [] => []
  | c :: rest => lowerAt before c (rest ++ after) ++ lowerBetween (c :: before) after rest

theorem lowerAfter_cons (before : List Char) (c : Char) (rest : List Char) :
    lowerAfter before (c :: rest) = lowerAt before c rest ++ lowerAfter (c :: before) rest := by
  rw [lowerAfter, lowerAt, isFinal, sigma]
  split_ifs <;> rfl

/-- A text is lower-cased piece by piece. -/
theorem lowerAfter_append (before piece after : List Char) :
    lowerAfter before (piece ++ after) =
      lowerBetween before after piece ++ lowerAfter (piece.reverse ++ before) after := by
  induction piece generalizing before with
  | nil => rfl
  | cons c rest ih =>
      rw [List.cons_append, lowerAfter_cons, ih, lowerBetween, List.reverse_cons,
        List.append_assoc, List.append_assoc]
      rfl

theorem lowerBetween_nil_right (before piece : List Char) :
    lowerBetween before [] piece = lowerAfter before piece := by
  have whole := lowerAfter_append before piece []
  rw [List.append_nil] at whole
  simpa [lowerAfter] using whole.symm

theorem lowerBetween_append (before after piece more : List Char) :
    lowerBetween before after (piece ++ more) =
      lowerBetween before (more ++ after) piece ++
        lowerBetween (piece.reverse ++ before) after more := by
  induction piece generalizing before with
  | nil => rfl
  | cons c rest ih =>
      rw [List.cons_append, lowerBetween, ih, lowerBetween, List.reverse_cons,
        List.append_assoc, List.append_assoc, List.append_assoc]
      rfl

/-- The lower case of a text, around one of its pieces. -/
theorem lowerChars_around (before piece after : List Char) :
    lowerChars (before ++ piece ++ after) =
      lowerBetween [] (piece ++ after) before ++ lowerBetween before.reverse after piece ++
        lowerAfter (piece.reverse ++ before.reverse) after := by
  rw [lowerChars, List.append_assoc, lowerAfter_append, lowerAfter_append, List.append_nil,
    List.append_assoc]

/-- Surroundings matter to a piece only by the forms of its capital sigmas. -/
theorem lowerBetween_congr {before before' after after' piece : List Char}
    (alike : ∀ front back, piece = front ++ 'Σ' :: back →
      isFinal (front.reverse ++ before) (back ++ after) =
        isFinal (front.reverse ++ before') (back ++ after')) :
    lowerBetween before after piece = lowerBetween before' after' piece := by
  induction piece generalizing before before' with
  | nil => rfl
  | cons c rest ih =>
      have here : lowerAt before c (rest ++ after) = lowerAt before' c (rest ++ after') := by
        by_cases capital : c = 'Σ'
        · have first := alike [] rest (by rw [capital, List.nil_append])
          rw [List.reverse_nil, List.nil_append, List.nil_append] at first
          rw [lowerAt, lowerAt, if_pos capital, if_pos capital, first]
        · rw [lowerAt, lowerAt, if_neg capital, if_neg capital]
      rw [lowerBetween, lowerBetween, here]
      congr 1
      refine ih fun front back split => ?_
      have later := alike (c :: front) back (by rw [split, List.cons_append])
      simpa using later

/-! ### Steady texts -/

/-- What stands beside a capital sigma settles its form when both neighbours are there, or the one
that is there decides alone: no letter before it, or a letter after it. -/
def Settles (before rest : List Char) : Prop :=
  match neighbour? before, neighbour? rest with
  | some _, some _ => True
  | some previous, none => isCased previous = false
  | none, some next => isCased next = true
  | none, none => False

/-- A text that settles the form of each of its capital sigmas. -/
def IsSteady (cs : List Char) : Prop :=
  ∀ front back, cs = front ++ 'Σ' :: back → Settles front.reverse back

theorem isSteady_of_not_mem {cs : List Char} (noSigma : 'Σ' ∉ cs) : IsSteady cs := by
  rintro front back rfl
  exact absurd (List.mem_append_right front List.mem_cons_self) noSigma

/-- Nothing farther away changes a form that is settled. -/
theorem isFinal_of_settles {before rest : List Char} (settles : Settles before rest)
    (farBefore farAfter : List Char) :
    isFinal (before ++ farBefore) (rest ++ farAfter) = isFinal before rest := by
  rw [isFinal_eq, isFinal_eq, neighbour?_append, neighbour?_append]
  unfold Settles at settles
  cases previous : neighbour? before with
  | some b =>
      cases next : neighbour? rest with
      | some r => rfl
      | none =>
          simp only [previous, next] at settles
          simp [settles]
  | none =>
      cases next : neighbour? rest with
      | some r =>
          simp only [previous, next] at settles
          simp [settles]
      | none => simp only [previous, next] at settles

theorem lowerBetween_of_steady {piece : List Char} (steady : IsSteady piece)
    (before after : List Char) : lowerBetween before after piece = lowerChars piece := by
  rw [lowerChars, ← lowerBetween_nil_right]
  refine lowerBetween_congr fun front back split => ?_
  rw [isFinal_of_settles (steady front back split), List.append_nil, List.append_nil]

/-- A steady piece shows in the lower case of every text that has it. -/
theorem lowerChars_infix_of_steady {piece : List Char} (steady : IsSteady piece)
    (before after : List Char) :
    lowerChars piece <:+: lowerChars (before ++ piece ++ after) := by
  rw [lowerChars_around, lowerBetween_of_steady steady]
  exact List.infix_append _ _ _

/-! ### Texts that are not steady

Where a capital sigma is not settled, a letter at the right end of the text turns it into the other
form.  No other capital sigma changes, since the one in question stands in between.  So one of the two
small sigmas becomes rarer, and the text is no longer found.
-/

/-- A capital sigma hides whatever lies behind it. -/
theorem isFinal_beyond_before (front near far rest : List Char) :
    isFinal (front ++ 'Σ' :: near ++ far) rest = isFinal (front ++ 'Σ' :: near) rest := by
  have seen : neighbour? (front ++ 'Σ' :: near ++ far) = neighbour? (front ++ 'Σ' :: near) := by
    rw [List.append_assoc, List.cons_append, neighbour?_append, neighbour?_append,
      neighbour?_sigma, neighbour?_sigma]
  rw [isFinal_eq, isFinal_eq, seen]

theorem isFinal_beyond_rest (before front near far : List Char) :
    isFinal before (front ++ 'Σ' :: near ++ far) = isFinal before (front ++ 'Σ' :: near) := by
  have seen : neighbour? (front ++ 'Σ' :: near ++ far) = neighbour? (front ++ 'Σ' :: near) := by
    rw [List.append_assoc, List.cons_append, neighbour?_append, neighbour?_append,
      neighbour?_sigma, neighbour?_sigma]
  rw [isFinal_eq, isFinal_eq, seen]

theorem sigma_not_mem_of_alone {cs : List Char} (alone : neighbour? cs = none) : 'Σ' ∉ cs := by
  intro member
  have ignorable := List.find?_eq_none.mp alone 'Σ' member
  exact ignorable letters_count.1

/-- A piece without a capital sigma has one lower case. -/
theorem lowerBetween_of_alone {piece : List Char} (alone : neighbour? piece = none)
    (before after before' after' : List Char) :
    lowerBetween before after piece = lowerBetween before' after' piece := by
  have steady := isSteady_of_not_mem (sigma_not_mem_of_alone alone)
  rw [lowerBetween_of_steady steady, lowerBetween_of_steady steady]

/-- The capital sigmas that are not settled: those that have nothing before them and no letter
after, and those that have a letter before them and nothing after. -/
theorem not_settles {before rest : List Char} (unsettled : ¬ Settles before rest) :
    (neighbour? before = none ∧ (neighbour? rest).any isCased = false) ∨
      ((neighbour? before).any isCased = true ∧ neighbour? rest = none) := by
  unfold Settles at unsettled
  cases previous : neighbour? before with
  | some b =>
      cases next : neighbour? rest with
      | some r => simp [previous, next] at unsettled
      | none => exact .inr ⟨by simpa [previous, next] using unsettled, rfl⟩
  | none =>
      cases next : neighbour? rest with
      | some r => exact .inl ⟨rfl, by simpa [previous, next] using unsettled⟩
      | none => exact .inl ⟨rfl, rfl⟩

/-- A text in which one small sigma took the place of the other is not found where nothing new
brings that other one back. -/
theorem not_infix_of_changed (isLast : Bool) (left front back right : List Char)
    (leftFree : sigma isLast ∉ left) (rightFree : sigma isLast ∉ right) :
    ¬ front ++ sigma isLast :: back <:+: left ++ (front ++ sigma (!isLast) :: back) ++ right := by
  intro found
  have fewer := found.sublist.count_le (sigma isLast)
  have other : sigma (!isLast) ≠ sigma isLast := by cases isLast <;> decide
  simp only [List.count_append, List.count_cons_self, List.count_cons_of_ne other,
    List.count_eq_zero_of_not_mem leftFree, List.count_eq_zero_of_not_mem rightFree] at fewer
  omega

/-- The lower case of a text, around one of its capital sigmas. -/
theorem lowerChars_around_sigma (before after : List Char) :
    lowerChars (before ++ 'Σ' :: after) =
      lowerBetween [] ('Σ' :: after) before ++ sigma (isFinal before.reverse after) ::
        lowerBetween ('Σ' :: before.reverse) [] after := by
  have around := lowerChars_around before ['Σ'] after
  rw [List.append_assoc, List.singleton_append, List.reverse_singleton, List.singleton_append,
    ← lowerBetween_nil_right] at around
  rw [around, lowerBetween, lowerBetween, lowerAt, if_pos rfl]
  simp

theorem lowerAt_letter (before rest : List Char) : lowerAt before 'a' rest = ['a'] := rfl

/-- With a letter in front, a capital sigma that had nothing before it becomes a final one. -/
theorem not_infix_after_letter {front back : List Char}
    (nothing : neighbour? front.reverse = none) (noLetter : (neighbour? back).any isCased = false) :
    ¬ lowerChars (front ++ 'Σ' :: back) <:+: lowerChars ('a' :: front ++ 'Σ' :: back) := by
  have inside : isFinal front.reverse back = false := by simp [isFinal_eq, nothing]
  have outside : isFinal ('a' :: front).reverse back = true := by
    rw [isFinal_eq, List.reverse_cons, neighbour?_append, nothing, noLetter, Option.none_or,
      letters_count.2, Bool.not_false, Bool.and_self]
  have alone : neighbour? front = none := by
    rw [neighbour?, List.find?_eq_none] at nothing ⊢
    exact fun c member => nothing c (List.mem_reverse.mpr member)
  have rest : lowerBetween ('Σ' :: ('a' :: front).reverse) [] back =
      lowerBetween ('Σ' :: front.reverse) [] back := by
    refine lowerBetween_congr fun near far _ => ?_
    have hidden := isFinal_beyond_before near.reverse front.reverse ['a'] (far ++ [])
    simpa using hidden
  rw [lowerChars_around_sigma, lowerChars_around_sigma, inside, outside, rest, lowerBetween,
    lowerAt_letter, lowerBetween_of_alone alone ['a'] _ [] ('Σ' :: back)]
  have changed := not_infix_of_changed false ['a'] (lowerBetween [] ('Σ' :: back) front)
    (lowerBetween ('Σ' :: front.reverse) [] back) [] (by decide) (by decide)
  simpa using changed

/-- With a letter behind, a final sigma that had nothing after it becomes one that is not. -/
theorem not_infix_before_letter {front back : List Char}
    (letter : (neighbour? front.reverse).any isCased = true) (nothing : neighbour? back = none) :
    ¬ lowerChars (front ++ 'Σ' :: back) <:+: lowerChars (front ++ 'Σ' :: (back ++ ['a'])) := by
  have inside : isFinal front.reverse back = true := by
    simp [isFinal_eq, letter, nothing]
  have outside : isFinal front.reverse (back ++ ['a']) = false := by
    rw [isFinal_eq, letter, neighbour?_append, nothing, Option.none_or, letters_count.2,
      Bool.not_true, Bool.and_false]
  have earlier : lowerBetween [] ('Σ' :: (back ++ ['a'])) front =
      lowerBetween [] ('Σ' :: back) front := by
    refine lowerBetween_congr fun near far _ => ?_
    have hidden := isFinal_beyond_rest (near.reverse ++ []) far back ['a']
    simpa using hidden
  have rest : lowerBetween ('Σ' :: front.reverse) [] (back ++ ['a']) =
      lowerBetween ('Σ' :: front.reverse) [] back ++ ['a'] := by
    rw [lowerBetween_append, lowerBetween_of_alone nothing _ _ ('Σ' :: front.reverse) []]
    rfl
  rw [lowerChars_around_sigma, lowerChars_around_sigma, inside, outside, earlier, rest]
  have changed := not_infix_of_changed true [] (lowerBetween [] ('Σ' :: back) front)
    (lowerBetween ('Σ' :: front.reverse) [] back) ['a'] (by decide) (by decide)
  simpa using changed

/-- A text that is not steady is missed in some surroundings. -/
theorem exists_surroundings_of_not_steady {piece : List Char} (unsteady : ¬ IsSteady piece) :
    ∃ before after, ¬ lowerChars piece <:+: lowerChars (before ++ piece ++ after) := by
  simp only [IsSteady, not_forall] at unsteady
  obtain ⟨front, back, rfl, unsettled⟩ := unsteady
  rcases not_settles unsettled with ⟨nothing, noLetter⟩ | ⟨letter, nothing⟩
  · refine ⟨['a'], [], ?_⟩
    have missed := not_infix_after_letter nothing noLetter
    simpa using missed
  · refine ⟨[], ['a'], ?_⟩
    have missed := not_infix_before_letter letter nothing
    simpa using missed

/-! ### Blanks -/

/-- The code points of the blanks, from the first to the last of each range. -/
def blankRanges : List (Nat × Nat) :=
  [(0x09, 0x0D), (0x20, 0x20), (0x85, 0x85), (0xA0, 0xA0), (0x1680, 0x1680), (0x2000, 0x200A),
    (0x2028, 0x2029), (0x202F, 0x202F), (0x205F, 0x205F), (0x3000, 0x3000)]

/-- A code point in one of the ranges. -/
def IsBlankCode (n : Nat) : Prop := ∃ range ∈ blankRanges, range.1 ≤ n ∧ n ≤ range.2

theorem isBlank_iff {c : Char} : isBlank c = true ↔ IsBlankCode c.toNat := by
  have one (k : Nat) : k ≤ c.toNat ∧ c.toNat ≤ k ↔ c.toNat = k := by omega
  have two : 0x2028 ≤ c.toNat ∧ c.toNat ≤ 0x2029 ↔ c.toNat = 0x2028 ∨ c.toNat = 0x2029 := by omega
  simp only [isBlank, IsBlankCode, blankRanges, Bool.or_eq_true, Bool.and_eq_true,
    decide_eq_true_eq, beq_iff_eq, List.exists_mem_cons_iff, List.not_mem_nil, false_and,
    exists_false, or_false, one, two, or_assoc]

/-- Whether no blank lies between two code points. -/
def noBlankBetween (first last : Nat) : Bool :=
  blankRanges.all fun range => last.blt range.1 || range.2.blt first

theorem not_isBlankCode_of_between {first last n : Nat} (clear : noBlankBetween first last = true)
    (lower : first ≤ n) (upper : n ≤ last) : ¬ IsBlankCode n := by
  simp only [noBlankBetween, List.all_eq_true, Bool.or_eq_true, Nat.blt_eq] at clear
  rintro ⟨range, isRange, fromFirst, toLast⟩
  have apart := clear range isRange
  omega

/-- Only the capitals of ASCII are moved, and they become its small letters. -/
theorem toLower_cases (c : Char) :
    c.toLower = c ∨ 0x41 ≤ c.toNat ∧ c.toNat ≤ 0x5A ∧ c.toLower.toNat = c.toNat + 0x20 := by
  unfold Char.toLower
  split
  case isTrue capital =>
    have first : 0x41 ≤ c.toNat := capital.1
    have last : c.toNat ≤ 0x5A := capital.2
    have shift : ('a'.val - 'A'.val).toNat = 0x20 := by decide
    refine .inr ⟨first, last, ?_⟩
    simp only [Char.toNat, UInt32.toNat_add, shift] at first last ⊢
    omega
  case isFalse => exact .inl rfl

/-- A code point stays, or a run carries it away. -/
theorem lowerCode_cases (n : Nat) :
    lowerCode n = n ∨ ∃ run ∈ lowerRuns, run.1 ≤ n ∧ n ≤ run.2.1 ∧
      lowerCode n = ((n : Int) + run.2.2.2).toNat := by
  cases found : lowerRuns.find? (fun r => r.1 ≤ n && n ≤ r.2.1) with
  | none => exact .inl (by simp [lowerCode, found])
  | some run =>
      have within := List.find?_some found
      simp only [Bool.and_eq_true, decide_eq_true_eq] at within
      by_cases inStep : (n - run.1) % run.2.2.1 = 0
      · refine .inr ⟨run, List.mem_of_find?_eq_some found, within.1, within.2, ?_⟩
        simp [lowerCode, found, inStep]
      · exact .inl (by simp [lowerCode, found, inStep])

/-- No blank is in a run, none is where a run leads, and none is in the ranges that the search for a
neighbour looks at. -/
theorem tables_clear :
    (lowerRuns.all fun run => noBlankBetween run.1 run.2.1) = true ∧
      (lowerRuns.all fun run => noBlankBetween ((run.1 : Int) + run.2.2.2).toNat
        ((run.2.1 : Int) + run.2.2.2).toNat) = true ∧
      (caseIgnorableRanges.all fun marked => noBlankBetween marked.1 marked.2) = true ∧
      (casedRanges.all fun cased => noBlankBetween cased.1 cased.2) = true := by
  decide +kernel

theorem lowerChar_of_isBlank {c : Char} (blank : isBlank c = true) : lowerChar c = [c] := by
  have code := isBlank_iff.mp blank
  have stays : lowerCode c.toNat = c.toNat := by
    rcases lowerCode_cases c.toNat with stays | ⟨run, isRun, first, last, -⟩
    · exact stays
    · have clear := List.all_eq_true.mp tables_clear.1 run isRun
      exact absurd code (not_isBlankCode_of_between clear first last)
  rw [lowerChar, stays, Char.ofNat_toNat]
  split_ifs with ascii dotted
  · rcases toLower_cases c with same | ⟨first, last, -⟩
    · rw [same]
    · exact absurd code (not_isBlankCode_of_between (by decide) first last)
  · exact absurd code (not_isBlankCode_of_between (by decide) dotted.ge dotted.le)
  · rfl

/-- No run ends at a blank. -/
theorem not_isBlankCode_lowerCode {n : Nat} (notBlank : ¬ IsBlankCode n) :
    ¬ IsBlankCode (lowerCode n) := by
  rcases lowerCode_cases n with stays | ⟨run, isRun, first, last, moved⟩
  · rw [stays]
    exact notBlank
  · have clear := List.all_eq_true.mp tables_clear.2.1 run isRun
    rw [moved]
    exact not_isBlankCode_of_between clear (by omega) (by omega)

theorem isBlank_ofNat_eq_false {n : Nat} (notBlank : ¬ IsBlankCode n) :
    isBlank (Char.ofNat n) = false := by
  rw [Bool.eq_false_iff, ne_eq, isBlank_iff]
  by_cases valid : n.isValidChar
  · have known : Char.ofNat n = Char.ofNatAux n valid := dif_pos valid
    rw [known]
    exact notBlank
  · have unknown : Char.ofNat n = Char.ofNat 0 := dif_neg valid
    rw [unknown, ← isBlank_iff]
    decide

theorem isBlank_toLower {c : Char} (notBlank : isBlank c = false) : isBlank c.toLower = false := by
  rcases toLower_cases c with same | ⟨first, last, moved⟩
  · rw [same]
    exact notBlank
  · have clear : noBlankBetween 0x61 0x7A = true := by decide
    rw [Bool.eq_false_iff, ne_eq, isBlank_iff, moved]
    exact not_isBlankCode_of_between clear (by omega) (by omega)

/-- Lower-casing makes no blank of what is none. -/
theorem isBlank_of_mem_lowerChar {c d : Char} (lowered : d ∈ lowerChar c)
    (notBlank : isBlank c = false) : isBlank d = false := by
  have code : ¬ IsBlankCode c.toNat := by
    rw [← isBlank_iff, notBlank]
    exact Bool.false_ne_true
  rw [lowerChar] at lowered
  split_ifs at lowered with ascii dotted
  · obtain rfl := List.mem_singleton.mp lowered
    exact isBlank_toLower notBlank
  · simp at lowered
    rcases lowered with rfl | rfl <;> decide
  · obtain rfl := List.mem_singleton.mp lowered
    exact isBlank_ofNat_eq_false (not_isBlankCode_lowerCode code)

theorem lowerChar_ne_nil (c : Char) : lowerChar c ≠ [] := by
  rw [lowerChar]
  split_ifs <;> simp

theorem lowerAt_ne_nil (before : List Char) (c : Char) (rest : List Char) :
    lowerAt before c rest ≠ [] := by
  rw [lowerAt]
  split_ifs
  · exact List.cons_ne_nil _ _
  · exact lowerChar_ne_nil c

theorem lowerChars_eq_nil_iff {cs : List Char} : lowerChars cs = [] ↔ cs = [] := by
  cases cs with
  | nil => exact iff_of_true rfl rfl
  | cons c rest =>
      refine iff_of_false ?_ (List.cons_ne_nil c rest)
      rw [lowerChars, lowerAfter_cons]
      exact List.append_ne_nil_of_left_ne_nil (lowerAt_ne_nil [] c rest) _

/-- The lower case of a blank is that blank, and of anything else holds none. -/
theorem isBlank_of_mem_lowerAt {before rest : List Char} {c d : Char}
    (lowered : d ∈ lowerAt before c rest) : isBlank d = isBlank c := by
  rw [lowerAt] at lowered
  split_ifs at lowered with capital
  · obtain rfl := List.mem_singleton.mp lowered
    rw [capital]
    cases isFinal before rest <;> decide
  · cases blank : isBlank c with
    | true =>
        rw [lowerChar_of_isBlank blank, List.mem_singleton] at lowered
        rw [lowered, blank]
    | false => exact isBlank_of_mem_lowerChar lowered blank

theorem head?_any_lowerChars (cs : List Char) :
    (lowerChars cs).head?.any isBlank = cs.head?.any isBlank := by
  cases cs with
  | nil => rfl
  | cons c rest =>
      obtain ⟨d, more, lowered⟩ := List.exists_cons_of_ne_nil (lowerAt_ne_nil [] c rest)
      have first : d ∈ lowerAt [] c rest := by
        rw [lowered]
        exact List.mem_cons_self
      rw [lowerChars, lowerAfter_cons, lowered]
      exact isBlank_of_mem_lowerAt first

theorem getLast?_any_lowerChars (cs : List Char) :
    (lowerChars cs).getLast?.any isBlank = cs.getLast?.any isBlank := by
  induction cs using List.reverseRecOn with
  | nil => rfl
  | append_singleton front c _ =>
      have nonempty := lowerAt_ne_nil front.reverse c []
      have same : isBlank ((lowerAt front.reverse c []).getLast nonempty) = isBlank c :=
        isBlank_of_mem_lowerAt (List.getLast_mem nonempty)
      rw [lowerChars, lowerAfter_append, lowerAfter_cons, List.append_nil, lowerAfter,
        List.append_nil, List.getLast?_append_of_ne_nil _ nonempty, List.getLast?_concat]
      rw [List.getLast?_eq_getLast_of_ne_nil nonempty]
      exact same

/-- Lower-casing neither makes nor removes a blank at an end. -/
theorem isTrimmed_lowerChars_iff {cs : List Char} : IsTrimmed (lowerChars cs) ↔ IsTrimmed cs := by
  rw [IsTrimmed, head?_any_lowerChars, getLast?_any_lowerChars, IsTrimmed]

/-! ### Text between blanks -/

theorem inRanges_eq_false {ranges : List (Nat × Nat)} {n : Nat} (blank : IsBlankCode n)
    (clear : (ranges.all fun marked => noBlankBetween marked.1 marked.2) = true) :
    inRanges ranges n = false := by
  rw [inRanges, List.any_eq_false]
  intro marked isMarked within
  simp only [Bool.and_eq_true, decide_eq_true_eq] at within
  exact not_isBlankCode_of_between (List.all_eq_true.mp clear marked isMarked) within.1 within.2
    blank

/-- A blank counts as a neighbour, and it is no letter. -/
theorem isCaseIgnorable_of_isBlank {c : Char} (blank : isBlank c = true) :
    isCaseIgnorable c = false ∧ isCased c = false := by
  have code := isBlank_iff.mp blank
  exact ⟨inRanges_eq_false code tables_clear.2.2.1, inRanges_eq_false code tables_clear.2.2.2⟩

/-- Behind the end of a text, blanks are as good as nothing. -/
theorem any_neighbour?_append {far : List Char} (blank : ∀ c ∈ far, isBlank c = true)
    (near : List Char) : (neighbour? (near ++ far)).any isCased = (neighbour? near).any isCased := by
  have none : (neighbour? far).any isCased = false := by
    cases found : neighbour? far with
    | none => rfl
    | some c => exact (isCaseIgnorable_of_isBlank (blank c (List.mem_of_find?_eq_some found))).2
  rw [neighbour?_append]
  cases neighbour? near with
  | none => exact none
  | some c => rfl

theorem lowerBetween_of_blank {piece : List Char} (blank : ∀ c ∈ piece, isBlank c = true)
    (before after : List Char) : lowerBetween before after piece = piece := by
  induction piece generalizing before with
  | nil => rfl
  | cons c rest ih =>
      have noSigma : c ≠ 'Σ' := by
        rintro rfl
        exact absurd (blank 'Σ' List.mem_cons_self) (by decide)
      rw [lowerBetween, lowerAt, if_neg noSigma, lowerChar_of_isBlank (blank c List.mem_cons_self),
        ih fun d member => blank d (List.mem_cons_of_mem c member), List.singleton_append]

/-- Blanks around a text stay, and they leave its lower case as it is without them. -/
theorem lowerChars_between_blanks {before after : List Char}
    (blankBefore : ∀ c ∈ before, isBlank c = true) (blankAfter : ∀ c ∈ after, isBlank c = true)
    (piece : List Char) :
    lowerChars (before ++ piece ++ after) = before ++ lowerChars piece ++ after := by
  have inside : lowerBetween before.reverse after piece = lowerChars piece := by
    rw [lowerChars, ← lowerBetween_nil_right]
    apply lowerBetween_congr
    intro front back _
    have blankReverse : ∀ c ∈ before.reverse, isBlank c = true := fun c member =>
      blankBefore c (List.mem_reverse.mp member)
    rw [isFinal_eq, isFinal_eq, any_neighbour?_append blankReverse,
      any_neighbour?_append blankAfter, List.append_nil, List.append_nil]
  rw [lowerChars_around, lowerBetween_of_blank blankBefore, inside, ← lowerBetween_nil_right,
    lowerBetween_of_blank blankAfter]

end StudyDesk.Text
