/-
Module: StudyDesk.Proofs.Json.Outline
Purpose: What is passed over is exactly a value of the grammar.
Main exports:
  IsValue.isPassed, skipValue_append, exists_value_of_skipValue
-/
import StudyDesk.Proofs.Json.Lexical
import StudyDesk.Proofs.Json.Skipping

namespace StudyDesk.Json

variable {isFirst : Bool} {c : Char} {cs here gap front core content inner more rest : List Char}
variable {steps : Nat} {frame : Frame} {frames outer : List Frame}

/-! ### Parts of containers -/

theorem IsLead.partAt (lead : IsLead isFirst front) (notSpace : isSpace c = false)
    (inner : List Char) : PartAt isFirst (front ++ c :: inner) (c :: inner) := by
  have shown : skipBlanks (c :: inner) = c :: inner := skipBlanks_cons notSpace inner
  cases lead with
  | first blank => exact .first (by rw [skipBlanks_append blank, shown])
  | @next gap gap' blank blank' =>
      refine @PartAt.next _ (gap' ++ c :: inner) _ ?_ (by rw [skipBlanks_append blank', shown])
      rw [List.append_assoc, skipBlanks_append blank]
      rfl

theorem PartAt.exists_lead (part : PartAt isFirst cs here) :
    ∃ front, IsLead isFirst front ∧ cs = front ++ here := by
  cases part with
  | first shown =>
      obtain ⟨gap, split, blank⟩ := exists_gap cs
      exact ⟨gap, .first blank, shown ▸ split⟩
  | @next _ after _ comma shown =>
      obtain ⟨gap, split, blank⟩ := exists_gap cs
      obtain ⟨gap', split', blank'⟩ := exists_gap after
      rw [comma, split', shown] at split
      exact ⟨gap ++ ',' :: gap', .next blank blank', by simp [split]⟩

theorem PartAt.functional {here' : List Char} (one : PartAt isFirst cs here)
    (two : PartAt isFirst cs here') : here = here' := by
  cases isFirst with
  | true => rw [← partAt_true_iff.mp one, partAt_true_iff.mp two]
  | false =>
      obtain ⟨after, comma, rfl⟩ := partAt_false_iff.mp one
      obtain ⟨after', comma', rfl⟩ := partAt_false_iff.mp two
      rw [comma] at comma'
      rw [(List.cons.inj comma').2]

theorem Member.skipName_text {member : Member} {text : List Char} (framed : member.IsFramed)
    (shown : skipBlanks text = member.text ++ more) :
    skipName text = .ok (member.after ++ (member.value ++ more)) := by
  have colon : readColon (member.before ++ ':' :: (member.after ++ (member.value ++ more))) =
      .ok (member.after ++ (member.value ++ more)) := by
    rw [readColon_eq_ok_iff, skipBlanks_append framed.before, skipBlanks_cons (by decide)]
  simp only [Member.text, List.cons_append, List.append_assoc] at shown
  simp only [skipName, shown, skipBody_append framed.name, bind_eq_ok_iff]
  exact ⟨_, rfl, colon⟩

theorem exists_member_of_skipName {text afterColon : List Char}
    (skipped : skipName text = .ok afterColon) :
    ∃ gap name before, IsGap gap ∧ IsBody name ∧ IsGap before ∧
      text = gap ++ '"' :: (name ++ '"' :: (before ++ ':' :: afterColon)) := by
  unfold skipName at skipped
  split at skipped
  case h_1 => cases skipped
  case h_2 inner shown =>
    obtain ⟨afterName, named, colon⟩ := bind_eq_ok_iff.mp skipped
    obtain ⟨name, isBody, rfl⟩ := exists_body_of_skipBody named
    obtain ⟨gap, split, blank⟩ := exists_gap text
    obtain ⟨before, split', blank'⟩ := exists_gap afterName
    rw [readColon_eq_ok_iff.mp colon] at split'
    rw [shown, split'] at split
    exact ⟨gap, name, before, blank, isBody, blank', split⟩
  case h_3 => cases skipped

/-- A closing bracket is no blank, and no number goes on with it. -/
theorem Frame.closer_ends (frame : Frame) : isSpace frame.closer = false ∧
    frame.closer.isDigit = false ∧ frame.closer ≠ '.' ∧ frame.closer ≠ 'e' ∧
      frame.closer ≠ 'E' := by
  cases frame <;> decide

/-! ### Values are passed over -/

theorem skipBlanks_value (isValue : IsValue core) (blank : IsGap gap) (more : List Char) :
    skipBlanks (gap ++ (core ++ more)) = core ++ more := by
  obtain ⟨c, tail, rfl, notSpace, -⟩ := isValue.head
  rw [skipBlanks_append blank, List.cons_append, skipBlanks_cons notSpace]

/-- From a text, passing over goes on right behind it, with enough steps left for what is there. -/
def IsPassed (core : List Char) : Prop :=
  ∀ ⦃cs more⦄, skipBlanks cs = core ++ more → EndsNumber more → ∀ steps frames,
    2 * cs.length ≤ steps → ∃ left, 2 * more.length + 1 ≤ left ∧
      skipOpen steps .value frames cs = skipOpen left (.more true) frames more

/-- The first step over a text, and that there are enough others for what is behind its first
character. -/
theorem exists_step (shown : skipBlanks cs = c :: inner) (enough : 2 * cs.length ≤ steps) :
    ∃ left, steps = left + 1 ∧ 2 * inner.length + 1 ≤ left := by
  have within := length_skipBlanks_le cs
  rw [shown, List.length_cons] at within
  exact ⟨steps - 1, by omega, by omega⟩

/-- A text that is passed over in one step. -/
theorem isPassed_of_step {tail : List Char}
    (step : ∀ {cs more}, skipBlanks cs = c :: (tail ++ more) → EndsNumber more → ∀ steps frames,
      skipOpen (steps + 1) .value frames cs = skipOpen steps (.more true) frames more) :
    IsPassed (c :: tail) := by
  intro cs more shown ends steps frames enough
  obtain ⟨left, rfl, few⟩ := exists_step shown enough
  have split : (tail.append more).length = tail.length + more.length := List.length_append
  exact ⟨left, by omega, step shown ends left frames⟩

/-- A part shows itself, and does not look like the end of the container. -/
def Begins (frame : Frame) (text : List Char) : Prop :=
  ∃ c tail, text = c :: tail ∧ isSpace c = false ∧ c ≠ frame.closer

/-- In a container, a part is passed over, and what is behind it is due. -/
structure PassesPart (frame : Frame) (text : List Char) : Prop where
  begins : Begins frame text
  passed : ∀ ⦃cs more⦄, skipBlanks cs = text ++ more → EndsNumber more → ∀ steps outer,
    2 * cs.length ≤ steps → ∃ left, 2 * more.length + 1 ≤ left ∧
      skipPart steps outer frame cs = skipOpen left (.more true) (frame :: outer) more

theorem IsPassed.passesPart (passed : IsPassed core) (isValue : IsValue core) :
    PassesPart .list core where
  begins := isValue.head
  passed := fun _ _ shown ends steps outer => passed shown ends steps (.list :: outer)

theorem Member.passesPart {member : Member} (framed : member.IsFramed)
    (isValue : IsValue member.value) (passed : IsPassed member.value) :
    PassesPart .object member.text where
  begins := ⟨'"', _, rfl, by decide, by decide⟩
  passed := by
    intro cs more shown ends steps outer enough
    have due := skipBlanks_value isValue framed.after more
    have shorter : (member.after ++ (member.value ++ more)).length ≤ cs.length := by
      have within := length_skipBlanks_le cs
      rw [shown] at within
      simp only [Member.text, List.length_cons, List.length_append] at within ⊢
      omega
    obtain ⟨left, few, same⟩ := passed due ends steps (.object :: outer) (by omega)
    refine ⟨left, few, ?_⟩
    rw [skipPart, Member.skipName_text framed shown]
    exact same

/-- Part by part, the content of a container is passed over up to its bracket. -/
theorem Arranged.passes {α : Type} {text : α → List Char} {parts : List α}
    (arranged : Arranged text isFirst parts content)
    (inner : ∀ part ∈ parts, PassesPart frame (text part)) (steps : Nat) (outer : List Frame)
    (enough : 2 * (content ++ frame.closer :: more).length + 1 ≤ steps) :
    ∃ left, 2 * more.length + 1 ≤ left ∧
      skipOpen steps (.more !isFirst) (frame :: outer) (content ++ frame.closer :: more) =
        skipOpen left (.more true) outer more := by
  obtain ⟨steps, rfl⟩ := Nat.exists_eq_add_of_le' (Nat.le_of_add_left_le enough)
  induction arranged generalizing steps with
  | close blank =>
      refine ⟨steps, ?_, skipOpen_close ?_ _⟩
      · simp only [List.length_append, List.length_cons] at enough
        omega
      · rw [skipBlanks_append blank, skipBlanks_cons frame.closer_ends.1]
  | @cons isFirst front content part parts lead others ih =>
      obtain ⟨⟨⟨c, tail, begins, notSpace, notClose⟩, passed⟩, inner⟩ :=
        List.forall_mem_cons.mp inner
      have here := lead.partAt notSpace (tail ++ (content ++ frame.closer :: more))
      rw [← List.cons_append, ← begins] at here
      obtain ⟨cs, shown, within, parts⟩ := skipOpen_part frame here (by rw [begins]; rfl) notClose
      have ends := others.endsNumber frame.closer_ends.2 more
      simp only [List.append_assoc] at enough ⊢
      obtain ⟨left, few, same⟩ :=
        passed shown ends steps outer (by omega)
      obtain ⟨left, rfl⟩ := Nat.exists_eq_add_of_le' (Nat.le_of_add_left_le few)
      rw [parts, same]
      exact ih inner left few

/-- Every value of the grammar is passed over. -/
theorem IsValue.isPassed (isValue : IsValue core) : IsPassed core := by
  induction isValue with
  | @word word known =>
      obtain ⟨v, listed⟩ : ∃ v, (word, v) ∈ words := by
        simpa [words, exists_or] using known
      obtain ⟨c, tail, rfl, -⟩ := (IsValue.word known).head
      exact isPassed_of_step fun shown _ _ _ => skipOpen_word listed shown
  | positive isNumeral =>
      obtain ⟨c, tail, rfl, digit⟩ := isNumeral.head
      refine isPassed_of_step fun shown ends steps frames => ?_
      have passed := skipNumber_append isNumeral ends
      rw [List.cons_append] at passed
      simp [skipOpen, shown, digit, passed, bind, Except.bind, ne_mark_of_isDigit digit]
  | negative isNumeral =>
      refine isPassed_of_step fun shown ends steps frames => ?_
      simp [skipOpen, shown, skipNumber_append isNumeral ends, bind, Except.bind]
  | string isBody =>
      refine isPassed_of_step fun {cs more} shown _ steps frames => ?_
      have passed := skipBody_append isBody more
      rw [List.append_assoc, List.singleton_append] at shown
      simp [skipOpen, shown, passed, bind, Except.bind, Char.isDigit]
  | array arranged inner ih =>
      intro cs more shown _ steps frames enough
      rw [List.cons_append, List.append_assoc, List.singleton_append] at shown
      obtain ⟨steps, rfl, few⟩ := exists_step shown enough
      obtain ⟨left, few', passed⟩ := arranged.passes
        (fun item listed => (ih item listed).passesPart (inner item listed)) steps frames few
      exact ⟨left, few', .trans (by simp [skipOpen, shown, Char.isDigit, Frame.closer]) passed⟩
  | @object members content arranged framed inner ih =>
      intro cs more shown _ steps frames enough
      rw [List.cons_append, List.append_assoc, List.singleton_append] at shown
      obtain ⟨steps, rfl, few⟩ := exists_step shown enough
      have parts (member : Member) (listed : member ∈ members) : PassesPart .object member.text :=
        Member.passesPart (framed member listed) (inner member listed) (ih member listed)
      obtain ⟨left, few', passed⟩ := arranged.passes parts steps frames few
      exact ⟨left, few', .trans (by simp [skipOpen, shown, Char.isDigit, Frame.closer]) passed⟩

theorem skipValue_append (isValue : IsValue core) (blank : IsGap gap) (ends : EndsNumber more) :
    skipValue (gap ++ (core ++ more)) = .ok more := by
  obtain ⟨left, few, passed⟩ := isValue.isPassed (skipBlanks_value isValue blank more) ends
    (2 * (gap ++ (core ++ more)).length + 2) [] (by omega)
  obtain ⟨left, rfl⟩ := Nat.exists_eq_add_of_le' (Nat.le_of_add_left_le few)
  rw [skipValue, passed, skipOpen]

/-! ### Nothing else is passed over -/

/-- What is due is a value, which stands behind blanks, and passing over goes on behind it. -/
def TakesValue (steps : Nat) : Prop :=
  ∀ ⦃frames cs rest⦄, skipOpen steps .value frames cs = .ok rest →
    ∃ gap core mid left, left < steps ∧ IsGap gap ∧ IsValue core ∧ cs = gap ++ (core ++ mid) ∧
      skipOpen left (.more true) frames mid = .ok rest

/-- In an open container its end is due, or its next part. -/
theorem exists_lead_of_skipOpen
    (skipped : skipOpen (steps + 1) (.more !isFirst) (frame :: outer) cs = .ok rest) :
    (∃ gap mid, IsGap gap ∧ cs = gap ++ frame.closer :: mid ∧
        skipOpen steps (.more true) outer mid = .ok rest) ∨
      ∃ front text, (∀ gap, IsGap gap → IsLead isFirst (front ++ gap)) ∧ cs = front ++ text ∧
        skipPart steps outer frame text = .ok rest := by
  obtain ⟨gap, split, blank⟩ := exists_gap cs
  cases shown : skipBlanks cs with
  | nil => cases frame <;> simp [skipOpen, shown, failAt] at skipped
  | cons c inner =>
      rw [shown] at split
      by_cases close : c = frame.closer
      · subst close
        rw [skipOpen_close shown] at skipped
        exact .inl ⟨gap, inner, blank, split, skipped⟩
      · refine .inr ?_
        cases isFirst with
        | true =>
            refine ⟨gap, c :: inner, fun gap' blank' => .first ?_, split, ?_⟩
            · exact List.forall_mem_append.mpr ⟨blank, blank'⟩
            · cases frame <;> rw [Frame.closer] at close <;>
                simpa [skipOpen, skipPart, shown, close] using skipped
        | false =>
            by_cases comma : c = ','
            · subst comma
              refine ⟨gap ++ [','], inner, fun gap' blank' => ?_, by simp [split], ?_⟩
              · rw [List.append_assoc]
                exact .next blank blank'
              · cases frame <;> simpa [skipOpen, skipPart, shown] using skipped
            · cases frame <;> rw [Frame.closer] at close <;>
                simp [skipOpen, shown, close, comma, failAt] at skipped

/-- In an open container nothing is passed over as a part but what fits. -/
def TakesPart (frame : Frame) {α : Type} (text : α → List Char) (fits : α → Prop) (steps : Nat) :
    Prop :=
  ∀ ⦃outer cs rest⦄, skipPart steps outer frame cs = .ok rest →
    ∃ gap part mid left, left < steps ∧ IsGap gap ∧ fits part ∧ cs = gap ++ (text part ++ mid) ∧
      skipOpen left (.more true) (frame :: outer) mid = .ok rest

theorem TakesValue.takesItem (takes : TakesValue steps) :
    TakesPart .list (fun item => item) IsValue steps :=
  fun _ _ _ skipped => takes skipped

theorem TakesValue.takesMember (takes : TakesValue steps) :
    TakesPart .object Member.text (fun member => member.IsFramed ∧ IsValue member.value) steps := by
  intro outer cs rest skipped
  obtain ⟨afterColon, named, due⟩ := bind_eq_ok_iff.mp skipped
  obtain ⟨gap, name, before, blank, isBody, blankBefore, rfl⟩ := exists_member_of_skipName named
  obtain ⟨after, value, mid, left, fewer, blankAfter, isValue, rfl, later⟩ := takes due
  exact ⟨gap, ⟨name, before, after, value⟩, mid, left, fewer, blank,
    ⟨⟨isBody, blankBefore, blankAfter⟩, isValue⟩, by simp [Member.text], later⟩

/-- Nothing is passed over as the content of a container but parts that fit. -/
theorem exists_parts_of_skipOpen {α : Type} {text : α → List Char} {fits : α → Prop} (steps : Nat)
    (smaller : ∀ fewer < steps, TakesPart frame text fits fewer)
    (skipped : skipOpen steps (.more !isFirst) (frame :: outer) cs = .ok rest) :
    ∃ parts content mid left, left < steps ∧ Arranged text isFirst parts content ∧
      (∀ part ∈ parts, fits part) ∧ cs = content ++ frame.closer :: mid ∧
      skipOpen left (.more true) outer mid = .ok rest := by
  induction steps using Nat.strong_induction_on generalizing isFirst cs with
  | _ steps ih =>
      cases steps with
      | zero => cases skipped
      | succ steps =>
          rcases exists_lead_of_skipOpen skipped with
            ⟨gap, mid, blank, rfl, closed⟩ | ⟨front, behind, leads, rfl, due⟩
          · exact ⟨[], gap, mid, steps, Nat.lt_succ_self steps, .close blank,
              List.forall_mem_nil _, rfl, closed⟩
          · obtain ⟨gap, part, mid, left, fewer, blank, fit, rfl, next⟩ :=
              smaller steps (Nat.lt_succ_self steps) due
            have next : skipOpen left (.more !false) (frame :: outer) mid = .ok rest := next
            obtain ⟨parts, content, mid, left', fewer', arranged, fits, rfl, later⟩ :=
              ih left (by omega) (fun s less => smaller s (by omega)) next
            exact ⟨part :: parts, (front ++ gap) ++ (text part ++ content), mid, left', by omega,
              .cons (leads gap blank) arranged, List.forall_mem_cons.mpr ⟨fit, fits⟩, by simp,
              later⟩

/-- A word is passed over letter by letter. -/
theorem exists_value_of_readWord {letters : List Char} (isValue : IsValue (c :: letters))
    (shown : skipBlanks cs = c :: inner)
    (skipped : (readWord letters inner >>= fun mid => skipOpen steps (.more true) frames mid) =
      .ok rest) :
    ∃ core mid, IsValue core ∧ skipBlanks cs = core ++ mid ∧
      skipOpen steps (.more true) frames mid = .ok rest := by
  obtain ⟨mid, spelled, later⟩ := bind_eq_ok_iff.mp skipped
  exact ⟨_, mid, isValue, by rw [shown, readWord_eq_ok_iff.mp spelled]; rfl, later⟩

/-- What is due is passed over in one step, or it is a container that is opened. -/
theorem skipOpen_value_cases (skipped : skipOpen (steps + 1) .value frames cs = .ok rest) :
    (∃ core mid, IsValue core ∧ skipBlanks cs = core ++ mid ∧
        skipOpen steps (.more true) frames mid = .ok rest) ∨
      (∃ inner, skipBlanks cs = '[' :: inner ∧
        skipOpen steps (.more false) (.list :: frames) inner = .ok rest) ∨
      ∃ inner, skipBlanks cs = '{' :: inner ∧
        skipOpen steps (.more false) (.object :: frames) inner = .ok rest := by
  rw [skipOpen] at skipped
  split at skipped
  case h_1 => cases skipped
  case h_2 c inner shown =>
    by_cases null : c = 'n'
    · rw [if_pos null] at skipped
      exact .inl (exists_value_of_readWord (.word (by simp)) (null ▸ shown) skipped)
    rw [if_neg null] at skipped
    by_cases yes : c = 't'
    · rw [if_pos yes] at skipped
      exact .inl (exists_value_of_readWord (.word (by simp)) (yes ▸ shown) skipped)
    rw [if_neg yes] at skipped
    by_cases no : c = 'f'
    · rw [if_pos no] at skipped
      exact .inl (exists_value_of_readWord (.word (by simp)) (no ▸ shown) skipped)
    rw [if_neg no] at skipped
    by_cases minus : c = '-'
    · rw [if_pos minus] at skipped
      obtain ⟨mid, passed, later⟩ := bind_eq_ok_iff.mp skipped
      obtain ⟨numeral, isNumeral, rfl⟩ := exists_numeral passed
      exact .inl ⟨_, mid, .negative isNumeral, minus ▸ shown, later⟩
    rw [if_neg minus] at skipped
    by_cases digit : c.isDigit = true
    · rw [if_pos digit] at skipped
      obtain ⟨mid, passed, later⟩ := bind_eq_ok_iff.mp skipped
      obtain ⟨numeral, isNumeral, same⟩ := exists_numeral passed
      exact .inl ⟨numeral, mid, .positive isNumeral, shown.trans same, later⟩
    rw [if_neg digit] at skipped
    by_cases quote : c = '"'
    · rw [if_pos quote] at skipped
      obtain ⟨mid, passed, later⟩ := bind_eq_ok_iff.mp skipped
      obtain ⟨body, isBody, rfl⟩ := exists_body_of_skipBody passed
      exact .inl ⟨_, mid, .string isBody, by rw [shown, quote]; simp, later⟩
    rw [if_neg quote] at skipped
    by_cases bracket : c = '['
    · rw [if_pos bracket] at skipped
      exact .inr (.inl ⟨inner, bracket ▸ shown, skipped⟩)
    rw [if_neg bracket] at skipped
    by_cases brace : c = '{'
    · rw [if_pos brace] at skipped
      exact .inr (.inr ⟨inner, brace ▸ shown, skipped⟩)
    rw [if_neg brace] at skipped
    cases skipped

theorem takesValue (steps : Nat) : TakesValue steps := by
  induction steps using Nat.strong_induction_on with
  | _ steps smaller =>
      intro frames cs rest skipped
      cases steps with
      | zero => cases skipped
      | succ steps =>
          obtain ⟨gap, split, blank⟩ := exists_gap cs
          rcases skipOpen_value_cases skipped with
            ⟨core, mid, isValue, shown, later⟩ | ⟨inner, shown, due⟩ | ⟨inner, shown, due⟩
          · exact ⟨gap, core, mid, steps, Nat.lt_succ_self steps, blank, isValue, shown ▸ split,
              later⟩
          · have due : skipOpen steps (.more !true) (.list :: frames) inner = .ok rest := due
            obtain ⟨items, content, mid, left, fewer, arranged, isValue, rfl, later⟩ :=
              exists_parts_of_skipOpen steps (fun s less => (smaller s (by omega)).takesItem) due
            exact ⟨gap, _, mid, left, by omega, blank, .array arranged isValue,
              by rw [split, shown]; simp [Frame.closer], later⟩
          · have due : skipOpen steps (.more !true) (.object :: frames) inner = .ok rest := due
            obtain ⟨members, content, mid, left, fewer, arranged, fit, rfl, later⟩ :=
              exists_parts_of_skipOpen steps (fun s less => (smaller s (by omega)).takesMember) due
            have isValue : IsValue ('{' :: (content ++ ['}'])) :=
              .object arranged (fun member listed => (fit member listed).1)
                (fun member listed => (fit member listed).2)
            exact ⟨gap, _, mid, left, by omega, blank, isValue,
              by rw [split, shown]; simp [Frame.closer], later⟩

/-- Nothing but a value of the grammar is passed over. -/
theorem exists_value_of_skipValue (skipped : skipValue cs = .ok rest) :
    ∃ gap core, IsGap gap ∧ IsValue core ∧ cs = gap ++ (core ++ rest) := by
  obtain ⟨gap, core, mid, left, -, blank, isValue, split, later⟩ := takesValue _ skipped
  cases left with
  | zero => cases later
  | succ left =>
      rw [skipOpen] at later
      exact ⟨gap, core, blank, isValue, Except.ok.inj later ▸ split⟩

end StudyDesk.Json
