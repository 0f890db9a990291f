/-
Module: StudyDesk.Proofs.Json.Skipping
Purpose: Passing over a value takes exactly what reading it takes.
Main exports:
  length_of_readValue, Skips, skips, skipValue_of_readValue
-/
import StudyDesk.Proofs.Json.Extent

namespace StudyDesk.Json

variable {depth steps : Nat} {isFirst : Bool} {v : Json} {frame : Frame} {frames outer : List Frame}
variable {cs here inner rest : List Char}

/-! ### Lengths -/

theorem length_skipBlanks_le (cs : List Char) : (skipBlanks cs).length ≤ cs.length :=
  (List.dropWhile_suffix isSpace).length_le

/-- Reading a value takes something. -/
theorem length_of_readValue (read : readValue depth cs = .ok (v, rest)) :
    rest.length < cs.length := by
  obtain ⟨core, taken, spells⟩ := exists_spelling depth read
  have some := List.length_pos_iff.mpr spells.nonempty
  have within := length_skipBlanks_le cs
  rw [taken, List.length_append] at within
  omega

/-! ### One step -/

/-- What ends a container. -/
def Frame.closer : Frame → Char
  | .list => ']'
  | .object => '}'

/-- Going on with the next part of a container. -/
def skipPart (steps : Nat) (outer : List Frame) : Frame → List Char → Except Failure (List Char)
  | .list, text => skipOpen steps .value (.list :: outer) text
  | .object, text => do skipOpen steps .value (.object :: outer) (← skipName text)

theorem skipOpen_close (shown : skipBlanks cs = frame.closer :: rest) (afterItem : Bool) :
    skipOpen (steps + 1) (.more afterItem) (frame :: outer) cs =
      skipOpen steps (.more true) outer rest := by
  cases frame <;> rw [Frame.closer] at shown <;> simp [skipOpen, shown]

theorem skipOpen_part (frame : Frame) (part : PartAt isFirst cs here) {c : Char}
    (shown : here = c :: inner) (notClose : c ≠ frame.closer) :
    ∃ text, skipBlanks text = here ∧ text.length ≤ cs.length ∧ ∀ steps outer,
      skipOpen (steps + 1) (.more !isFirst) (frame :: outer) cs =
        skipPart steps outer frame text := by
  subst shown
  cases part with
  | first shown =>
      refine ⟨c :: inner, skipBlanks_cons (isSpace_of_skipBlanks shown) inner, ?_, ?_⟩
      · rw [← shown]
        exact length_skipBlanks_le cs
      · intro steps outer
        cases frame <;> rw [Frame.closer] at notClose <;>
          simp [skipOpen, skipPart, shown, notClose]
  | @next _ after _ comma shown =>
      refine ⟨after, shown, ?_, ?_⟩
      · have within := length_skipBlanks_le cs
        rw [comma, List.length_cons] at within
        omega
      · intro steps outer
        cases frame <;> simp [skipOpen, skipPart, comma]

/-! ### Values -/

theorem skipOpen_word {word : List Char} (known : (word, v) ∈ words)
    (shown : skipBlanks cs = word ++ rest) :
    skipOpen (steps + 1) .value frames cs = skipOpen steps (.more true) frames rest := by
  simp only [words, List.mem_cons, Prod.mk.injEq, List.not_mem_nil, or_false] at known
  have spelled (letters : List Char) : readWord letters (letters ++ rest) = .ok rest :=
    readWord_eq_ok_iff.mpr rfl
  rcases known with ⟨rfl, -⟩ | ⟨rfl, -⟩ | ⟨rfl, -⟩
  · have tail := spelled ['u', 'l', 'l']
    simp only [List.cons_append, List.nil_append] at shown tail
    simp [skipOpen, shown, tail, bind, Except.bind]
  · have tail := spelled ['r', 'u', 'e']
    simp only [List.cons_append, List.nil_append] at shown tail
    simp [skipOpen, shown, tail, bind, Except.bind]
  · have tail := spelled ['a', 'l', 's', 'e']
    simp only [List.cons_append, List.nil_append] at shown tail
    simp [skipOpen, shown, tail, bind, Except.bind]

/-- From a value that is read, passing over goes on right behind it, with enough steps left for what
is there. -/
def Skips (depth : Nat) : Prop :=
  ∀ {cs v rest}, readValue depth cs = .ok (v, rest) → ∀ steps frames, 2 * cs.length ≤ steps →
    ∃ left, 2 * rest.length + 1 ≤ left ∧
      skipOpen steps .value frames cs = skipOpen left (.more true) frames rest

theorem ItemsRead.skips (skips : Skips depth) {items : List Json}
    (read : ItemsRead (readValue depth) isFirst cs items rest) (steps : Nat) (outer : List Frame)
    (enough : 2 * cs.length + 1 ≤ steps) :
    ∃ left, 2 * rest.length + 1 ≤ left ∧
      skipOpen steps (.more !isFirst) (.list :: outer) cs = skipOpen left (.more true) outer rest := by
  induction read generalizing steps with
  | @close isFirst cs rest shown =>
      obtain ⟨steps, rfl⟩ := Nat.exists_eq_add_of_le' (Nat.le_of_add_left_le enough)
      have within := length_skipBlanks_le cs
      rw [shown, List.length_cons] at within
      exact ⟨steps, by omega, skipOpen_close shown _⟩
  | @cons isFirst cs inner later rest c value values part notClose read others ih =>
      obtain ⟨steps, rfl⟩ := Nat.exists_eq_add_of_le' (Nat.le_of_add_left_le enough)
      obtain ⟨text, shown, within, parts⟩ := skipOpen_part .list part rfl notClose
      rw [← shown, readValue_skipBlanks] at read
      obtain ⟨left, few, passed⟩ := skips read steps (.list :: outer) (by omega)
      rw [parts, skipPart, passed]
      exact ih left few

theorem PairsRead.skips (skips : Skips depth) {members : List (String × Json)}
    (read : PairsRead (readValue depth) isFirst cs members rest) (steps : Nat) (outer : List Frame)
    (enough : 2 * cs.length + 1 ≤ steps) :
    ∃ left, 2 * rest.length + 1 ≤ left ∧
      skipOpen steps (.more !isFirst) (.object :: outer) cs =
        skipOpen left (.more true) outer rest := by
  induction read generalizing steps with
  | @close isFirst cs rest shown =>
      obtain ⟨steps, rfl⟩ := Nat.exists_eq_add_of_le' (Nat.le_of_add_left_le enough)
      have within := length_skipBlanks_le cs
      rw [shown, List.length_cons] at within
      exact ⟨steps, by omega, skipOpen_close shown _⟩
  | @cons isFirst cs inner afterKey afterColon later rest key v members part named colon read others
      ih =>
      obtain ⟨steps, rfl⟩ := Nat.exists_eq_add_of_le' (Nat.le_of_add_left_le enough)
      obtain ⟨text, shown, within, parts⟩ := skipOpen_part .object part rfl (by decide)
      obtain ⟨name, split, -, -, skipsName⟩ := readText_takes named
      have named : skipName text = .ok afterColon := by
        simp only [skipName, shown, skipsName, bind_eq_ok_iff]
        exact ⟨afterKey, rfl, readColon_eq_ok_iff.mpr colon⟩
      have shorter : afterColon.length ≤ text.length := by
        have first := length_skipBlanks_le text
        have second := length_skipBlanks_le afterKey
        rw [shown, split] at first
        rw [colon] at second
        simp only [List.length_cons, List.length_append] at first second
        omega
      obtain ⟨left, few, passed⟩ := skips read steps (.object :: outer) (by omega)
      obtain ⟨left', few', passed'⟩ := ih left few
      refine ⟨left', few', ?_⟩
      rw [parts, skipPart, named]
      exact passed.trans passed'

theorem skips (depth : Nat) : Skips depth := by
  induction depth using Nat.strong_induction_on with
  | _ depth shallower =>
      intro cs v rest read steps frames enough
      have shorter := length_of_readValue read
      obtain ⟨steps, rfl⟩ := Nat.exists_eq_add_of_le' (show 1 ≤ steps by omega)
      cases valueRead_of_readValue read with
      | word word known shown => exact ⟨steps, by omega, skipOpen_word known shown⟩
      | negative shown read =>
          obtain ⟨c, used, takes⟩ := readNumber_takes read
          refine ⟨steps, by omega, ?_⟩
          simp [skipOpen, shown, takes.skips, bind, Except.bind]
      | positive shown digit read =>
          obtain ⟨c, used, takes⟩ := readNumber_takes read
          refine ⟨steps, by omega, ?_⟩
          simp [skipOpen, shown, digit, takes.skips, bind, Except.bind, ne_mark_of_isDigit digit]
      | string shown read =>
          obtain ⟨body, -, -, -, skipsBody⟩ := readText_takes read
          refine ⟨steps, by omega, ?_⟩
          simp [skipOpen, shown, skipsBody, bind, Except.bind, Char.isDigit]
      | @array depth _ inner _ items shown read =>
          have within := length_skipBlanks_le cs
          rw [shown, List.length_cons] at within
          obtain ⟨left, few, passed⟩ := read.skips (shallower depth depth.lt_succ_self) steps frames
            (by omega)
          refine ⟨left, few, ?_⟩
          rw [← passed]
          simp [skipOpen, shown, Char.isDigit]
      | @object depth _ inner _ members shown read =>
          have within := length_skipBlanks_le cs
          rw [shown, List.length_cons] at within
          obtain ⟨left, few, passed⟩ := read.skips (shallower depth depth.lt_succ_self) steps frames
            (by omega)
          refine ⟨left, few, ?_⟩
          rw [← passed]
          simp [skipOpen, shown, Char.isDigit]

/-- What is read as a value is passed over as far as it is read. -/
theorem skipValue_of_readValue (read : readValue depth cs = .ok (v, rest)) :
    skipValue cs = .ok rest := by
  obtain ⟨left, few, passed⟩ := skips depth read (2 * cs.length + 2) [] (by omega)
  obtain ⟨left, rfl⟩ := Nat.exists_eq_add_of_le' (show 1 ≤ left by omega)
  rw [skipValue, passed, skipOpen]

/-- How deep a value may nest makes no difference to what is taken. -/
theorem readValue_rest_unique {depth' : Nat} {v' : Json} {rest' : List Char}
    (read : readValue depth cs = .ok (v, rest)) (read' : readValue depth' cs = .ok (v', rest')) :
    rest = rest' := by
  have same := skipValue_of_readValue read
  rw [skipValue_of_readValue read'] at same
  exact (Except.ok.inj same).symm

end StudyDesk.Json
