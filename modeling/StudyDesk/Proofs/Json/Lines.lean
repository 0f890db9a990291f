/-
Module: StudyDesk.Proofs.Json.Lines
Purpose: A value does not go on over the end of a line when the text after it is a JSON text.
Main exports:
  StandsAlone, standsAlone_of_parse, KeepsLine, keepsLine, skipBlanks_ne_of_begun
-/
import StudyDesk.Proofs.Json.Skipping

namespace StudyDesk.Json

variable {depth : Nat} {isFirst : Bool} {v : Json} {line : List Char}
variable {cs inner rest front : List Char}

/-! ### Texts that stand alone -/

/-- The marks that hold a container together. -/
def marks : List Char := [']', '}', ',', ':']

theorem mem_marks_not_blank {c : Char} (mark : c ∈ marks) : Text.isBlank c = false := by
  simp only [marks, List.mem_cons, List.not_mem_nil, or_false] at mark
  rcases mark with rfl | rfl | rfl | rfl <;> decide

theorem not_blank_of_mark {mark : Char} (isMark : mark ∈ marks)
    (shown : skipBlanks cs = mark :: inner) : ¬ ∀ c ∈ cs, Text.isBlank c = true := by
  intro blank
  have member : mark ∈ skipBlanks cs := by
    rw [shown]
    exact List.mem_cons_self
  have isBlank := blank mark ((List.dropWhile_sublist isSpace).mem member)
  rw [mem_marks_not_blank isMark] at isBlank
  cases isBlank

theorem ItemsRead.not_blank {items : List Json}
    (read : ItemsRead (readValue depth) false cs items rest) :
    ¬ ∀ c ∈ cs, Text.isBlank c = true := by
  cases read with
  | close shown => exact not_blank_of_mark (by decide) shown
  | cons part =>
      obtain ⟨after, comma, -⟩ := partAt_false_iff.mp part
      exact not_blank_of_mark (by decide) comma

theorem PairsRead.not_blank {members : List (String × Json)}
    (read : PairsRead (readValue depth) false cs members rest) :
    ¬ ∀ c ∈ cs, Text.isBlank c = true := by
  cases read with
  | close shown => exact not_blank_of_mark (by decide) shown
  | cons part =>
      obtain ⟨after, comma, -⟩ := partAt_false_iff.mp part
      exact not_blank_of_mark (by decide) comma

/-- A value begins with no mark. -/
theorem shows_of_readValue (read : readValue depth cs = .ok (v, rest)) :
    ∃ c inner, skipBlanks cs = c :: inner ∧ c ∉ marks := by
  cases valueRead_of_readValue read with
  | word word known shown =>
      simp only [words, List.mem_cons, Prod.mk.injEq, List.not_mem_nil, or_false] at known
      rcases known with ⟨rfl, -⟩ | ⟨rfl, -⟩ | ⟨rfl, -⟩ <;> exact ⟨_, _, shown, by decide⟩
  | negative shown => exact ⟨_, _, shown, by decide⟩
  | @positive _ _ inner _ c _ shown digit =>
      refine ⟨c, inner, shown, fun mark => ?_⟩
      simp only [marks, List.mem_cons, List.not_mem_nil, or_false] at mark
      rcases mark with rfl | rfl | rfl | rfl <;> exact absurd digit (by decide)
  | string shown => exact ⟨_, _, shown, by decide⟩
  | array shown => exact ⟨_, _, shown, by decide⟩
  | object shown => exact ⟨_, _, shown, by decide⟩

/-- Whatever value is read off the text, only blanks are left, and no container could go on with the
text. -/
structure StandsAlone (text : List Char) : Prop where
  leavesBlanks : ∀ {depth v rest}, readValue depth text = .ok (v, rest) →
    ∀ c ∈ rest, Text.isBlank c = true
  noMark : ∀ {c inner}, skipBlanks text = c :: inner → c ∉ marks

theorem endsNumber_of_blank {after : List Char} (blank : ∀ c ∈ after, Text.isBlank c = true) :
    EndsNumber after := by
  cases after with
  | nil => simp [EndsNumber]
  | cons c after =>
      have isBlank := blank c List.mem_cons_self
      refine endsNumber_cons ⟨?_, ?_, ?_, ?_⟩ after
      · by_contra digit
        rw [isBlank_of_isDigit (Bool.not_eq_false _ ▸ digit)] at isBlank
        cases isBlank
      all_goals
        rintro rfl
        exact absurd isBlank (by decide)

/-- What a value shows first is not blank. -/
theorem not_blank_of_readValue {c : Char} (read : readValue depth cs = .ok (v, rest))
    (shown : skipBlanks cs = c :: inner) : Text.isBlank c = false := by
  obtain ⟨core, taken, spells⟩ := exists_spelling depth read
  have first := spells.trimmed.1
  cases core with
  | nil => exact absurd rfl spells.nonempty
  | cons d core =>
      rw [shown, List.cons_append] at taken
      obtain ⟨rfl, -⟩ := List.cons.inj taken
      exact first

/-- Blanks that JSON does not know show in front of what follows them. -/
theorem skipBlanks_of_foreign {before : List Char} (blank : ∀ c ∈ before, Text.isBlank c = true)
    (foreign : ¬ ∀ c ∈ before, isSpace c = true) (cs : List Char) :
    ∃ c inner, skipBlanks (before ++ cs) = c :: inner ∧ Text.isBlank c = true := by
  have left : before.dropWhile isSpace ≠ [] := fun nothing =>
    foreign (List.dropWhile_eq_nil_iff.mp nothing)
  obtain ⟨c, inner, shown⟩ := List.exists_cons_of_ne_nil left
  have member : c ∈ before := (List.dropWhile_sublist isSpace).mem (by simp [shown])
  refine ⟨c, inner ++ cs, ?_, blank c member⟩
  simp [skipBlanks, List.dropWhile_append, shown]

/-- A text stands alone when it is a JSON text between blanks of any kind. -/
theorem standsAlone_of_parse {text : List Char} (parsed : parse (Text.trimChars text) = .ok v) :
    StandsAlone text := by
  obtain ⟨before, after, split, blank, blank'⟩ := Text.exists_blanks_around text
  obtain ⟨gap, core, gap', whole, spells, space, space'⟩ := exists_spelling_of_parse parsed
  rw [whole, List.append_assoc, List.append_assoc, List.append_assoc, ← List.append_assoc] at split
  have blank : ∀ c ∈ before ++ gap, Text.isBlank c = true :=
    List.forall_mem_append.mpr ⟨blank, fun c member => isBlank_of_isSpace (space c member)⟩
  have blank' : ∀ c ∈ gap' ++ after, Text.isBlank c = true :=
    List.forall_mem_append.mpr ⟨fun c member => isBlank_of_isSpace (space' c member), blank'⟩
  by_cases spaced : ∀ c ∈ before ++ gap, isSpace c = true
  · have read : readValue depthLimit text = .ok (v, gap' ++ after) := by
      rw [split, readValue_append spaced]
      exact spells.reads _ (endsNumber_of_blank blank')
    constructor
    · intro depth v' rest read'
      rw [← readValue_rest_unique read read']
      exact blank'
    · intro c inner shown
      obtain ⟨d, more, shown', noMark⟩ := shows_of_readValue read
      rw [shown] at shown'
      obtain ⟨rfl, -⟩ := List.cons.inj shown'
      exact noMark
  · obtain ⟨c, inner, shown, isBlank⟩ := skipBlanks_of_foreign blank spaced (core ++ (gap' ++ after))
    rw [← split] at shown
    constructor
    · intro depth v' rest read
      rw [not_blank_of_readValue read shown] at isBlank
      cases isBlank
    · intro d more shown' mark
      rw [shown] at shown'
      obtain ⟨rfl, -⟩ := List.cons.inj shown'
      rw [mem_marks_not_blank mark] at isBlank
      cases isBlank

/-! ### From line to line -/

/-- What has no line break cannot reach over the end of a line. -/
theorem suffix_of_append (noBreak : '\n' ∉ front) (after : '\n' :: line <:+ front ++ rest) :
    '\n' :: line <:+ rest := by
  induction front with
  | nil => exact after
  | cons c front ih =>
      rw [List.cons_append, List.suffix_cons_iff] at after
      rcases after with same | after
      · exact absurd (List.cons.inj same).1 fun isBreak =>
          noBreak (isBreak ▸ List.mem_cons_self)
      · exact ih (fun member => noBreak (List.mem_cons_of_mem c member)) after

theorem noBreak_of_dense (dense : ∀ c ∈ front, Text.isBlank c = false) : '\n' ∉ front := by
  intro member
  have isBlank := dense '\n' member
  revert isBlank
  decide

theorem suffix_skipBlanks (after : '\n' :: line <:+ cs) :
    '\n' :: line <:+ skipBlanks cs ∨ skipBlanks cs = skipBlanks line := by
  obtain ⟨before, rfl⟩ := after
  rw [skipBlanks, List.dropWhile_append]
  split_ifs
  · exact .inr rfl
  · exact .inl (List.suffix_append _ _)

/-- A value that is read off a text before a line ends there as well, or it is read off the line. -/
def KeepsLine (line : List Char) (depth : Nat) : Prop :=
  ∀ {cs v rest}, readValue depth cs = .ok (v, rest) → '\n' :: line <:+ cs →
    '\n' :: line <:+ rest ∨ skipBlanks cs = skipBlanks line

section Containers

variable (alone : StandsAlone line)
include alone

theorem StandsAlone.leavesBlanks_of_skipBlanks (read : readValue depth cs = .ok (v, rest))
    (same : skipBlanks cs = skipBlanks line) : ∀ c ∈ rest, Text.isBlank c = true := by
  rw [← readValue_skipBlanks, same, readValue_skipBlanks] at read
  exact alone.leavesBlanks read

/-- A mark is not found on the line. -/
theorem StandsAlone.suffix_of_mark {mark : Char} (isMark : mark ∈ marks)
    (shown : skipBlanks cs = mark :: rest) (after : '\n' :: line <:+ cs) :
    '\n' :: line <:+ rest := by
  rcases suffix_skipBlanks after with before | same
  · rw [shown] at before
    refine suffix_of_append ?_ (show '\n' :: line <:+ [mark] ++ rest from before)
    intro isBreak
    rw [← List.mem_singleton.mp isBreak] at isMark
    exact absurd isMark (by decide)
  · exact absurd isMark (alone.noMark (same.symm.trans shown))

theorem StandsAlone.suffix_of_part (part : PartAt isFirst cs here) (after : '\n' :: line <:+ cs) :
    '\n' :: line <:+ here ∨ here = skipBlanks line := by
  cases part with
  | first shown =>
      rw [← shown]
      exact suffix_skipBlanks after
  | next comma shown =>
      rw [← shown]
      exact suffix_skipBlanks (alone.suffix_of_mark (by decide) comma after)

/-- A list that was begun before the line ends before it. -/
theorem ItemsRead.keepsLine (keeps : KeepsLine line depth) {items : List Json}
    (read : ItemsRead (readValue depth) isFirst cs items rest) (after : '\n' :: line <:+ cs) :
    '\n' :: line <:+ rest := by
  induction read with
  | close shown => exact alone.suffix_of_mark (by decide) shown after
  | @cons isFirst cs inner later rest c value values part notClose read others ih =>
      -- an item read off the line would leave only blanks, and the list could not go on
      have notLine : skipBlanks (c :: inner) ≠ skipBlanks line := fun same =>
        others.not_blank (alone.leavesBlanks_of_skipBlanks read same)
      rcases alone.suffix_of_part part after with before | here
      · rcases keeps read before with before | same
        · exact ih before
        · exact absurd same notLine
      · rw [← skipBlanks_cons part.isSpace_eq_false] at here
        exact absurd here notLine

/-- An object that was begun before the line ends before it. -/
theorem PairsRead.keepsLine (keeps : KeepsLine line depth) {members : List (String × Json)}
    (read : PairsRead (readValue depth) isFirst cs members rest) (after : '\n' :: line <:+ cs) :
    '\n' :: line <:+ rest := by
  induction read with
  | close shown => exact alone.suffix_of_mark (by decide) shown after
  | @cons isFirst cs inner afterKey afterColon later rest key v members part named colon read others
      ih =>
      obtain ⟨body, split, noBreak, -, -⟩ := readText_takes named
      rcases alone.suffix_of_part part after with before | here
      · have named : '\n' :: line <:+ '"' :: (body ++ ['"']) ++ afterKey := by
          rw [split] at before
          simpa using before
        have before := suffix_of_append (by simp [noBreak]) named
        rcases keeps read (alone.suffix_of_mark (by decide) colon before) with before | same
        · exact ih before
        · exact absurd (alone.leavesBlanks_of_skipBlanks read same) others.not_blank
      · -- a name read off the line would be a text, which leaves only blanks
        rw [← skipBlanks_cons part.isSpace_eq_false] at here
        exact absurd (alone.leavesBlanks_of_skipBlanks (readValue_of_readText 0 named) here)
          (not_blank_of_mark (by decide) colon)

end Containers

theorem keepsLine (alone : StandsAlone line) (depth : Nat) : KeepsLine line depth := by
  induction depth using Nat.strong_induction_on with
  | _ depth shallower =>
      intro cs v rest read after
      rcases suffix_skipBlanks after with before | same
      · left
        cases valueRead_of_readValue read with
        | word word known shown =>
            have noBreak : '\n' ∉ word := by
              simp only [words, List.mem_cons, Prod.mk.injEq, List.not_mem_nil, or_false] at known
              rcases known with ⟨rfl, -⟩ | ⟨rfl, -⟩ | ⟨rfl, -⟩ <;> decide
            exact suffix_of_append noBreak (shown ▸ before)
        | negative shown read =>
            obtain ⟨c, used, takes⟩ := readNumber_takes read
            have inside : '\n' :: line <:+ '-' :: c :: used ++ rest := by
              rw [shown, takes.split] at before
              exact before
            exact suffix_of_append
              (noBreak_of_dense (List.forall_mem_cons.mpr ⟨by decide, takes.dense⟩)) inside
        | positive shown digit read =>
            obtain ⟨c, used, takes⟩ := readNumber_takes read
            rw [shown, takes.split] at before
            exact suffix_of_append (noBreak_of_dense takes.dense) before
        | string shown read =>
            obtain ⟨body, split, noBreak, -, -⟩ := readText_takes read
            have inside : '\n' :: line <:+ '"' :: (body ++ ['"']) ++ rest := by
              rw [shown, split] at before
              simpa using before
            exact suffix_of_append (by simp [noBreak]) inside
        | @array depth _ _ _ items shown read =>
            have inside : '\n' :: line <:+ ['['] ++ _ := shown ▸ before
            exact read.keepsLine alone (shallower depth depth.lt_succ_self)
              (suffix_of_append (by decide) inside)
        | @object depth _ _ _ members shown read =>
            have inside : '\n' :: line <:+ ['{'] ++ _ := shown ▸ before
            exact read.keepsLine alone (shallower depth depth.lt_succ_self)
              (suffix_of_append (by decide) inside)
      · exact .inr same

/-- Something that is not blank before the line shows first. -/
theorem skipBlanks_ne_of_begun {first : List Char} (begun : ∃ c ∈ first, isSpace c = false)
    (line : List Char) : skipBlanks (first ++ '\n' :: line) ≠ skipBlanks line := by
  intro same
  obtain ⟨c, member, notSpace⟩ := begun
  have kept : first.dropWhile isSpace ≠ [] := fun nothing => by
    rw [List.dropWhile_eq_nil_iff.mp nothing c member] at notSpace
    cases notSpace
  have within := length_skipBlanks_le line
  rw [← same, skipBlanks, List.dropWhile_append, if_neg (by simpa using kept)] at within
  simp only [List.length_append, List.length_cons] at within
  omega

end StudyDesk.Json
