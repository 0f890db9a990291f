/-
Module: StudyDesk.Proofs.Json.Extent
Purpose: What a value takes of a text: characters that spell it wherever they stand.
Main exports:
  readText_takes, Spells, exists_spelling, exists_spelling_of_parse, parse_trimChars
-/
import StudyDesk.Proofs.Json.Numerals
import StudyDesk.Proofs.Text.Trimming

namespace StudyDesk.Json

variable {depth : Nat} {isFirst : Bool} {v : Json} {cs inner rest : List Char}

/-! ### Texts -/

/-- What passing over a text knows of where its reader stands: whether a backslash came before, and
how many hexadecimal digits are due. -/
def Spot.outline : Spot → Bool × Nat
  | .plain => (false, 0)
  | .escape => (true, 0)
  | .hex left _ _ => (false, max left 1)
  | .wantBackslash _ => (false, 0)
  | .wantLetter _ => (true, 0)

/-- A character leads from one spot to another, in reading and in passing over alike, whatever
follows.  A line break leads nowhere. -/
structure Leads (spot : Spot) (done : List Char) (c : Char) (next : Spot) (now : List Char) :
    Prop where
  notBreak : c ≠ '\n'
  reads : ∀ more, readBody spot done (c :: more) = readBody next now more
  skips : ∀ more, skipBody spot.outline.1 spot.outline.2 (c :: more) =
    skipBody next.outline.1 next.outline.2 more

variable {spot : Spot} {done : List Char} {c : Char} {found : List Char × List Char}

theorem leads_of_escape (read : readBody .escape done (c :: cs) = .ok found) :
    ∃ next now, Leads .escape done c next now := by
  have notBreak : c ≠ '\n' := by
    rintro rfl
    simp [readBody, simpleEscape?, failAt] at read
  simp only [readBody] at read
  split_ifs at read with unit
  · subst unit
    exact ⟨.hex 4 0 none, done, notBreak, fun _ => by simp [readBody],
      fun _ => by simp [skipBody, Spot.outline]⟩
  · cases letter : simpleEscape? c with
    | none => simp [letter, failAt] at read
    | some d =>
        exact ⟨.plain, d :: done, notBreak, fun _ => by simp [readBody, unit, letter],
          fun _ => by simp [skipBody, Spot.outline, unit, letter]⟩

theorem leads_of_hex {left unit : Nat} {lead : Option Nat}
    (read : readBody (.hex left unit lead) done (c :: cs) = .ok found) :
    ∃ next now, Leads (.hex left unit lead) done c next now := by
  have notBreak : c ≠ '\n' := by
    rintro rfl
    simp [readBody, show Text.hexDigit? '\n' = none by decide] at read
  cases value : Text.hexDigit? c with
  | none => simp [readBody, value] at read
  | some d =>
      have due : max left 1 ≠ 0 := by omega
      have skips (more : List Char) :
          skipBody (Spot.hex left unit lead).outline.1 (Spot.hex left unit lead).outline.2
              (c :: more) = skipBody false (max left 1 - 1) more := by
        simp [skipBody, Spot.outline, value, due]
      simp only [readBody, value] at read
      by_cases further : 1 < left
      · have fewer : max left 1 - 1 = max (left - 1) 1 := by omega
        exact ⟨.hex (left - 1) (unit * 16 + d) lead, done, notBreak,
          fun _ => by simp [readBody, value, further], fun more => by rw [skips, fewer]; rfl⟩
      · have fewer : max left 1 - 1 = 0 := by omega
        rw [if_neg further] at read
        cases lead with
        | none =>
            simp only at read
            split_ifs at read with trail high
            · exact ⟨.wantBackslash (unit * 16 + d), done, notBreak,
                fun _ => by simp [readBody, value, further, trail, high],
                fun more => by rw [skips, fewer]; rfl⟩
            · exact ⟨.plain, Char.ofNat (unit * 16 + d) :: done, notBreak,
                fun _ => by simp [readBody, value, further, trail, high],
                fun more => by rw [skips, fewer]; rfl⟩
        | some high =>
            simp only at read
            split_ifs at read with trail
            refine ⟨.plain,
              Char.ofNat ((high - 0xD800) * 0x400 + (unit * 16 + d - 0xDC00) + 0x10000) :: done,
              notBreak, ?_, fun more => by rw [skips, fewer]; rfl⟩
            simp [readBody, value, further, trail]

/-- One step inside a text: it ends at its quote, or the next character leads on. -/
theorem readBody_step (read : readBody spot done (c :: cs) = .ok found) :
    (spot = .plain ∧ c = '"' ∧ found = (done.reverse, cs)) ∨
      ∃ next now, Leads spot done c next now := by
  cases spot with
  | plain =>
      simp only [readBody] at read
      split_ifs at read with quote backslash control
      · exact .inl ⟨rfl, quote, (Except.ok.inj read).symm⟩
      · subst backslash
        exact .inr ⟨.escape, done, by decide, fun _ => by simp [readBody], fun _ => by
          simp [skipBody, Spot.outline]⟩
      · cases read
      · refine .inr ⟨.plain, c :: done, ?_, ?_, ?_⟩
        · rintro rfl
          exact control (by decide)
        · simp [readBody, quote, backslash, control]
        · simp [skipBody, Spot.outline, quote, backslash, control]
  | escape => exact .inr (leads_of_escape read)
  | hex left unit lead => exact .inr (leads_of_hex read)
  | wantBackslash high =>
      simp only [readBody] at read
      split_ifs at read with backslash
      · subst backslash
        exact .inr ⟨.wantLetter high, done, by decide, fun _ => by simp [readBody],
          fun _ => by simp [skipBody, Spot.outline]⟩
      · cases read
  | wantLetter high =>
      simp only [readBody] at read
      split_ifs at read with unit
      · subst unit
        exact .inr ⟨.hex 4 0 (some high), done, by decide, fun _ => by simp [readBody],
          fun _ => by simp [skipBody, Spot.outline]⟩
      · cases read

/-- A text goes up to its closing quote, and passing over it goes just as far. -/
theorem readBody_takes {s : List Char}
    (read : readBody spot done cs = .ok (s, rest)) :
    ∃ body, cs = body ++ '"' :: rest ∧ '\n' ∉ body ∧
      (∀ more, readBody spot done (body ++ '"' :: more) = .ok (s, more)) ∧
      skipBody spot.outline.1 spot.outline.2 cs = .ok rest := by
  induction cs generalizing spot done with
  | nil => cases spot <;> cases read
  | cons c cs ih =>
      rcases readBody_step read with ⟨rfl, rfl, found⟩ | ⟨next, now, leads⟩
      · obtain ⟨rfl, rfl⟩ := Prod.mk.inj found
        exact ⟨[], rfl, List.not_mem_nil, fun _ => by simp [readBody],
          by simp [skipBody, Spot.outline]⟩
      · rw [leads.reads] at read
        obtain ⟨body, rfl, noBreak, readsBody, skipsBody⟩ := ih read
        refine ⟨c :: body, rfl, ?_, ?_, ?_⟩
        · simp [leads.notBreak.symm, noBreak]
        · intro more
          rw [List.cons_append, leads.reads, readsBody]
        · rw [leads.skips, skipsBody]

theorem readText_takes {s : String} (read : readText cs = .ok (s, rest)) :
    ∃ body, cs = body ++ '"' :: rest ∧ '\n' ∉ body ∧
      (∀ more, readText (body ++ '"' :: more) = .ok (s, more)) ∧ skipBody false 0 cs = .ok rest := by
  obtain ⟨⟨chars, after⟩, inside, same⟩ := map_eq_ok_iff.mp read
  obtain ⟨rfl, rfl⟩ := Prod.mk.inj same
  obtain ⟨body, split, noBreak, reads, skips⟩ := readBody_takes inside
  exact ⟨body, split, noBreak, fun more => by rw [readText, reads]; rfl, skips⟩

/-- Behind a quote a text is a value. -/
theorem readValue_of_readText (depth : Nat) {s : String} (read : readText cs = .ok (s, rest)) :
    readValue depth ('"' :: cs) = .ok (.string s, rest) := by
  rw [readValue_quote, read]
  rfl

/-! ### Blanks -/

theorem isBlank_of_isSpace {c : Char} (space : isSpace c = true) : Text.isBlank c = true := by
  simp only [isSpace, Bool.or_eq_true, decide_eq_true_eq] at space
  rcases space with ((rfl | rfl) | rfl) | rfl <;> decide

theorem isSpace_of_skipBlanks {c : Char} (shown : skipBlanks cs = c :: inner) :
    isSpace c = false := by
  have first := List.head?_dropWhile_not isSpace cs
  rw [← skipBlanks, shown] at first
  simpa using first

theorem exists_gap (cs : List Char) :
    ∃ gap, cs = gap ++ skipBlanks cs ∧ ∀ c ∈ gap, isSpace c = true :=
  ⟨cs.takeWhile isSpace, List.takeWhile_append_dropWhile.symm, fun _ => List.mem_takeWhile_imp⟩

theorem all_isSpace_of_skipBlanks (nothing : skipBlanks cs = []) : ∀ c ∈ cs, isSpace c = true :=
  List.dropWhile_eq_nil_iff.mp nothing

theorem PartAt.isSpace_eq_false {c : Char} (part : PartAt isFirst cs (c :: inner)) :
    isSpace c = false := by
  cases part with
  | first shown => exact isSpace_of_skipBlanks shown
  | next comma shown => exact isSpace_of_skipBlanks shown

/-- What stands before a part of a container goes with any part that begins alike. -/
theorem PartAt.replace {c : Char} (part : PartAt isFirst cs (c :: inner)) :
    ∃ front, cs = front ++ c :: inner ∧ ∀ more, PartAt isFirst (front ++ c :: more) (c :: more) := by
  cases part with
  | first shown =>
      obtain ⟨gap, split, blank⟩ := exists_gap cs
      rw [shown] at split
      refine ⟨gap, split, fun more => .first ?_⟩
      rw [skipBlanks_append blank, skipBlanks_cons (isSpace_of_skipBlanks shown)]
  | @next _ after _ comma shown =>
      obtain ⟨gap, split, blank⟩ := exists_gap cs
      obtain ⟨gap', split', blank'⟩ := exists_gap after
      rw [comma, split', shown] at split
      refine ⟨gap ++ ',' :: gap', by rw [split]; simp, fun more => ?_⟩
      refine @PartAt.next _ (gap' ++ c :: more) _ ?_ ?_
      · rw [List.append_assoc, skipBlanks_append blank]
        rfl
      · rw [skipBlanks_append blank', skipBlanks_cons (isSpace_of_skipBlanks shown)]

theorem endsNumber_of_skipBlanks {c : Char} (shown : skipBlanks cs = c :: inner)
    (ends : c.isDigit = false ∧ c ≠ '.' ∧ c ≠ 'e' ∧ c ≠ 'E') : EndsNumber cs := by
  obtain ⟨gap, split, blank⟩ := exists_gap cs
  rw [split, shown]
  exact endsNumber_append blank (endsNumber_cons ends inner)

/-! ### Values -/

/-- A text that spells a value: no blank is around it, and it is read as the value in front of
anything that does not go on with a number. -/
structure Spells (depth : Nat) (core : List Char) (v : Json) : Prop where
  nonempty : core ≠ []
  trimmed : Text.IsTrimmed core
  reads : ∀ more, EndsNumber more → readValue depth (core ++ more) = .ok (v, more)

theorem isTrimmed_between {first last : Char} (firstNotBlank : Text.isBlank first = false)
    (lastNotBlank : Text.isBlank last = false) (middle : List Char) :
    Text.IsTrimmed (first :: (middle ++ [last])) := by
  constructor
  · simp [firstNotBlank]
  · rw [← List.cons_append, List.getLast?_append_of_ne_nil _ (List.cons_ne_nil last [])]
    simp [lastNotBlank]

theorem isTrimmed_of_dense {core : List Char} (dense : ∀ c ∈ core, Text.isBlank c = false) :
    Text.IsTrimmed core := by
  constructor
  · cases shown : core.head? with
    | none => rfl
    | some c => exact dense c (List.mem_of_mem_head? shown)
  · cases shown : core.getLast? with
    | none => rfl
    | some c => exact dense c (List.mem_of_mem_getLast? shown)

theorem readValue_minus (cs : List Char) :
    readValue depth ('-' :: cs) = (readNumber true cs).map fun r => (.number r.1, r.2) := by
  rw [readValue, skipBlanks_cons (by decide)]
  rfl

theorem readValue_digit {c : Char} (digit : c.isDigit = true) (cs : List Char) :
    readValue depth (c :: cs) = (readNumber false (c :: cs)).map fun r => (.number r.1, r.2) := by
  have notSpace : isSpace c = false := by
    by_contra space
    have blank := isBlank_of_isSpace (Bool.not_eq_false _ ▸ space)
    rw [isBlank_of_isDigit digit] at blank
    cases blank
  rw [readValue, skipBlanks_cons notSpace]
  simp only [digit, if_true, if_false, ne_mark_of_isDigit digit]

theorem spells_word {word : List Char} (known : (word, v) ∈ words) : Spells depth word v := by
  simp only [words, List.mem_cons, Prod.mk.injEq, List.not_mem_nil, or_false] at known
  rcases known with ⟨rfl, rfl⟩ | ⟨rfl, rfl⟩ | ⟨rfl, rfl⟩ <;>
    exact ⟨List.cons_ne_nil _ _, ⟨by decide, by decide⟩, fun more _ => by rw [readValue]; rfl⟩

theorem spells_negative {n : Number} {used : List Char}
    (takes : Takes (readNumber true) skipNumber cs n rest used) :
    Spells depth ('-' :: used) (.number n) where
  nonempty := List.cons_ne_nil _ _
  trimmed := isTrimmed_of_dense (List.forall_mem_cons.mpr ⟨by decide, takes.dense⟩)
  reads := by
    intro more ends
    rw [List.cons_append, readValue_minus, takes.reads more ends]
    rfl

theorem spells_positive {n : Number} {c : Char} {used : List Char} (digit : c.isDigit = true)
    (takes : Takes (readNumber false) skipNumber cs n rest (c :: used)) :
    Spells depth (c :: used) (.number n) where
  nonempty := List.cons_ne_nil _ _
  trimmed := isTrimmed_of_dense takes.dense
  reads := by
    intro more ends
    rw [List.cons_append, readValue_digit digit, ← List.cons_append, takes.reads more ends]
    rfl

theorem spells_string {s : String} {body : List Char}
    (reads : ∀ more, readText (body ++ '"' :: more) = .ok (s, more)) :
    Spells depth ('"' :: (body ++ ['"'])) (.string s) where
  nonempty := List.cons_ne_nil _ _
  trimmed := isTrimmed_between (by decide) (by decide) body
  reads := by
    intro more _
    rw [List.cons_append, List.append_assoc, readValue_quote]
    simp [reads more, Except.map]

/-- Every value that is read off a text is spelled there. -/
def IsSpelled (depth : Nat) : Prop :=
  ∀ {cs v rest}, readValue depth cs = .ok (v, rest) →
    ∃ core, skipBlanks cs = core ++ rest ∧ Spells depth core v

theorem IsSpelled.cons (spelled : IsSpelled depth) {c : Char} (notSpace : isSpace c = false)
    (read : readValue depth (c :: inner) = .ok (v, rest)) :
    ∃ core, inner = core ++ rest ∧ Spells depth (c :: core) v := by
  obtain ⟨core, taken, spells⟩ := spelled read
  rw [skipBlanks_cons notSpace] at taken
  cases core with
  | nil => exact absurd rfl spells.nonempty
  | cons first core =>
      obtain ⟨rfl, split⟩ := List.cons.inj taken
      exact ⟨core, split, spells⟩

theorem ItemsRead.endsNumber {items : List Json}
    (read : ItemsRead (readValue depth) false cs items rest) : EndsNumber cs := by
  cases read with
  | close shown => exact endsNumber_of_skipBlanks shown (by decide)
  | cons part =>
      obtain ⟨after, comma, -⟩ := partAt_false_iff.mp part
      exact endsNumber_of_skipBlanks comma (by decide)

theorem ItemsRead.spelled (spelled : IsSpelled depth) {items : List Json}
    (read : ItemsRead (readValue depth) isFirst cs items rest) :
    ∃ body, cs = body ++ ']' :: rest ∧ items.length ≤ body.length ∧
      ∀ more, ItemsRead (readValue depth) isFirst (body ++ ']' :: more) items more := by
  induction read with
  | @close isFirst cs rest shown =>
      obtain ⟨gap, split, blank⟩ := exists_gap cs
      refine ⟨gap, by rw [← shown, ← split], Nat.zero_le _, fun more => .close ?_⟩
      rw [skipBlanks_append blank, skipBlanks_cons (by decide)]
  | @cons isFirst cs inner later rest c value values part notClose read others ih =>
      obtain ⟨front, split, parts⟩ := part.replace
      obtain ⟨core, rfl, spells⟩ := spelled.cons part.isSpace_eq_false read
      obtain ⟨body, rfl, few, reads⟩ := ih
      refine ⟨front ++ c :: core ++ body, by simp [split], ?_, fun more => ?_⟩
      · simp only [List.length_cons, List.length_append]
        omega
      · have read := spells.reads (body ++ ']' :: more) (reads more).endsNumber
        have part := parts (core ++ (body ++ ']' :: more))
        simp only [List.cons_append, List.append_assoc] at read part ⊢
        exact .cons part notClose read (reads more)

theorem PairsRead.endsNumber {members : List (String × Json)}
    (read : PairsRead (readValue depth) false cs members rest) : EndsNumber cs := by
  cases read with
  | close shown => exact endsNumber_of_skipBlanks shown (by decide)
  | cons part =>
      obtain ⟨after, comma, -⟩ := partAt_false_iff.mp part
      exact endsNumber_of_skipBlanks comma (by decide)

theorem PairsRead.spelled (spelled : IsSpelled depth) {members : List (String × Json)}
    (read : PairsRead (readValue depth) isFirst cs members rest) :
    ∃ body, cs = body ++ '}' :: rest ∧ members.length ≤ body.length ∧
      ∀ more, PairsRead (readValue depth) isFirst (body ++ '}' :: more) members more := by
  induction read with
  | @close isFirst cs rest shown =>
      obtain ⟨gap, split, blank⟩ := exists_gap cs
      refine ⟨gap, by rw [← shown, ← split], Nat.zero_le _, fun more => .close ?_⟩
      rw [skipBlanks_append blank, skipBlanks_cons (by decide)]
  | @cons isFirst cs inner afterKey afterColon later rest key v members part named colon read others
      ih =>
      obtain ⟨front, split, parts⟩ := part.replace
      obtain ⟨name, rfl, -, names, -⟩ := readText_takes named
      obtain ⟨gap, beforeColon, blank⟩ := exists_gap afterKey
      obtain ⟨gap', beforeValue, blank'⟩ := exists_gap afterColon
      obtain ⟨core, taken, spells⟩ := spelled read
      obtain ⟨body, rfl, few, reads⟩ := ih
      rw [colon] at beforeColon
      rw [taken] at beforeValue
      refine ⟨front ++ '"' :: name ++ '"' :: gap ++ ':' :: gap' ++ core ++ body, ?_, ?_,
        fun more => ?_⟩
      · rw [split, beforeColon, beforeValue]
        simp
      · simp only [List.length_cons, List.length_append]
        omega
      · have read : readValue depth (gap' ++ (core ++ (body ++ '}' :: more))) =
            .ok (v, body ++ '}' :: more) := by
          rw [readValue_append blank']
          exact spells.reads _ (reads more).endsNumber
        have colon : skipBlanks (gap ++ ':' :: (gap' ++ (core ++ (body ++ '}' :: more)))) =
            ':' :: (gap' ++ (core ++ (body ++ '}' :: more))) := by
          rw [skipBlanks_append blank, skipBlanks_cons (by decide)]
        have whole := PairsRead.cons (parts _) (names _) colon read (reads more)
        simpa only [List.append_assoc, List.cons_append] using whole

theorem spells_array (spelled : IsSpelled depth) {items : List Json}
    (read : ItemsRead (readValue depth) true inner items rest) :
    ∃ body, inner = body ++ ']' :: rest ∧
      Spells (depth + 1) ('[' :: (body ++ [']'])) (.array items) := by
  obtain ⟨body, split, few, reads⟩ := read.spelled spelled
  refine ⟨body, split, List.cons_ne_nil _ _, isTrimmed_between (by decide) (by decide) body, ?_⟩
  intro more _
  have enough : items.length < (body ++ ']' :: more).length + 1 := by
    rw [List.length_append]
    omega
  rw [List.cons_append, List.append_assoc, List.singleton_append, readValue_bracket,
    readItems_eq_ok_iff.mpr ⟨reads more, enough⟩]
  rfl

theorem spells_object (spelled : IsSpelled depth) {members : List (String × Json)}
    (read : PairsRead (readValue depth) true inner members rest) :
    ∃ body, inner = body ++ '}' :: rest ∧
      Spells (depth + 1) ('{' :: (body ++ ['}'])) (.object members) := by
  obtain ⟨body, split, few, reads⟩ := read.spelled spelled
  refine ⟨body, split, List.cons_ne_nil _ _, isTrimmed_between (by decide) (by decide) body, ?_⟩
  intro more _
  have enough : members.length < (body ++ '}' :: more).length + 1 := by
    rw [List.length_append]
    omega
  rw [List.cons_append, List.append_assoc, List.singleton_append, readValue_brace,
    readPairs_eq_ok_iff.mpr ⟨members, reads more, enough, rfl⟩]
  simp [Except.map]

/-- The text of a value is read alike wherever it stands. -/
theorem exists_spelling (depth : Nat) : IsSpelled depth := by
  induction depth using Nat.strong_induction_on with
  | _ depth shallower =>
      intro cs v rest read
      cases valueRead_of_readValue read with
      | word word known shown => exact ⟨word, shown, spells_word known⟩
      | negative shown read =>
          obtain ⟨c, used, takes⟩ := readNumber_takes read
          exact ⟨'-' :: c :: used, by rw [shown, takes.split]; rfl, spells_negative takes⟩
      | positive shown digit read =>
          obtain ⟨c, used, takes⟩ := readNumber_takes read
          obtain ⟨rfl, -⟩ := List.cons.inj takes.split
          exact ⟨_, shown.trans takes.split, spells_positive digit takes⟩
      | string shown read =>
          obtain ⟨body, split, -, reads, -⟩ := readText_takes read
          exact ⟨'"' :: (body ++ ['"']), by rw [shown, split]; simp, spells_string reads⟩
      | @array depth _ _ _ items shown read =>
          obtain ⟨body, split, spells⟩ := spells_array (shallower depth depth.lt_succ_self) read
          exact ⟨_, by rw [shown, split]; simp, spells⟩
      | @object depth _ _ _ members shown read =>
          obtain ⟨body, split, spells⟩ := spells_object (shallower depth depth.lt_succ_self) read
          exact ⟨_, by rw [shown, split]; simp, spells⟩

/-! ### Whole texts -/

/-- A JSON text is a value between blanks. -/
theorem exists_spelling_of_parse (parsed : parse cs = .ok v) :
    ∃ before core after, cs = before ++ core ++ after ∧ Spells depthLimit core v ∧
      (∀ c ∈ before, isSpace c = true) ∧ ∀ c ∈ after, isSpace c = true := by
  simp only [parse, bind_eq_ok_iff] at parsed
  obtain ⟨⟨value, rest⟩, read, ⟨⟩, ended, same⟩ := parsed
  obtain rfl := Except.ok.inj same
  obtain ⟨before, split, blank⟩ := exists_gap cs
  obtain ⟨core, taken, spells⟩ := exists_spelling depthLimit read
  refine ⟨before, core, rest, ?_, spells, blank,
    all_isSpace_of_skipBlanks (complete_eq_ok_iff.mp ended)⟩
  rw [List.append_assoc, ← taken]
  exact split

theorem Spells.parse {core : List Char} (spells : Spells depthLimit core v) :
    parse core = .ok v := by
  have read := spells.reads [] (by simp [EndsNumber])
  rw [List.append_nil] at read
  simp only [Json.parse, read, bind_eq_ok_iff]
  exact ⟨(v, []), rfl, (), rfl, rfl⟩

/-- A JSON text stays one when the blanks around it are gone. -/
theorem parse_trimChars (parsed : parse cs = .ok v) : parse (Text.trimChars cs) = .ok v := by
  obtain ⟨before, core, after, rfl, spells, blank, blank'⟩ := exists_spelling_of_parse parsed
  rw [Text.trimChars_between_blanks spells.nonempty spells.trimmed
    (fun c member => isBlank_of_isSpace (blank c member))
    fun c member => isBlank_of_isSpace (blank' c member)]
  exact spells.parse

end StudyDesk.Json
