/-
Module: StudyDesk.Proofs.Json.RoundTrip
Purpose: A written value reads back, whatever the white space of the writer.
Main exports:
  readText_escape, Spacing.IsBlank, Readable, ReadsAsAt, readsAsAt_array, readsAsAt_object,
  readValue_write, parse_write_as, parse_write_append, parse_write
-/
import Mathlib.Data.List.DropRight
import Mathlib.Data.List.Forall2
import StudyDesk.Json.Parser

namespace StudyDesk.Json

/-! ### Texts -/

theorem hexDigit?_hexDigit (n : Nat) : Text.hexDigit? (hexDigit n) = some (n % 16) := by
  have all : ∀ d < 16, Text.hexDigit? (Nat.digitChar d) = some d := by decide
  exact all (n % 16) (Nat.mod_lt n (by decide))

/-- Four digits that spell a control stand for it. -/
theorem readBody_control {c : Char} (control : c.toNat < 0x20) (done rest : List Char) :
    readBody .plain done
        ('\\' :: 'u' :: '0' :: '0' :: hexDigit (c.toNat / 16) :: hexDigit c.toNat :: rest) =
      readBody .plain (c :: done) rest := by
  have zero : Text.hexDigit? '0' = some 0 := by decide
  have spelled : c.toNat / 16 % 16 * 16 + c.toNat % 16 = c.toNat := by omega
  have noTrail : isTrailSurrogate c.toNat = false := by simp [isTrailSurrogate]; omega
  have noLead : isLeadSurrogate c.toNat = false := by simp [isLeadSurrogate]; omega
  simp [readBody, zero, hexDigit?_hexDigit, spelled, noTrail, noLead]

/-- Reading undoes the escaping of one character. -/
theorem readBody_escapeChar (c : Char) (done rest : List Char) :
    readBody .plain done (escapeChar c ++ rest) = readBody .plain (c :: done) rest := by
  have named : ∀ {n : Nat}, c.toNat = n → c = Char.ofNat n := fun same => by
    rw [← same, Char.ofNat_toNat]
  by_cases quote : c = '"'
  · subst quote; simp [escapeChar, readBody, simpleEscape?]
  by_cases backslash : c = '\\'
  · subst backslash; simp [escapeChar, readBody, simpleEscape?]
  by_cases control : c.toNat < 0x20
  · rw [escapeChar, if_neg quote, if_neg backslash, if_pos control]
    split
    case isTrue same => rw [named same]; simp [readBody, simpleEscape?]
    split
    case isTrue same => rw [named same]; simp [readBody, simpleEscape?]
    split
    case isTrue same => rw [named same]; simp [readBody, simpleEscape?]
    split
    case isTrue same => rw [named same]; simp [readBody, simpleEscape?]
    split
    case isTrue same => rw [named same]; simp [readBody, simpleEscape?]
    case isFalse => exact readBody_control control done rest
  · simp [escapeChar, readBody, quote, backslash, control]

theorem readBody_escape (cs done rest : List Char) :
    readBody .plain done (escape cs ++ '"' :: rest) = .ok (done.reverse ++ cs, rest) := by
  induction cs generalizing done with
  | nil => simp [escape, readBody]
  | cons c cs ih =>
      rw [escape, List.flatMap_cons, List.append_assoc, readBody_escapeChar, ← escape, ih,
        List.reverse_cons, List.append_assoc, List.singleton_append]

/-- A text reads back after its opening quote. -/
theorem readText_escape (s : String) (rest : List Char) :
    readText (escape s.toList ++ '"' :: rest) = .ok (s, rest) := by
  rw [readText, readBody_escape, List.reverse_nil, List.nil_append]
  simp [Except.map]

/-! ### White space -/

variable {gap cs rest : List Char} {depth : Nat}

theorem skipBlanks_append (blank : ∀ c ∈ gap, isSpace c = true) (cs : List Char) :
    skipBlanks (gap ++ cs) = skipBlanks cs :=
  List.dropWhile_append_of_pos blank

theorem skipBlanks_cons {c : Char} (notSpace : isSpace c = false) (cs : List Char) :
    skipBlanks (c :: cs) = c :: cs :=
  List.dropWhile_cons_of_neg (by simp [notSpace])

theorem readValue_append (blank : ∀ c ∈ gap, isSpace c = true) (cs : List Char) :
    readValue depth (gap ++ cs) = readValue depth cs := by
  rw [readValue, readValue, skipBlanks_append blank]

theorem readValue_skipBlanks (cs : List Char) :
    readValue depth (skipBlanks cs) = readValue depth cs := by
  have again : skipBlanks (skipBlanks cs) = skipBlanks cs := List.dropWhile_idempotent _ _
  rw [readValue, again, ← readValue]

theorem readValue_quote (cs : List Char) :
    readValue depth ('"' :: cs) = (readText cs).map fun r => (.string r.1, r.2) := by
  rw [readValue, skipBlanks_cons (by decide)]
  rfl

theorem readValue_bracket (cs : List Char) :
    readValue (depth + 1) ('[' :: cs) =
      (readItems (readValue depth) (cs.length + 1) true cs).map fun r => (.array r.1, r.2) := by
  rw [readValue, skipBlanks_cons (by decide)]
  rfl

theorem readValue_brace (cs : List Char) :
    readValue (depth + 1) ('{' :: cs) =
      (readMembers (readPair (readValue depth)) (cs.length + 1) true [] cs).map fun r =>
        (.object r.1.reverse, r.2) := by
  rw [readValue, skipBlanks_cons (by decide)]
  rfl

/-- A text with a value in front shows something else than the end of a list. -/
theorem skipBlanks_of_readValue {found : Json × List Char} (read : readValue depth cs = .ok found) :
    ∃ c rest, skipBlanks cs = c :: rest ∧ c ≠ ']' := by
  rw [readValue] at read
  split at read
  case h_1 => simp [failAt] at read
  case h_2 c rest shown =>
    refine ⟨c, rest, shown, ?_⟩
    rintro rfl
    simp [failAt, Char.isDigit] at read

/-! ### Lists and objects -/

theorem nextItem_close (blank : ∀ c ∈ gap, isSpace c = true) (isFirst : Bool) (rest : List Char) :
    nextItem isFirst (gap ++ ']' :: rest) = .ok (false, ']' :: rest) := by
  simp only [nextItem, skipBlanks_append blank, skipBlanks_cons (show isSpace ']' = false by decide)]

theorem nextItem_first {found : Json × List Char} (read : readValue depth cs = .ok found) :
    nextItem true cs = .ok (true, skipBlanks cs) := by
  obtain ⟨c, rest, shown, notClose⟩ := skipBlanks_of_readValue read
  rw [nextItem, shown]
  split
  case h_1 => contradiction
  case h_2 same => exact absurd (List.cons.inj same).1 notClose
  case h_3 same => rw [same]; rfl

theorem nextItem_comma {found : Json × List Char} (read : readValue depth cs = .ok found) :
    nextItem false (',' :: cs) = .ok (true, skipBlanks cs) := by
  obtain ⟨c, rest, shown, notClose⟩ := skipBlanks_of_readValue read
  have comma : skipBlanks (',' :: cs) = ',' :: cs := rfl
  rw [nextItem, comma]
  simp [shown, notClose]

theorem readItems_cons {isFirst : Bool} {here later : List Char} {item : Json} {items : List Json}
    {steps : Nat} (next : nextItem isFirst cs = .ok (true, skipBlanks here))
    (read : readValue depth here = .ok (item, later))
    (others : readItems (readValue depth) steps false later = .ok (items, rest)) :
    readItems (readValue depth) (steps + 1) isFirst cs = .ok (item :: items, rest) := by
  simp only [readItems, next, bind, Except.bind, readValue_skipBlanks, read, others, if_true]

theorem readItems_close (blank : ∀ c ∈ gap, isSpace c = true) (isFirst : Bool) (steps : Nat)
    (rest : List Char) :
    readItems (readValue depth) (steps + 1) isFirst (gap ++ ']' :: rest) = .ok ([], rest) := by
  simp [readItems, nextItem_close blank, bind, Except.bind]

theorem nextMember_close (blank : ∀ c ∈ gap, isSpace c = true) (isFirst : Bool)
    (rest : List Char) :
    nextMember isFirst (gap ++ '}' :: rest) = .ok (false, '}' :: rest) := by
  simp only [nextMember, skipBlanks_append blank,
    skipBlanks_cons (show isSpace '}' = false by decide)]

theorem nextMember_first (blank : ∀ c ∈ gap, isSpace c = true) (rest : List Char) :
    nextMember true (gap ++ '"' :: rest) = .ok (true, rest) := by
  rw [nextMember, skipBlanks_append blank]
  rfl

theorem nextMember_comma (blank : ∀ c ∈ gap, isSpace c = true) (rest : List Char) :
    nextMember false (',' :: (gap ++ '"' :: rest)) = .ok (true, rest) := by
  have comma : skipBlanks (',' :: (gap ++ '"' :: rest)) = ',' :: (gap ++ '"' :: rest) := rfl
  have quote : skipBlanks (gap ++ '"' :: rest) = '"' :: rest := by
    rw [skipBlanks_append blank]
    rfl
  rw [nextMember, comma]
  simp [quote]

theorem readMembers_cons {isFirst : Bool} {here later : List Char} {key : String} {value : Json}
    {state members : List (String × Json)} {steps : Nat}
    (next : nextMember isFirst cs = .ok (true, escape key.toList ++ '"' :: ':' :: here))
    (read : readValue depth here = .ok (value, later))
    (others : readMembers (readPair (readValue depth)) steps false ((key, value) :: state) later =
      .ok (members, rest)) :
    readMembers (readPair (readValue depth)) (steps + 1) isFirst state cs = .ok (members, rest) := by
  have colon : readColon (':' :: here) = .ok here := rfl
  simp only [readMembers, next, bind, Except.bind, readText_escape, readPair, colon, read, others,
    if_true]

theorem readMembers_close (blank : ∀ c ∈ gap, isSpace c = true) (isFirst : Bool) (steps : Nat)
    (state : List (String × Json)) (rest : List Char) :
    readMembers (readPair (readValue depth)) (steps + 1) isFirst state (gap ++ '}' :: rest) =
      .ok (state, rest) := by
  simp [readMembers, nextMember_close blank, bind, Except.bind]

/-! ### Values -/

/-- Nothing in front of the text could go on with a number. -/
def EndsNumber (cs : List Char) : Prop :=
  ∀ c ∈ cs.head?, c.isDigit = false ∧ c ≠ '.' ∧ c ≠ 'e' ∧ c ≠ 'E'

/-- A number whose written form is read as that number. -/
def Number.ReadsBack (n : Number) : Prop :=
  ∀ depth rest, EndsNumber rest → readValue depth (numberText n ++ rest) = .ok (.number n, rest)

/-- A value that nests at most so deep, and whose numbers read back. -/
inductive Readable : Nat → Json → Prop where
  | null {depth : Nat} : Readable depth .null
  | bool {depth : Nat} (b : Bool) : Readable depth (.bool b)
  | number {depth : Nat} {n : Number} (readsBack : n.ReadsBack) : Readable depth (.number n)
  | string {depth : Nat} (s : String) : Readable depth (.string s)
  | array {depth : Nat} {items : List Json} (inner : ∀ item ∈ items, Readable depth item) :
      Readable (depth + 1) (.array items)
  | object {depth : Nat} {members : List (String × Json)}
      (inner : ∀ member ∈ members, Readable depth member.2) :
      Readable (depth + 1) (.object members)

/-- White space that may stand between the parts of a JSON text. -/
structure Spacing.IsBlank (spacing : Spacing) : Prop where
  line : ∀ level, ∀ c ∈ spacing.line level, isSpace c = true
  afterColon : ∀ c ∈ spacing.afterColon, isSpace c = true

theorem Spacing.tight_isBlank : Spacing.tight.IsBlank where
  line := by simp [Spacing.tight]
  afterColon := by simp [Spacing.tight]

theorem Spacing.indented_isBlank : Spacing.indented.IsBlank where
  line := by
    intro level c member
    simp only [Spacing.indented, List.mem_cons, List.mem_replicate] at member
    rcases member with rfl | ⟨-, rfl⟩ <;> decide
  afterColon := by simp [Spacing.indented, isSpace]

theorem endsNumber_cons {c : Char}
    (ends : c.isDigit = false ∧ c ≠ '.' ∧ c ≠ 'e' ∧ c ≠ 'E') (rest : List Char) :
    EndsNumber (c :: rest) := by
  intro first shown
  obtain rfl := Option.some.inj shown
  exact ends

theorem endsNumber_append (blank : ∀ c ∈ gap, isSpace c = true) (ends : EndsNumber rest) :
    EndsNumber (gap ++ rest) := by
  cases gap with
  | nil => exact ends
  | cons c more =>
      have space := blank c List.mem_cons_self
      simp only [isSpace, Bool.or_eq_true, decide_eq_true_eq] at space
      refine endsNumber_cons ?_ (more ++ rest)
      rcases space with ((rfl | rfl) | rfl) | rfl <;> decide

variable {spacing : Spacing}

theorem length_le_writeItems (spacing : Spacing) (level : Nat) (items : List Json) :
    items.length ≤ (writeItems spacing level items).length := by
  induction items with
  | nil => exact Nat.zero_le _
  | cons item rest ih =>
      simp only [writeItems, List.length_cons, List.length_append]
      omega

theorem length_le_writeMembers (spacing : Spacing) (level : Nat)
    (members : List (String × Json)) :
    members.length ≤ (writeMembers spacing level members).length := by
  induction members with
  | nil => exact Nat.zero_le _
  | cons member rest ih =>
      simp only [writeMembers, List.length_cons, List.length_append]
      omega

theorem endsNumber_writeItems (spaced : spacing.IsBlank) (level outer : Nat) (items : List Json)
    (rest : List Char) :
    EndsNumber (writeItems spacing level items ++ (spacing.line outer ++ ']' :: rest)) := by
  cases items with
  | nil =>
      rw [writeItems, List.nil_append]
      exact endsNumber_append (spaced.line outer) (endsNumber_cons (by decide) rest)
  | cons item more => exact endsNumber_cons (by decide) _

theorem endsNumber_writeMembers (spaced : spacing.IsBlank) (level outer : Nat)
    (members : List (String × Json)) (rest : List Char) :
    EndsNumber (writeMembers spacing level members ++ (spacing.line outer ++ '}' :: rest)) := by
  cases members with
  | nil =>
      rw [writeMembers, List.nil_append]
      exact endsNumber_append (spaced.line outer) (endsNumber_cons (by decide) rest)
  | cons member more => exact endsNumber_cons (by decide) _

/-- A written value is read as another from the front of any text that does not go on with a number. -/
def ReadsAsAt (spacing : Spacing) (depth : Nat) (v found : Json) : Prop :=
  ∀ level rest, EndsNumber rest →
    readValue depth (write spacing level v ++ rest) = .ok (found, rest)

/-- A value reads back from the front of any text that does not go on with a number. -/
def ReadsBackAt (spacing : Spacing) (depth : Nat) (v : Json) : Prop :=
  ReadsAsAt spacing depth v v

/-- A member is read with its own name. -/
def MemberReadsAsAt (spacing : Spacing) (depth : Nat) (member found : String × Json) : Prop :=
  member.1 = found.1 ∧ ReadsAsAt spacing depth member.2 found.2

theorem readsBackAt_string (spacing : Spacing) (depth : Nat) (s : String) :
    ReadsBackAt spacing depth (.string s) := by
  intro level rest _
  rw [write, stringText, List.cons_append, List.cons_append, List.append_assoc,
    readValue_quote, List.singleton_append, readText_escape]
  rfl

theorem readItems_writeItems (spaced : spacing.IsBlank) {items found : List Json}
    (inner : List.Forall₂ (ReadsAsAt spacing depth) items found) (level outer : Nat)
    (rest : List Char) {steps : Nat} (enough : items.length < steps) :
    readItems (readValue depth) steps false
        (writeItems spacing level items ++ (spacing.line outer ++ ']' :: rest)) =
      .ok (found, rest) := by
  induction inner generalizing steps with
  | nil =>
      obtain ⟨more, rfl⟩ := Nat.exists_eq_add_one_of_ne_zero (Nat.ne_of_gt enough)
      exact readItems_close (spaced.line outer) false more rest
  | @cons item as items _ reads _ ih =>
      obtain ⟨more, rfl⟩ := Nat.exists_eq_add_one_of_ne_zero (Nat.ne_of_gt (Nat.zero_lt_of_lt enough))
      have others := ih (Nat.lt_of_succ_lt_succ enough)
      have read := reads level _ (endsNumber_writeItems spaced level outer items rest)
      rw [← readValue_append (spaced.line level)] at read
      simp only [writeItems, List.cons_append, List.append_assoc]
      exact readItems_cons (nextItem_comma read) read others

theorem readMembers_writeMembers (spaced : spacing.IsBlank) {members found : List (String × Json)}
    (inner : List.Forall₂ (MemberReadsAsAt spacing depth) members found) (level outer : Nat)
    (state : List (String × Json)) (rest : List Char) {steps : Nat}
    (enough : members.length < steps) :
    readMembers (readPair (readValue depth)) steps false state
        (writeMembers spacing level members ++ (spacing.line outer ++ '}' :: rest)) =
      .ok (found.reverse ++ state, rest) := by
  induction inner generalizing steps state with
  | nil =>
      obtain ⟨more, rfl⟩ := Nat.exists_eq_add_one_of_ne_zero (Nat.ne_of_gt enough)
      exact readMembers_close (spaced.line outer) false more state rest
  | @cons member as members _ reads _ ih =>
      obtain ⟨key, value⟩ := member
      obtain ⟨key', value'⟩ := as
      obtain ⟨rfl, reads⟩ := reads
      obtain ⟨more, rfl⟩ := Nat.exists_eq_add_one_of_ne_zero (Nat.ne_of_gt (Nat.zero_lt_of_lt enough))
      have others := ih ((key, value') :: state) (Nat.lt_of_succ_lt_succ enough)
      have read := reads level _ (endsNumber_writeMembers spaced level outer members rest)
      rw [← readValue_append spaced.afterColon] at read
      simp only [writeMembers, stringText, List.cons_append, List.append_assoc, List.reverse_cons]
      exact readMembers_cons (nextMember_comma (spaced.line level) _) read others

/-- An array is read as its items are. -/
theorem readsAsAt_array (spaced : spacing.IsBlank) {items found : List Json}
    (inner : List.Forall₂ (ReadsAsAt spacing depth) items found) :
    ReadsAsAt spacing (depth + 1) (.array items) (.array found) := by
  intro level rest _
  cases inner with
  | nil =>
      rw [write, List.cons_append, readValue_bracket]
      exact congrArg _ (readItems_close (List.forall_mem_nil _) true _ rest)
  | @cons item as items _ reads inner =>
      have read := reads (level + 1) _ (endsNumber_writeItems spaced (level + 1) level items rest)
      rw [← readValue_append (spaced.line (level + 1))] at read
      rw [write]
      simp only [List.cons_append, List.append_assoc, List.nil_append, readValue_bracket]
      rw [readItems_cons (nextItem_first read) read
        (readItems_writeItems spaced inner (level + 1) level rest _)]
      · rfl
      · have bound := length_le_writeItems spacing (level + 1) items
        simp only [List.length_append, List.length_cons]
        omega

/-- An object is read as its members are. -/
theorem readsAsAt_object (spaced : spacing.IsBlank) {members found : List (String × Json)}
    (inner : List.Forall₂ (MemberReadsAsAt spacing depth) members found) :
    ReadsAsAt spacing (depth + 1) (.object members) (.object found) := by
  intro level rest _
  cases inner with
  | nil =>
      rw [write, List.cons_append, readValue_brace]
      exact congrArg _ (readMembers_close (List.forall_mem_nil _) true _ [] rest)
  | @cons member as members _ reads inner =>
      obtain ⟨key, value⟩ := member
      obtain ⟨key', value'⟩ := as
      obtain ⟨rfl, reads⟩ := reads
      have read := reads (level + 1) _ (endsNumber_writeMembers spaced (level + 1) level members rest)
      rw [← readValue_append spaced.afterColon] at read
      rw [write]
      simp only [stringText, List.cons_append, List.append_assoc, List.nil_append, readValue_brace]
      rw [readMembers_cons (nextMember_first (spaced.line (level + 1)) _) read
        (readMembers_writeMembers spaced inner (level + 1) level [(key, value')] rest _)]
      · simp [Except.map]
      · have bound := length_le_writeMembers spacing (level + 1) members
        simp only [List.length_append, List.length_cons]
        omega

/-- Reading undoes writing. -/
theorem readValue_write (spaced : spacing.IsBlank) {v : Json} (readable : Readable depth v) :
    ReadsBackAt spacing depth v := by
  induction readable with
  | null =>
      intro level rest _
      rw [readValue]
      rfl
  | bool b =>
      intro level rest _
      rw [readValue]
      cases b <;> rfl
  | number readsBack =>
      intro level rest ends
      rw [write]
      exact readsBack _ rest ends
  | string s => exact readsBackAt_string spacing _ s
  | array _ inner => exact readsAsAt_array spaced (List.forall₂_same.mpr inner)
  | object _ inner =>
      refine readsAsAt_object spaced (List.forall₂_same.mpr fun member listed => ?_)
      exact ⟨rfl, inner member listed⟩

theorem readsBackAt_ofStrings (spaced : spacing.IsBlank) (depth : Nat) (texts : List String) :
    ReadsBackAt spacing (depth + 1) (.ofStrings texts) := by
  refine readValue_write spaced (.array fun item listed => ?_)
  obtain ⟨s, -, rfl⟩ := List.mem_map.mp listed
  exact .string s

/-- A written value is a whole JSON text of what it is read as, also with blanks behind it. -/
theorem parse_write_as_append {v found : Json} (reads : ReadsAsAt spacing depthLimit v found)
    (blank : ∀ c ∈ gap, isSpace c = true) : parse (write spacing 0 v ++ gap) = .ok found := by
  have ends : EndsNumber gap := by
    rw [← List.append_nil gap]
    exact endsNumber_append blank (by simp [EndsNumber])
  have read := reads 0 gap ends
  have nothingLeft : complete gap = .ok () := by
    rw [complete, skipBlanks, List.dropWhile_eq_nil_iff.mpr blank]
  simp only [parse, read, nothingLeft, bind, Except.bind]

theorem parse_write_as {v found : Json} (reads : ReadsAsAt spacing depthLimit v found) :
    parse (write spacing 0 v) = .ok found := by
  have parsed := parse_write_as_append reads (List.forall_mem_nil (isSpace · = true))
  rw [List.append_nil] at parsed
  exact parsed

/-- A written value is a whole JSON text of that value, also with blanks behind it. -/
theorem parse_write_append (spaced : spacing.IsBlank) {v : Json} (readable : Readable depthLimit v)
    (blank : ∀ c ∈ gap, isSpace c = true) : parse (write spacing 0 v ++ gap) = .ok v :=
  parse_write_as_append (readValue_write spaced readable) blank

theorem parse_write (spaced : spacing.IsBlank) {v : Json} (readable : Readable depthLimit v) :
    parse (write spacing 0 v) = .ok v :=
  parse_write_as (readValue_write spaced readable)

end StudyDesk.Json
