/-
Module: StudyDesk.Proofs.Json.Inversion
Purpose: What a text was like when a value, the items of a list or the members of an object were read
  off it.
Main exports:
  bind_eq_ok_iff, map_eq_ok_iff, PartAt, ItemsRead, readItems_eq_ok_iff, PairsRead,
  readPairs_eq_ok_iff, ValueRead, valueRead_of_readValue
-/
import Mathlib.Tactic.SplitIfs
import StudyDesk.Json.Parser

namespace StudyDesk

/-- A computation succeeds when each of its two parts does. -/
theorem bind_eq_ok_iff {ε α β : Type} {first : Except ε α} {next : α → Except ε β} {result : β} :
    first >>= next = .ok result ↔ ∃ value, first = .ok value ∧ next value = .ok result := by
  cases first <;> simp [bind, Except.bind]

theorem map_eq_ok_iff {ε α β : Type} {first : Except ε α} {f : α → β} {result : β} :
    first.map f = .ok result ↔ ∃ value, first = .ok value ∧ f value = result := by
  cases first <;> simp [Except.map]

namespace Json

variable {α : Type} {isFirst : Bool} {depth : Nat} {cs here rest : List Char}

/-! ### Parts -/

theorem readWord_eq_ok_iff {word : List Char} : readWord word cs = .ok rest ↔ cs = word ++ rest := by
  induction word generalizing cs with
  | nil => simp [readWord]
  | cons w word ih =>
      cases cs with
      | nil => simp [readWord]
      | cons c cs =>
          rw [readWord]
          split_ifs with same
          · subst same
            simp [ih]
          · simp [failAt, same]

theorem readColon_eq_ok_iff : readColon cs = .ok rest ↔ skipBlanks cs = ':' :: rest := by
  unfold readColon
  split
  case h_1 shown => simp [failAt, shown]
  case h_2 shown => simp [shown]
  case h_3 inner _ other =>
    simp only [failAt, reduceCtorEq, false_iff]
    exact other rest

theorem complete_eq_ok_iff : complete cs = .ok () ↔ skipBlanks cs = [] := by
  unfold complete
  split
  case h_1 shown => simp [shown]
  case h_2 some => simpa [failAt] using some

/-- Where the next part of a container begins: at once for the first one, behind a comma for any
other. -/
inductive PartAt : Bool → List Char → List Char → Prop where
  | first {cs here : List Char} (shown : skipBlanks cs = here) : PartAt true cs here
  | next {cs after here : List Char} (comma : skipBlanks cs = ',' :: after)
      (shown : skipBlanks after = here) : PartAt false cs here

theorem partAt_true_iff : PartAt true cs here ↔ skipBlanks cs = here := by
  constructor
  · rintro ⟨shown⟩
    exact shown
  · exact .first

theorem partAt_false_iff :
    PartAt false cs here ↔ ∃ after, skipBlanks cs = ',' :: after ∧ skipBlanks after = here := by
  constructor
  · intro part
    cases part with
    | next comma shown => exact ⟨_, comma, shown⟩
  · rintro ⟨after, comma, shown⟩
    exact .next comma shown

/-- Another item follows where the next part shows anything but the end of the list. -/
theorem nextItem_more_iff :
    nextItem isFirst cs = .ok (true, here) ↔
      PartAt isFirst cs here ∧ ∃ c rest, here = c :: rest ∧ c ≠ ']' := by
  unfold nextItem
  cases isFirst with
  | true =>
      rw [partAt_true_iff]
      grind [failAt]
  | false =>
      rw [partAt_false_iff]
      cases here with
      | nil => grind [failAt]
      | cons c inner => grind [failAt]

theorem nextItem_close_iff :
    nextItem isFirst cs = .ok (false, here) ↔ skipBlanks cs = here ∧ ∃ rest, here = ']' :: rest := by
  unfold nextItem
  grind [failAt]

/-- Another member follows where the next part shows the quote of its name. -/
theorem nextMember_more_iff :
    nextMember isFirst cs = .ok (true, here) ↔ PartAt isFirst cs ('"' :: here) := by
  unfold nextMember
  cases isFirst with
  | true =>
      rw [partAt_true_iff]
      grind [failAt]
  | false =>
      rw [partAt_false_iff]
      grind [failAt]

theorem nextMember_close_iff :
    nextMember isFirst cs = .ok (false, here) ↔
      skipBlanks cs = here ∧ ∃ rest, here = '}' :: rest := by
  unfold nextMember
  grind [failAt]

/-! ### Lists -/

/-- The items of a list were read off a text, and what was left behind the closing bracket. -/
inductive ItemsRead (item : List Char → Read α) :
    Bool → List Char → List α → List Char → Prop where
  | close {isFirst : Bool} {cs rest : List Char} (shown : skipBlanks cs = ']' :: rest) :
      ItemsRead item isFirst cs [] rest
  | cons {isFirst : Bool} {cs inner later rest : List Char} {c : Char} {value : α}
      {values : List α} (part : PartAt isFirst cs (c :: inner)) (notClose : c ≠ ']')
      (read : item (c :: inner) = .ok (value, later))
      (others : ItemsRead item false later values rest) :
      ItemsRead item isFirst cs (value :: values) rest

/-- A list is read when it ends within the steps that there are. -/
theorem readItems_eq_ok_iff {item : List Char → Read α} {steps : Nat} {values : List α} :
    readItems item steps isFirst cs = .ok (values, rest) ↔
      ItemsRead item isFirst cs values rest ∧ values.length < steps := by
  induction steps generalizing isFirst cs values with
  | zero => simp [readItems, failAt]
  | succ steps ih =>
      rw [readItems, bind_eq_ok_iff]
      constructor
      · rintro ⟨⟨more, here⟩, next, read⟩
        cases more with
        | false =>
            obtain ⟨shown, rest', rfl⟩ := nextItem_close_iff.mp next
            simp only [Bool.false_eq_true, if_false, Except.ok.injEq, Prod.mk.injEq] at read
            obtain ⟨rfl, rfl⟩ := read
            exact ⟨.close shown, Nat.succ_pos steps⟩
        | true =>
            obtain ⟨part, c, inner, rfl, notClose⟩ := nextItem_more_iff.mp next
            simp only [if_true, bind_eq_ok_iff] at read
            obtain ⟨⟨value, later⟩, read, ⟨values', rest'⟩, others, same⟩ := read
            obtain ⟨rfl, rfl⟩ := Prod.mk.inj (Except.ok.inj same)
            obtain ⟨others, few⟩ := ih.mp others
            exact ⟨.cons part notClose read others, Nat.succ_lt_succ few⟩
      · rintro ⟨read, few⟩
        cases read with
        | close shown =>
            exact ⟨(false, ']' :: rest), nextItem_close_iff.mpr ⟨shown, rest, rfl⟩, rfl⟩
        | @cons _ _ inner later _ c value values part notClose read others =>
            refine ⟨(true, c :: inner), nextItem_more_iff.mpr ⟨part, c, inner, rfl, notClose⟩, ?_⟩
            have others := ih.mpr ⟨others, Nat.lt_of_succ_lt_succ few⟩
            simp only [if_true, bind_eq_ok_iff]
            exact ⟨(value, later), read, (values, rest), others, rfl⟩

/-! ### Objects -/

/-- The members of an object were read off a text, and what was left behind the closing bracket. -/
inductive PairsRead (value : List Char → Read Json) :
    Bool → List Char → List (String × Json) → List Char → Prop where
  | close {isFirst : Bool} {cs rest : List Char} (shown : skipBlanks cs = '}' :: rest) :
      PairsRead value isFirst cs [] rest
  | cons {isFirst : Bool} {cs inner afterKey afterColon later rest : List Char} {key : String}
      {v : Json} {members : List (String × Json)} (part : PartAt isFirst cs ('"' :: inner))
      (named : readText inner = .ok (key, afterKey))
      (colon : skipBlanks afterKey = ':' :: afterColon)
      (read : value afterColon = .ok (v, later))
      (others : PairsRead value false later members rest) :
      PairsRead value isFirst cs ((key, v) :: members) rest

theorem readPairs_eq_ok_iff {value : List Char → Read Json} {steps : Nat}
    {before final : List (String × Json)} :
    readMembers (readPair value) steps isFirst before cs = .ok (final, rest) ↔
      ∃ members, PairsRead value isFirst cs members rest ∧ members.length < steps ∧
        final = members.reverse ++ before := by
  induction steps generalizing isFirst before cs with
  | zero => simp [readMembers, failAt]
  | succ steps ih =>
      rw [readMembers, bind_eq_ok_iff]
      constructor
      · rintro ⟨⟨more, here⟩, next, read⟩
        cases more with
        | false =>
            obtain ⟨shown, rest', rfl⟩ := nextMember_close_iff.mp next
            simp only [Bool.false_eq_true, if_false, Except.ok.injEq, Prod.mk.injEq] at read
            obtain ⟨rfl, rfl⟩ := read
            exact ⟨[], .close shown, Nat.succ_pos steps, rfl⟩
        | true =>
            simp only [if_true, bind_eq_ok_iff, readPair, readColon_eq_ok_iff] at read
            obtain ⟨⟨key, afterKey⟩, named, ⟨now, later⟩, ⟨afterColon, colon, ⟨v, later'⟩, read,
              same⟩, others⟩ := read
            obtain ⟨rfl, rfl⟩ := Prod.mk.inj (Except.ok.inj same)
            obtain ⟨members, pairs, few, gathered⟩ := ih.mp others
            exact ⟨(key, v) :: members,
              .cons (nextMember_more_iff.mp next) named colon read pairs, Nat.succ_lt_succ few,
              by simp [gathered]⟩
      · rintro ⟨members, read, few, rfl⟩
        cases read with
        | close shown =>
            exact ⟨(false, '}' :: rest), nextMember_close_iff.mpr ⟨shown, rest, rfl⟩, rfl⟩
        | @cons _ _ inner afterKey afterColon later _ key v members part named colon read others =>
            refine ⟨(true, inner), nextMember_more_iff.mpr part, ?_⟩
            have gathered : readMembers (readPair value) steps false ((key, v) :: before) later =
                .ok (((key, v) :: members).reverse ++ before, rest) :=
              ih.mpr ⟨members, others, Nat.lt_of_succ_lt_succ few, by simp⟩
            simp only [if_true, bind_eq_ok_iff, readPair, readColon_eq_ok_iff]
            exact ⟨(key, afterKey), named, ((key, v) :: before, later),
              ⟨afterColon, colon, (v, later), read, rfl⟩, gathered⟩

/-! ### Values -/

/-- The words that are values. -/
def words : List (List Char × Json) :=
  [(['n', 'u', 'l', 'l'], .null), (['t', 'r', 'u', 'e'], .bool true),
    (['f', 'a', 'l', 's', 'e'], .bool false)]

/-- How a value came to be read off a text. -/
inductive ValueRead : Nat → List Char → Json → List Char → Prop where
  | word {depth : Nat} {cs rest : List Char} {v : Json} (word : List Char)
      (known : (word, v) ∈ words) (shown : skipBlanks cs = word ++ rest) : ValueRead depth cs v rest
  | negative {depth : Nat} {cs inner rest : List Char} {n : Number}
      (shown : skipBlanks cs = '-' :: inner) (read : readNumber true inner = .ok (n, rest)) :
      ValueRead depth cs (.number n) rest
  | positive {depth : Nat} {cs inner rest : List Char} {c : Char} {n : Number}
      (shown : skipBlanks cs = c :: inner) (digit : c.isDigit = true)
      (read : readNumber false (c :: inner) = .ok (n, rest)) :
      ValueRead depth cs (.number n) rest
  | string {depth : Nat} {cs inner rest : List Char} {s : String}
      (shown : skipBlanks cs = '"' :: inner) (read : readText inner = .ok (s, rest)) :
      ValueRead depth cs (.string s) rest
  | array {depth : Nat} {cs inner rest : List Char} {items : List Json}
      (shown : skipBlanks cs = '[' :: inner)
      (read : ItemsRead (readValue depth) true inner items rest) :
      ValueRead (depth + 1) cs (.array items) rest
  | object {depth : Nat} {cs inner rest : List Char} {members : List (String × Json)}
      (shown : skipBlanks cs = '{' :: inner)
      (read : PairsRead (readValue depth) true inner members rest) :
      ValueRead (depth + 1) cs (.object members) rest

theorem keptWord_eq_ok_iff {word : List Char} {known v : Json} :
    ((readWord word cs).map fun after => (known, after)) = .ok (v, rest) ↔
      cs = word ++ rest ∧ known = v := by
  simp only [map_eq_ok_iff, readWord_eq_ok_iff, Prod.mk.injEq]
  constructor
  · rintro ⟨after, shown, same, rfl⟩
    exact ⟨shown, same⟩
  · rintro ⟨shown, same⟩
    exact ⟨rest, shown, same, rfl⟩

theorem keptRead_eq_ok_iff (keep : α → Json) {first : Read α} {v : Json} :
    (first.map fun r => (keep r.1, r.2)) = .ok (v, rest) ↔
      ∃ value, first = .ok (value, rest) ∧ keep value = v := by
  simp only [map_eq_ok_iff, Prod.exists, Prod.mk.injEq]
  constructor
  · rintro ⟨value, after, read, same, rfl⟩
    exact ⟨value, read, same⟩
  · rintro ⟨value, read, same⟩
    exact ⟨value, rest, read, same, rfl⟩

theorem valueRead_of_readValue {v : Json} (read : readValue depth cs = .ok (v, rest)) :
    ValueRead depth cs v rest := by
  rw [readValue] at read
  split at read
  case h_1 => cases read
  case h_2 c inner shown =>
    by_cases null : c = 'n'
    · rw [if_pos null] at read
      obtain ⟨rfl, rfl⟩ := keptWord_eq_ok_iff.mp read
      exact .word ['n', 'u', 'l', 'l'] (by simp [words]) (null ▸ shown)
    rw [if_neg null] at read
    by_cases yes : c = 't'
    · rw [if_pos yes] at read
      obtain ⟨rfl, rfl⟩ := keptWord_eq_ok_iff.mp read
      exact .word ['t', 'r', 'u', 'e'] (by simp [words]) (yes ▸ shown)
    rw [if_neg yes] at read
    by_cases no : c = 'f'
    · rw [if_pos no] at read
      obtain ⟨rfl, rfl⟩ := keptWord_eq_ok_iff.mp read
      exact .word ['f', 'a', 'l', 's', 'e'] (by simp [words]) (no ▸ shown)
    rw [if_neg no] at read
    by_cases negative : c = '-'
    · rw [if_pos negative] at read
      obtain ⟨n, inside, rfl⟩ := (keptRead_eq_ok_iff .number).mp read
      exact .negative (negative ▸ shown) inside
    rw [if_neg negative] at read
    by_cases digit : c.isDigit = true
    · rw [if_pos digit] at read
      obtain ⟨n, inside, rfl⟩ := (keptRead_eq_ok_iff .number).mp read
      exact .positive shown digit inside
    rw [if_neg digit] at read
    by_cases quote : c = '"'
    · rw [if_pos quote] at read
      obtain ⟨s, inside, rfl⟩ := (keptRead_eq_ok_iff .string).mp read
      exact .string (quote ▸ shown) inside
    rw [if_neg quote] at read
    by_cases bracket : c = '['
    · rw [if_pos bracket] at read
      cases depth with
      | zero => cases read
      | succ depth =>
          obtain ⟨items, inside, rfl⟩ := (keptRead_eq_ok_iff .array).mp read
          exact .array (bracket ▸ shown) (readItems_eq_ok_iff.mp inside).1
    rw [if_neg bracket] at read
    by_cases brace : c = '{'
    · rw [if_pos brace] at read
      cases depth with
      | zero => cases read
      | succ depth =>
          obtain ⟨⟨gathered, after⟩, inside, same⟩ := map_eq_ok_iff.mp read
          obtain ⟨rfl, rfl⟩ := Prod.mk.inj same
          obtain ⟨members, pairs, -, rfl⟩ := readPairs_eq_ok_iff.mp inside
          simp only [List.append_nil, List.reverse_reverse]
          exact .object (brace ▸ shown) pairs
    rw [if_neg brace] at read
    cases read

end Json

end StudyDesk
