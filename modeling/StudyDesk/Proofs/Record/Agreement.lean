/-
Module: StudyDesk.Proofs.Record.Agreement
Purpose: A record that a JSON value gives is the record that is read while the text of the value goes
  by.
Main exports:
  Agrees, Shape.agrees, Shape.readAll_of_parse
-/
import StudyDesk.Proofs.Json.Skipping
import StudyDesk.Record.Text
import StudyDesk.Record.Value

namespace StudyDesk

open Json Record

variable {α β : Type} {depth : Nat} {isFirst : Bool} {v : Json} {cs rest : List Char}
variable {surplus : Surplus}

/-- What a value gives is read off every text of the value, and as much of the text is taken. -/
def Agrees (read : Nat → List Char → Read α) (of : Json → Except Fault α) : Prop :=
  ∀ {depth cs v rest x}, readValue depth cs = .ok (v, rest) → of v = .ok x →
    read depth cs = .ok (x, rest)

/-! ### Values without parts -/

theorem readString_of_readValue {s : String} (wanted : String)
    (read : readValue depth cs = .ok (.string s, rest)) : readString wanted cs = .ok (s, rest) := by
  cases valueRead_of_readValue read with
  | word word known => simp [words] at known
  | string shown read => simp only [readString, shown, read]

theorem readFlag_of_readValue {b : Bool} (read : readValue depth cs = .ok (.bool b, rest)) :
    readFlag cs = .ok (b, rest) := by
  cases valueRead_of_readValue read with
  | word word known shown =>
      simp only [words, List.mem_cons, Prod.mk.injEq, reduceCtorEq, and_false, false_or,
        Json.bool.injEq, List.not_mem_nil, or_false] at known
      rcases known with ⟨rfl, rfl⟩ | ⟨rfl, rfl⟩
      · simp only [List.cons_append, List.nil_append] at shown
        simp [readFlag, shown, readWord, Except.map]
      · simp only [List.cons_append, List.nil_append] at shown
        simp [readFlag, shown, readWord, Except.map]

theorem readNumeral_of_readValue {n : Number} (wanted : String)
    (read : readValue depth cs = .ok (.number n, rest)) :
    readNumeral wanted cs = .ok (n, rest) := by
  cases valueRead_of_readValue read with
  | word word known => simp [words] at known
  | negative shown read => simp [readNumeral, shown, read]
  | positive shown digit read =>
      simp [readNumeral, shown, read, digit, ne_of_isDigit digit (show '-'.isDigit = false by decide)]

/-- The items of a text that is read as an array. -/
theorem itemsRead_of_readValue {items : List Json}
    (read : readValue depth cs = .ok (.array items, rest)) :
    ∃ below inner, depth = below + 1 ∧ skipBlanks cs = '[' :: inner ∧
      ItemsRead (readValue below) true inner items rest ∧ items.length < inner.length + 1 := by
  cases valueRead_of_readValue read with
  | word word known => simp [words] at known
  | @array below _ inner _ _ shown taken =>
      obtain ⟨body, split, few, -⟩ := taken.spelled (exists_spelling below)
      have within := congrArg List.length split
      rw [List.length_append] at within
      exact ⟨below, inner, rfl, shown, taken, by omega⟩

/-- The members of a text that is read as an object. -/
theorem pairsRead_of_readValue {members : List (String × Json)}
    (read : readValue depth cs = .ok (.object members, rest)) :
    ∃ below inner, depth = below + 1 ∧ skipBlanks cs = '{' :: inner ∧
      PairsRead (readValue below) true inner members rest ∧ members.length < inner.length + 1 := by
  cases valueRead_of_readValue read with
  | word word known => simp [words] at known
  | @object below _ inner _ _ shown taken =>
      obtain ⟨body, split, few, -⟩ := taken.spelled (exists_spelling below)
      have within := congrArg List.length split
      rw [List.length_append] at within
      exact ⟨below, inner, rfl, shown, taken, by omega⟩

/-- The null of a text. -/
theorem shown_of_null (read : readValue depth cs = .ok (.null, rest)) :
    skipBlanks cs = 'n' :: 'u' :: 'l' :: 'l' :: rest := by
  cases valueRead_of_readValue read with
  | word word known shown =>
      simp only [words, List.mem_cons, Prod.mk.injEq, reduceCtorEq, and_false, and_true,
        List.not_mem_nil, or_false] at known
      subst known
      exact shown

theorem readUnit_of_readValue (read : readValue depth cs = .ok (.null, rest)) :
    readUnit cs = .ok rest := by
  simp [readUnit, shown_of_null read, readWord]

/-- Only null begins with its letter. -/
theorem shown_of_not_null (read : readValue depth cs = .ok (v, rest)) (notNull : v ≠ .null) :
    ∃ c inner, skipBlanks cs = c :: inner ∧ c ≠ 'n' := by
  cases valueRead_of_readValue read with
  | word word known shown =>
      simp only [words, List.mem_cons, Prod.mk.injEq, List.not_mem_nil, or_false] at known
      rcases known with ⟨rfl, rfl⟩ | ⟨rfl, rfl⟩ | ⟨rfl, rfl⟩
      · exact absurd rfl notNull
      · exact ⟨_, _, shown, by decide⟩
      · exact ⟨_, _, shown, by decide⟩
  | negative shown => exact ⟨_, _, shown, by decide⟩
  | positive shown digit => exact ⟨_, _, shown, ne_of_isDigit digit (by decide)⟩
  | string shown => exact ⟨_, _, shown, by decide⟩
  | array shown => exact ⟨_, _, shown, by decide⟩
  | object shown => exact ⟨_, _, shown, by decide⟩

theorem agrees_text (wanted : String) :
    Agrees (fun _ => readString wanted)
      (fun | .string s => .ok s | other => wrong other wanted) := by
  intro depth cs v rest x read given
  cases v with
  | string s =>
      obtain rfl := Except.ok.inj given
      exact readString_of_readValue wanted read
  | null | bool | number | array | object => cases given

theorem agrees_flag :
    Agrees (fun _ => readFlag)
      (fun | .bool b => .ok b | other => wrong other Shape.flag.title) := by
  intro depth cs v rest x read given
  cases v with
  | bool b =>
      obtain rfl := Except.ok.inj given
      exact readFlag_of_readValue read
  | null | number | string | array | object => cases given

theorem agrees_natural (bits : Nat) :
    Agrees (fun _ => readNatural bits)
      (fun | .number n => natural? bits n | other => wrong other (Shape.natural bits).title) := by
  intro depth cs v rest x read given
  cases v with
  | number n =>
      have found : natural? bits n = .ok x := given
      have numeral := readNumeral_of_readValue (Shape.natural bits).title read
      simp [readNatural, numeral, found, bind, Except.bind]
  | null | bool | string | array | object => cases given

theorem agrees_real :
    Agrees (fun _ => readReal)
      (fun | .number n => .ok (single n) | other => wrong other Shape.real.title) := by
  intro depth cs v rest x read given
  cases v with
  | number n =>
      obtain rfl := Except.ok.inj given
      have numeral := readNumeral_of_readValue Shape.real.title read
      simp [readReal, numeral, bind, Except.bind]
  | null | bool | string | array | object => cases given

theorem agrees_anything : Agrees readValue Except.ok := by
  intro depth cs v rest x read given
  obtain rfl := Except.ok.inj given
  exact read

theorem agrees_nullable {read : Nat → List Char → Read α} {of : Json → Except Fault α}
    (agrees : Agrees read of) :
    Agrees (fun depth => readNullable (read depth)) (nullableOf of) := by
  intro depth cs v rest x taken given
  by_cases null : v = .null
  · subst null
    obtain rfl := Except.ok.inj given
    simp [readNullable, shown_of_null taken, readWord, Except.map]
  · obtain ⟨value, found, rfl⟩ : ∃ value, of v = .ok value ∧ some value = x := by
      cases v with
      | null => exact absurd rfl null
      | bool | number | string | array | object => exact map_eq_ok_iff.mp given
    obtain ⟨c, inner, shown, notNull⟩ := shown_of_not_null taken null
    simp [readNullable, shown, notNull, agrees taken found, Except.map]

theorem agrees_present {read : Nat → List Char → Read α} {of : Json → Except Fault α}
    (agrees : Agrees read of) (presence : Presence) :
    Agrees (fun depth cs => readPresent (read depth) cs presence)
      (fun v => presentOf of v presence) := by
  cases presence with
  | required => exact agrees
  | optional => exact agrees_nullable agrees
  | defaulted =>
      intro depth cs v rest x taken given
      obtain ⟨value, found, rfl⟩ := map_eq_ok_iff.mp given
      simp only [readPresent, agrees taken found]
      rfl

theorem knownName_eq_ok_iff {names : List String} {name x : String} :
    knownName names name = .ok x ↔ names.contains name = true ∧ name = x := by
  cases known : names.contains name with
  | true => simp only [knownName, known, if_true, Except.ok.injEq, true_and]
  | false => simp only [knownName, known, Bool.false_eq_true, if_false, reduceCtorEq, false_and]

theorem readName_of_readValue {names : List String} {name : String}
    (read : readValue depth cs = .ok (.string name, rest)) (known : names.contains name = true) :
    readName names cs = .ok (name, rest) := by
  simp only [readName, readString_of_readValue _ read, bind, Except.bind, known, if_true]

theorem readName_of_readText {names : List String} {name : String}
    (read : readText cs = .ok (name, rest)) (known : names.contains name = true) :
    readName names ('"' :: cs) = .ok (name, rest) :=
  readName_of_readValue (readValue_of_readText 0 read) known

/-- A variant may be written as its name or as the only name of an object. -/
theorem agrees_variant (names : List String) :
    Agrees (readVariant names) (variantOf names) := by
  intro depth cs v rest x read given
  cases v with
  | string name =>
      obtain ⟨known, rfl⟩ := knownName_eq_ok_iff.mp given
      cases valueRead_of_readValue read with
      | word word known => simp [words] at known
      | string shown =>
          rw [← readValue_skipBlanks, shown] at read
          simp only [readVariant, shown, readName_of_readValue read known]
  | object members =>
      obtain ⟨below, inner, rfl, shown, pairs, -⟩ := pairsRead_of_readValue read
      cases pairs with
      | close shown => cases given
      | cons part named colon inside others =>
          cases others with
          | cons => cases given
          | close closed =>
              obtain ⟨name, found, unit⟩ := bind_eq_ok_iff.mp given
              obtain ⟨known, rfl⟩ := knownName_eq_ok_iff.mp found
              have quote := partAt_true_iff.mp part
              split at unit
              · obtain rfl := Except.ok.inj unit
                simp [readVariant, shown, quote, readName_of_readText named known,
                  readColon_eq_ok_iff.mpr colon, readUnit_of_readValue inside, closed, bind,
                  Except.bind]
              · cases unit
  | null | bool | number | array => cases given

/-! ### Containers -/

theorem mapM_cons_eq_ok_iff {ε : Type} {f : α → Except ε β} {item : α} {items : List α}
    {found : List β} :
    (item :: items).mapM f = .ok found ↔
      ∃ x, f item = .ok x ∧ ∃ xs, items.mapM f = .ok xs ∧ found = x :: xs := by
  rw [List.mapM_cons, bind_eq_ok_iff]
  simp only [bind_eq_ok_iff, pure, Except.pure, Except.ok.injEq]
  constructor
  · rintro ⟨x, first, xs, later, rfl⟩
    exact ⟨x, first, xs, later, rfl⟩
  · rintro ⟨x, first, xs, later, rfl⟩
    exact ⟨x, first, xs, later, rfl⟩

theorem itemsRead_of_agrees {read : Nat → List Char → Read α} {of : Json → Except Fault α}
    (agrees : Agrees read of) {items : List Json} {found : List α}
    (taken : ItemsRead (readValue depth) isFirst cs items rest)
    (given : items.mapM of = .ok found) :
    ItemsRead (read depth) isFirst cs found rest ∧ found.length = items.length := by
  induction taken generalizing found with
  | close shown =>
      obtain rfl := Except.ok.inj given
      exact ⟨.close shown, rfl⟩
  | cons part notClose inside others ih =>
      obtain ⟨x, first, xs, later, rfl⟩ := mapM_cons_eq_ok_iff.mp given
      obtain ⟨found, same⟩ := ih later
      exact ⟨.cons part notClose (agrees inside first) found, by simp [same]⟩

/-- Members are gathered from the text as they are from the value, when each of them is. -/
theorem readMembers_of_pairsRead {σ : Type} (member : String → σ → List Char → Read σ)
    (step : σ → String × Json → Except Fault σ)
    (agrees : ∀ {key state now afterKey afterColon v later},
      skipBlanks afterKey = ':' :: afterColon → readValue depth afterColon = .ok (v, later) →
      step state (key, v) = .ok now → member key state afterKey = .ok (now, later))
    {members : List (String × Json)} (taken : PairsRead (readValue depth) isFirst cs members rest)
    {state final : σ} (given : members.foldlM step state = .ok final) {steps : Nat}
    (enough : members.length < steps) :
    readMembers member steps isFirst state cs = .ok (final, rest) := by
  induction taken generalizing state steps with
  | @close isFirst cs rest shown =>
      obtain ⟨steps, rfl⟩ := Nat.exists_eq_add_of_le' (Nat.one_le_of_lt enough)
      obtain rfl := Except.ok.inj given
      rw [readMembers, bind_eq_ok_iff]
      exact ⟨(false, '}' :: rest), nextMember_close_iff.mpr ⟨shown, rest, rfl⟩, rfl⟩
  | @cons isFirst cs inner afterKey afterColon later rest key v members part named colon inside others
      ih =>
      obtain ⟨steps, rfl⟩ := Nat.exists_eq_add_of_le' (Nat.one_le_of_lt enough)
      rw [List.foldlM_cons, bind_eq_ok_iff] at given
      obtain ⟨now, first, given⟩ := given
      rw [readMembers, bind_eq_ok_iff]
      refine ⟨(true, inner), nextMember_more_iff.mpr part, ?_⟩
      simp only [if_true, bind_eq_ok_iff]
      exact ⟨(key, afterKey), named, (now, later), agrees colon inside first,
        ih given (Nat.lt_of_succ_lt_succ enough)⟩

/-- A list of values of one shape. -/
theorem agrees_list {shape : Shape} (agrees : Agrees shape.read (shape.ofJson surplus)) :
    Agrees (Shape.list shape).read ((Shape.list shape).ofJson surplus) := by
  intro depth cs v rest x read given
  cases v with
  | array items =>
      obtain ⟨below, inner, rfl, shown, taken, few⟩ := itemsRead_of_readValue read
      obtain ⟨found, same⟩ := itemsRead_of_agrees agrees taken given
      simp only [Shape.read, shown, enter]
      exact readItems_eq_ok_iff.mpr ⟨found, same ▸ few⟩
  | null | bool | number | string | object => cases given

/-- Gathering one by one what each item gives. -/
theorem foldlM_of_mapM {ε : Type} {f : α → Except ε β} {items : List α} {found : List β}
    (given : items.mapM f = .ok found) (done : List β) :
    items.foldlM (fun done item => (f item).map (· :: done)) done = .ok (found.reverse ++ done) := by
  induction items generalizing found done with
  | nil =>
      obtain rfl := Except.ok.inj given
      rfl
  | cons item items ih =>
      obtain ⟨x, first, xs, later, rfl⟩ := mapM_cons_eq_ok_iff.mp given
      rw [List.foldlM_cons, first, List.reverse_cons, List.append_assoc]
      exact ih later (x :: done)

theorem readEntries_of_agrees {read : Nat → List Char → Read α} {of : Json → Except Fault α}
    (agrees : Agrees read of) {members : List (String × Json)} {found : List (String × α)}
    (taken : PairsRead (readValue depth) isFirst cs members rest)
    (given : members.mapM (fun m => (of m.2).map (m.1, ·)) = .ok found) {steps : Nat}
    (enough : members.length < steps) :
    (readMembers (readEntry (read depth)) steps isFirst [] cs).map (fun r => (r.1.reverse, r.2)) =
      .ok (found, rest) := by
  have gathered := foldlM_of_mapM given []
  rw [readMembers_of_pairsRead _ _ ?_ taken gathered enough]
  · simp [Except.map]
  · intro key done now afterKey afterColon v later colon inside first
    obtain ⟨entry, entryGiven, rfl⟩ := map_eq_ok_iff.mp first
    obtain ⟨x, valueGiven, rfl⟩ := map_eq_ok_iff.mp entryGiven
    simp only [readEntry, readColon_eq_ok_iff.mpr colon, agrees inside valueGiven, bind,
      Except.bind]

/-- An object with free names and values of one shape. -/
theorem agrees_table {shape : Shape} (agrees : Agrees shape.read (shape.ofJson surplus)) :
    Agrees (Shape.table shape).read ((Shape.table shape).ofJson surplus) := by
  intro depth cs v rest x read given
  cases v with
  | object members =>
      obtain ⟨below, inner, rfl, shown, taken, few⟩ := pairsRead_of_readValue read
      simp only [Shape.read, shown, enter]
      exact readEntries_of_agrees agrees taken given few
  | null | bool | number | string | array => cases given

/-! ### Records -/

variable {fields : Fields}

/-- How a member of a value and a member of a text go into the slots: as a field by both readers, or by
neither. -/
def Fields.AgreesOnMember (surplus : Surplus) (fields : Fields) : Prop :=
  ∀ {depth key slots now afterKey afterColon v later},
    skipBlanks afterKey = ':' :: afterColon → readValue depth afterColon = .ok (v, later) →
    fields.ofMember surplus slots (key, v) = .ok now →
    (fields.readField? depth key slots afterKey = some (.ok (now, later)) ∧ key ∈ fields.names) ∨
      (fields.readField? depth key slots afterKey = none ∧ now = slots ∧ key ∉ fields.names)

theorem agreesOnMember_nil : Fields.nil.AgreesOnMember surplus := by
  intro depth key slots now afterKey afterColon v later _ _ given
  exact .inr ⟨rfl, (Except.ok.inj given).symm, List.not_mem_nil⟩

theorem agreesOnMember_cons {name : String} {presence : Presence} {shape : Shape}
    (agrees : Agrees shape.read (shape.ofJson surplus)) (others : fields.AgreesOnMember surplus) :
    (Fields.cons name presence shape fields).AgreesOnMember surplus := by
  rintro depth key ⟨slot, slots⟩ now afterKey afterColon v later colon read given
  simp only [Fields.ofMember] at given
  split_ifs at given with named taken
  · -- the member is this field, and its slot is free
    obtain ⟨value, valueGiven, same⟩ := bind_eq_ok_iff.mp given
    obtain rfl := Except.ok.inj same
    have present := agrees_present agrees presence read valueGiven
    left
    simp only [Fields.readField?, named, if_true, taken, readColon_eq_ok_iff.mpr colon, present,
      bind, Except.bind, Bool.false_eq_true, if_false, Fields.names, List.mem_cons, true_or, and_self]
  · obtain ⟨others', given', rfl⟩ := map_eq_ok_iff.mp given
    simp only [Fields.readField?, named, if_false, Fields.names, List.mem_cons, false_or]
    rcases others colon read given' with ⟨found, isField⟩ | ⟨passed, rfl, noField⟩
    · exact .inl ⟨by rw [found]; rfl, isField⟩
    · exact .inr ⟨by rw [passed]; rfl, rfl, noField⟩

/-- The members of a record that is read from a value fill its slots as the members of the text do. -/
theorem readMember_of_ofMember (agrees : fields.AgreesOnMember surplus) {key : String}
    {slots now : fields.Slots} {afterKey afterColon later : List Char}
    (colon : skipBlanks afterKey = ':' :: afterColon)
    (read : readValue depth afterColon = .ok (v, later))
    (given : fields.ofMember surplus slots (key, v) = .ok now) :
    readMember (fields.readField? depth) key slots afterKey = .ok (now, later) := by
  rcases agrees colon read given with ⟨found, -⟩ | ⟨passed, rfl, -⟩
  · simp only [readMember, found]
  · simp only [readMember, passed, readColon_eq_ok_iff.mpr colon, skipValue_of_readValue read, bind,
      Except.bind]

/-- The fields of a record that is written as a list. -/
def Fields.AgreesOnItems (surplus : Surplus) (fields : Fields) : Prop :=
  ∀ {title depth index isFirst cs items rest value},
    ItemsRead (readValue depth) isFirst cs items rest →
    fields.ofItems surplus title index items = .ok (value, []) →
    ∃ later, fields.readItems title depth index isFirst cs = .ok (value, later) ∧
      endList later = .ok rest

theorem agreesOnItems_nil : Fields.nil.AgreesOnItems surplus := by
  intro title depth index isFirst cs items rest value read given
  obtain ⟨rfl, rfl⟩ := Prod.mk.inj (Except.ok.inj given)
  cases read with
  | close shown => exact ⟨cs, rfl, by simp [endList, shown]⟩

theorem agreesOnItems_cons {name : String} {presence : Presence} {shape : Shape}
    (agrees : Agrees shape.read (shape.ofJson surplus)) (others : fields.AgreesOnItems surplus) :
    (Fields.cons name presence shape fields).AgreesOnItems surplus := by
  intro title depth index isFirst cs items rest value read given
  cases read with
  | close shown =>
      have next : nextItem isFirst cs = .ok (false, ']' :: rest) :=
        nextItem_close_iff.mpr ⟨shown, rest, rfl⟩
      simp only [Fields.ofItems] at given
      cases absent : (presence.unlisted? : Option (presence.Value shape.Value)) with
      | none => simp [absent] at given
      | some unlisted =>
          simp only [absent] at given
          obtain ⟨⟨values, left⟩, valuesGiven, same⟩ := bind_eq_ok_iff.mp given
          obtain ⟨rfl, rfl⟩ := Prod.mk.inj (Except.ok.inj same)
          have closed : ItemsRead (readValue depth) isFirst cs [] rest := .close shown
          obtain ⟨later, read, ended⟩ := others closed valuesGiven
          refine ⟨later, ?_, ended⟩
          simp only [Fields.readItems, next, absent, read, bind, Except.bind, Bool.false_eq_true,
            if_false]
  | @cons _ _ inner after _ c _ _ part notClose inside more =>
      have next : nextItem isFirst cs = .ok (true, c :: inner) :=
        nextItem_more_iff.mpr ⟨part, c, inner, rfl, notClose⟩
      simp only [Fields.ofItems] at given
      obtain ⟨first, firstGiven, given⟩ := bind_eq_ok_iff.mp given
      obtain ⟨⟨values, left⟩, valuesGiven, same⟩ := bind_eq_ok_iff.mp given
      obtain ⟨rfl, rfl⟩ := Prod.mk.inj (Except.ok.inj same)
      have present := agrees_present agrees presence inside firstGiven
      obtain ⟨later, read, ended⟩ := others more valuesGiven
      refine ⟨later, ?_, ended⟩
      simp only [Fields.readItems, next, present, read, bind, Except.bind, if_true]

theorem readSlots_of_agrees (onMember : fields.AgreesOnMember surplus)
    {members : List (String × Json)} (taken : PairsRead (readValue depth) isFirst cs members rest)
    {before slots : fields.Slots}
    (filled : members.foldlM (fields.ofMember surplus) before = .ok slots) {steps : Nat}
    (enough : members.length < steps) :
    readMembers (readMember (fields.readField? depth)) steps isFirst before cs =
      .ok (slots, rest) := by
  refine readMembers_of_pairsRead _ _ ?_ taken filled enough
  intro key state now afterKey afterColon v later colon read given
  exact readMember_of_ofMember onMember colon read given

theorem agrees_record {name : String} (onMember : fields.AgreesOnMember surplus)
    (onItems : fields.AgreesOnItems surplus) :
    Agrees (Shape.record name fields).read ((Shape.record name fields).ofJson surplus) := by
  intro depth cs v rest x read given
  cases v with
  | object members =>
      obtain ⟨below, inner, rfl, shown, taken, few⟩ := pairsRead_of_readValue read
      have given : members.foldlM (fields.ofMember surplus) fields.emptySlots >>= fields.close =
        .ok x := given
      obtain ⟨slots, filled, closed⟩ := bind_eq_ok_iff.mp given
      have gathered := readSlots_of_agrees onMember taken filled few
      simp only [Shape.read, shown, enter, gathered, closed, bind, Except.bind]
  | array items =>
      obtain ⟨below, inner, rfl, shown, taken, -⟩ := itemsRead_of_readValue read
      have given : (fields.ofItems surplus (listTitle name fields.count) 0 items >>= fun r =>
          if r.2.isEmpty then .ok r.1
          else .error (.wrongLength items.length (surplus.title fields.count))) = .ok x := given
      obtain ⟨⟨value, left⟩, valueGiven, same⟩ := bind_eq_ok_iff.mp given
      dsimp only at same
      split_ifs at same with nothing
      obtain rfl := List.isEmpty_iff.mp nothing
      obtain rfl := Except.ok.inj same
      obtain ⟨later, found, ended⟩ := onItems taken valueGiven
      simp only [Shape.read, shown, enter, found, ended, bind, Except.bind]
  | null | bool | number | string => cases given

/-- A member of an open record goes into its slot, or it is kept. -/
def keepMember (surplus : Surplus) (fields : Fields) (state : fields.Slots × List (String × Json))
    (member : String × Json) : Except Fault (fields.Slots × List (String × Json)) :=
  (fields.ofMember surplus state.1 member).map fun now =>
    (now, if fields.names.contains member.1 then state.2 else member :: state.2)

theorem foldlM_keepMember {members : List (String × Json)} {before slots : fields.Slots}
    (filled : members.foldlM (fields.ofMember surplus) before = .ok slots)
    (kept : List (String × Json)) :
    members.foldlM (keepMember surplus fields) (before, kept) =
      .ok (slots, (members.filter fun m => !fields.names.contains m.1).reverse ++ kept) := by
  induction members generalizing before kept with
  | nil =>
      obtain rfl := Except.ok.inj filled
      rfl
  | cons member members ih =>
      rw [List.foldlM_cons, bind_eq_ok_iff] at filled
      obtain ⟨now, first, filled⟩ := filled
      rw [List.foldlM_cons, bind_eq_ok_iff]
      refine ⟨(now, if fields.names.contains member.1 then kept else member :: kept), ?_, ?_⟩
      · rw [keepMember, first]
        rfl
      · rw [ih filled]
        by_cases isField : member.1 ∈ fields.names
        · simp [isField]
        · simp [isField]

theorem readOpenMember_of_keepMember (onMember : fields.AgreesOnMember surplus) {key : String}
    {state now : fields.Slots × List (String × Json)} {afterKey afterColon later : List Char}
    (colon : skipBlanks afterKey = ':' :: afterColon)
    (read : readValue depth afterColon = .ok (v, later))
    (given : keepMember surplus fields state (key, v) = .ok now) :
    readOpenMember (fields.readField? depth) depth key state afterKey = .ok (now, later) := by
  obtain ⟨slots, filled, rfl⟩ := map_eq_ok_iff.mp given
  rcases onMember colon read filled with ⟨found, isField⟩ | ⟨passed, rfl, noField⟩
  · simp [readOpenMember, found, isField, Except.map]
  · simp [readOpenMember, passed, noField, readPair, readColon_eq_ok_iff.mpr colon, read, bind,
      Except.bind]

theorem agrees_openRecord {name : String} (onMember : fields.AgreesOnMember surplus) :
    Agrees (Shape.openRecord name fields).read ((Shape.openRecord name fields).ofJson surplus) := by
  intro depth cs v rest x read given
  cases v with
  | object members =>
      obtain ⟨below, inner, rfl, shown, taken, few⟩ := pairsRead_of_readValue read
      have given : (members.foldlM (fields.ofMember surplus) fields.emptySlots >>= fun slots =>
          fields.close slots >>= fun value =>
            .ok (value, members.filter fun m => !fields.names.contains m.1)) = .ok x := given
      obtain ⟨slots, filled, given⟩ := bind_eq_ok_iff.mp given
      obtain ⟨value, closed, same⟩ := bind_eq_ok_iff.mp given
      obtain rfl := Except.ok.inj same
      have gathered := readMembers_of_pairsRead (readOpenMember (fields.readField? below) below)
        (keepMember surplus fields)
        (fun colon read given => readOpenMember_of_keepMember onMember colon read given) taken
        (foldlM_keepMember filled []) few
      simp only [Shape.read, shown, enter, gathered, closed, bind, Except.bind]
      simp
  | null | bool | number | string | array => cases given

mutual

/-- Reading a shape while the text goes by agrees with reading it from the value of the text. -/
theorem Shape.agrees (surplus : Surplus) :
    (shape : Shape) → Agrees shape.read (shape.ofJson surplus)
  | .text => agrees_text _
  | .path => agrees_text _
  | .flag => agrees_flag
  | .natural bits => agrees_natural bits
  | .real => agrees_real
  | .variant names => agrees_variant names
  | .anything => agrees_anything
  | .nullable shape => agrees_nullable (shape.agrees surplus)
  | .list shape => agrees_list (shape.agrees surplus)
  | .table shape => agrees_table (shape.agrees surplus)
  | .record _ fields => agrees_record (fields.agreesOnMember surplus) (fields.agreesOnItems surplus)
  | .openRecord _ fields => agrees_openRecord (fields.agreesOnMember surplus)

theorem Fields.agreesOnMember (surplus : Surplus) :
    (fields : Fields) → fields.AgreesOnMember surplus
  | .nil => agreesOnMember_nil
  | .cons _ _ shape rest => agreesOnMember_cons (shape.agrees surplus) (rest.agreesOnMember surplus)

theorem Fields.agreesOnItems (surplus : Surplus) : (fields : Fields) → fields.AgreesOnItems surplus
  | .nil => agreesOnItems_nil
  | .cons _ _ shape rest => agreesOnItems_cons (shape.agrees surplus) (rest.agreesOnItems surplus)

end

theorem Shape.readAll_eq_ok_iff {shape : Shape} {cs : List Char} {value : shape.Value} :
    shape.readAll cs = .ok value ↔
      ∃ rest, shape.read depthLimit cs = .ok (value, rest) ∧ complete rest = .ok () := by
  rw [Shape.readAll, bind_eq_ok_iff]
  constructor
  · rintro ⟨⟨found, rest⟩, read, done⟩
    obtain ⟨⟨⟩, ended, same⟩ := bind_eq_ok_iff.mp done
    obtain rfl := Except.ok.inj same
    exact ⟨rest, read, ended⟩
  · rintro ⟨rest, read, ended⟩
    exact ⟨(value, rest), read, bind_eq_ok_iff.mpr ⟨(), ended, rfl⟩⟩

theorem Json.parse_eq_ok_iff :
    parse cs = .ok v ↔
      ∃ rest, readValue depthLimit cs = .ok (v, rest) ∧ complete rest = .ok () :=
  @Shape.readAll_eq_ok_iff .anything cs v

/-- What the value of a whole text gives is what is read off the text. -/
theorem Shape.readAll_of_parse {shape : Shape} {x : shape.Value} (parsed : parse cs = .ok v)
    (given : shape.ofJson surplus v = .ok x) : shape.readAll cs = .ok x := by
  obtain ⟨rest, read, ended⟩ := Json.parse_eq_ok_iff.mp parsed
  exact Shape.readAll_eq_ok_iff.mpr ⟨rest, shape.agrees surplus read given, ended⟩

end StudyDesk
