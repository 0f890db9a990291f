/-
Module: StudyDesk.Proofs.Record.Stepping
Purpose: The texts off which a record is read, whatever its fields are.
Main exports:
  StepsAs, Steps, FieldStep, stepsAs_nil, stepsAs_cons, StepsAs.read_object,
  StepsAs.exists_object, read_list_iff
-/
import StudyDesk.Proofs.Json.Unambiguous
import StudyDesk.Proofs.Record.Spelling

namespace StudyDesk

open Json Record

variable {depth : Nat} {isFirst : Bool} {cs gap core content more rest : List Char}

/-! ### Members -/

section Members

variable {σ : Type} {member : String → σ → List Char → Read σ}
variable {step : String → List Char → σ → σ → Prop} {state final : σ}

/-- A reader of members steps from one state to the next exactly where a name and a value say so. -/
structure StepsAs (member : String → σ → List Char → Read σ)
    (step : String → List Char → σ → σ → Prop) : Prop where
  isValue : ∀ {key core state now}, step key core state now → IsValue core
  takes : ∀ {key core state now before after more}, step key core state now → IsGap before →
    IsGap after → EndsNumber more →
      member key state (before ++ ':' :: (after ++ (core ++ more))) = .ok (now, more)
  exists_core : ∀ {key state now cs rest}, member key state cs = .ok (now, rest) →
    ∃ before after core, IsGap before ∧ IsGap after ∧ step key core state now ∧
      cs = before ++ ':' :: (after ++ (core ++ rest))

/-- The members of an object lead from one state to another, one step after the other. -/
inductive Steps (step : String → List Char → σ → σ → Prop) : List Member → σ → σ → Prop where
  | nil {state : σ} : Steps step [] state state
  | cons {member : Member} {members : List Member} {key : String} {state now final : σ}
      (named : member.Named key) (first : step key member.value state now)
      (others : Steps step members now final) : Steps step (member :: members) state final

theorem StepsAs.isValue_of_steps (reads : StepsAs member step) {members : List Member}
    (led : Steps step members state final) : ∀ member ∈ members, IsValue member.value := by
  induction led with
  | nil => exact List.forall_mem_nil _
  | cons _ first _ ih => exact List.forall_mem_cons.mpr ⟨reads.isValue first, ih⟩

theorem StepsAs.readMembers (reads : StepsAs member step) {members : List Member}
    (arranged : Arranged Member.text isFirst members content)
    (framed : ∀ member ∈ members, member.IsFramed) (led : Steps step members state final)
    {steps : Nat} (enough : members.length < steps) (more : List Char) :
    readMembers member steps isFirst state (content ++ '}' :: more) = .ok (final, more) := by
  obtain ⟨steps, rfl⟩ := Nat.exists_eq_add_of_le' (Nat.one_le_of_lt enough)
  induction arranged generalizing state steps with
  | @close isFirst gap blank =>
      cases led
      rw [Json.readMembers, bind_eq_ok_iff]
      exact ⟨(false, '}' :: more), nextMember_close blank isFirst more, rfl⟩
  | @cons isFirst front content first members lead others ih =>
      obtain ⟨isFramed, later⟩ := List.forall_mem_cons.mp framed
      cases led with
      | @cons _ _ key _ now _ named step led =>
          have ends : EndsNumber (content ++ '}' :: more) := others.endsNumber (by decide) more
          have part := lead.partAt (show isSpace '"' = false by decide)
            (first.text.tail ++ (content ++ '}' :: more))
          have text : readText (first.text.tail ++ (content ++ '}' :: more)) = .ok (key,
              first.before ++ ':' :: (first.after ++ (first.value ++ (content ++ '}' :: more)))) :=
            readText_eq_ok_iff.mpr ⟨first.name, named, by simp [Member.text]⟩
          have stepped := reads.takes step isFramed.before isFramed.after ends
          obtain ⟨steps, rfl⟩ :=
            Nat.exists_eq_add_of_le' (Nat.one_le_of_lt (Nat.lt_of_succ_lt_succ enough))
          rw [List.append_assoc, List.append_assoc, Json.readMembers, bind_eq_ok_iff]
          refine ⟨(true, _), nextMember_more_iff.mpr part, ?_⟩
          simp only [if_true, bind_eq_ok_iff]
          exact ⟨_, text, _, stepped, ih later led steps (Nat.lt_of_succ_lt_succ enough)⟩

theorem StepsAs.exists_members (reads : StepsAs member step) {steps : Nat}
    (read : Json.readMembers member steps isFirst state cs = .ok (final, rest)) :
    ∃ members content, Arranged Member.text isFirst members content ∧
      (∀ member ∈ members, member.IsFramed) ∧ Steps step members state final ∧
      cs = content ++ '}' :: rest := by
  induction steps generalizing isFirst state cs with
  | zero => cases read
  | succ steps ih =>
      rw [Json.readMembers, bind_eq_ok_iff] at read
      obtain ⟨⟨more, here⟩, next, read⟩ := read
      cases more with
      | false =>
          obtain ⟨shown, inner, rfl⟩ := nextMember_close_iff.mp next
          obtain ⟨rfl, rfl⟩ := Prod.mk.inj (Except.ok.inj read)
          obtain ⟨gap, split, blank⟩ := exists_gap cs
          exact ⟨[], gap, .close blank, List.forall_mem_nil _, .nil, shown ▸ split⟩
      | true =>
          simp only [if_true, bind_eq_ok_iff] at read
          obtain ⟨⟨key, afterName⟩, named, ⟨now, later⟩, stepped, read⟩ := read
          obtain ⟨name, denotes, rfl⟩ := readText_eq_ok_iff.mp named
          obtain ⟨before, after, core, blank, blank', step, rfl⟩ := reads.exists_core stepped
          obtain ⟨members, content, arranged, framed, led, rfl⟩ := ih read
          obtain ⟨front, lead, rfl⟩ := (nextMember_more_iff.mp next).exists_lead
          exact ⟨⟨name, before, after, core⟩ :: members, _, .cons lead arranged,
            List.forall_mem_cons.mpr ⟨⟨denotes.isBody, blank, blank'⟩, framed⟩,
            .cons denotes step led, by simp [Member.text]⟩

theorem Steps.append {members others : List Member} {state now final : σ}
    (one : Steps step members state now) (two : Steps step others now final) :
    Steps step (members ++ others) state final := by
  induction one with
  | nil => exact two
  | cons named first _ ih => exact .cons named first (ih two)

theorem StepsAs.congr {step' : String → List Char → σ → σ → Prop} (reads : StepsAs member step)
    (same : ∀ key core state now, step key core state now ↔ step' key core state now) :
    StepsAs member step' := by
  have equal : step = step' :=
    funext fun key => funext fun core => funext fun state => funext fun now =>
      propext (same key core state now)
  exact equal ▸ reads

end Members

/-! ### Behind a name -/

section Behind

variable {α : Type} {read : List Char → Read α} {spelled : α → List Char → Prop}

/-- A value that is passed over tells nothing. -/
theorem readsAs_passed :
    ReadsAs (fun cs => (skipValue cs).map fun rest => ((), rest)) (fun _ => IsValue) where
  isValue := id
  takes := fun isValue blank ends =>
    map_eq_ok_iff.mpr ⟨_, skipValue_append isValue blank ends, rfl⟩
  exists_core := by
    intro cs x rest read
    obtain ⟨after, skipped, same⟩ := map_eq_ok_iff.mp read
    obtain ⟨-, rfl⟩ := Prod.mk.inj same
    exact exists_value_of_skipValue skipped

/-- Behind a name stands a colon, and behind the colon the value. -/
theorem ReadsAs.takes_behind (inner : ReadsAs read spelled) {x : α} {before after : List Char}
    (given : spelled x core) (blank : IsGap before) (blank' : IsGap after)
    (ends : EndsNumber more) :
    (readColon (before ++ ':' :: (after ++ (core ++ more))) >>= read) = .ok (x, more) := by
  refine bind_eq_ok_iff.mpr ⟨_, readColon_eq_ok_iff.mpr ?_, inner.takes given blank' ends⟩
  rw [skipBlanks_append blank, skipBlanks_cons (by decide)]

theorem ReadsAs.exists_behind (inner : ReadsAs read spelled) {x : α}
    (taken : (readColon cs >>= read) = .ok (x, rest)) :
    ∃ before after core, IsGap before ∧ IsGap after ∧ spelled x core ∧
      cs = before ++ ':' :: (after ++ (core ++ rest)) := by
  obtain ⟨afterColon, colon, taken⟩ := bind_eq_ok_iff.mp taken
  obtain ⟨after, core, blank', given, rfl⟩ := inner.exists_core taken
  obtain ⟨before, split, blank⟩ := exists_gap cs
  rw [readColon_eq_ok_iff.mp colon] at split
  exact ⟨before, after, core, blank, blank', given, split⟩

end Behind

/-! ### Field by field -/

section Fieldwise

variable {name key : String} {presence : Presence} {shape : Shape} {others : Fields}

/-- A member is the field, which must not be there yet, or it has another name. -/
inductive FieldStep {β : Type} (name : String) (spelled : β → List Char → Prop) :
    String → List Char → Option β × Unit → Option β × Unit → Prop where
  | field {x : β} {core : List Char} (given : spelled x core) :
      FieldStep name spelled name core (none, ()) (some x, ())
  | other {key : String} {core : List Char} {slots : Option β × Unit} (different : key ≠ name)
      (isValue : IsValue core) : FieldStep name spelled key core slots slots

theorem fieldStep_other_iff {β : Type} {spelled : β → List Char → Prop}
    {slots now : Option β × Unit} (different : key ≠ name) :
    FieldStep name spelled key core slots now ↔ IsValue core ∧ now = slots := by
  constructor
  · rintro (given | ⟨-, isValue⟩)
    · exact absurd rfl different
    · exact ⟨isValue, rfl⟩
  · rintro ⟨isValue, rfl⟩
    exact .other different isValue

/-- A member that is no field is passed over. -/
theorem readMember_nil (slots : Fields.nil.Slots) (cs : List Char) :
    readMember (Fields.nil.readField? depth) key slots cs =
      (readColon cs >>= fun rest => (skipValue rest).map fun rest => ((), rest)) := by
  simp only [readMember, Fields.readField?, bind, Except.bind]
  cases readColon cs with
  | error failure => rfl
  | ok rest =>
      dsimp only
      cases skipValue rest <;> rfl

theorem readMember_field (slots : others.Slots) (cs : List Char) :
    readMember ((Fields.cons name presence shape others).readField? depth) name (none, slots) cs =
      (readColon cs >>= fun rest => readPresent (shape.read depth) rest presence).map
        fun r => ((some r.1, slots), r.2) := by
  simp only [readMember, Fields.readField?, if_true, Option.isSome_none, Bool.false_eq_true,
    if_false]
  cases readColon cs with
  | error failure => rfl
  | ok rest =>
      simp only [bind, Except.bind]
      cases readPresent (shape.read depth) rest presence <;> rfl

theorem readMember_taken (x : presence.Value shape.Value) (slots : others.Slots)
    (cs : List Char) :
    readMember ((Fields.cons name presence shape others).readField? depth) name (some x, slots) cs =
      .error ⟨.duplicateField name, afterName cs, 0⟩ := by
  simp only [readMember, Fields.readField?, if_true, Option.isSome_some]

theorem readMember_other (different : key ≠ name) (slot : Option (presence.Value shape.Value))
    (slots : others.Slots) (cs : List Char) :
    readMember ((Fields.cons name presence shape others).readField? depth) key (slot, slots) cs =
      (readMember (others.readField? depth) key slots cs).map fun r => ((slot, r.1), r.2) := by
  simp only [readMember, Fields.readField?, if_neg different]
  cases others.readField? depth key slots cs with
  | some result => rfl
  | none =>
      simp only [Option.map_none, bind, Except.bind]
      cases readColon cs with
      | error failure => rfl
      | ok rest =>
          dsimp only
          cases skipValue rest <;> rfl

theorem stepsAs_nil (depth : Nat) :
    StepsAs (readMember (Fields.nil.readField? depth)) (fun _ core _ _ => IsValue core) where
  isValue := id
  takes := fun isValue blank blank' ends =>
    (readMember_nil _ _).trans (readsAs_passed.takes_behind isValue blank blank' ends)
  exists_core := fun read =>
    readsAs_passed.exists_behind ((readMember_nil _ _).symm.trans read)

/-- A field steps by itself, and the other fields step as they do without it: they do not know its
name. -/
theorem stepsAs_cons {spelled : presence.Value shape.Value → List Char → Prop}
    {step : String → List Char → others.Slots → others.Slots → Prop}
    (inner : ReadsAs (fun cs => readPresent (shape.read depth) cs presence) spelled)
    (later : StepsAs (readMember (others.readField? depth)) step)
    (fresh : ∀ core slots now, step name core slots now ↔ IsValue core ∧ now = slots) :
    StepsAs (readMember ((Fields.cons name presence shape others).readField? depth))
      (fun key core slots now => FieldStep name spelled key core (slots.1, ()) (now.1, ()) ∧
        step key core slots.2 now.2) where
  isValue := fun step => later.isValue step.2
  takes := by
    rintro key core ⟨slot, slots⟩ ⟨slot', slots'⟩ before after more ⟨first, step⟩ blank blank' ends
    cases first with
    | field given =>
        obtain ⟨-, rfl⟩ := (fresh _ _ _).mp step
        have taken := inner.takes_behind given blank blank' ends
        exact (readMember_field _ _).trans (map_eq_ok_iff.mpr ⟨_, taken, rfl⟩)
    | other different =>
        have taken := later.takes step blank blank' ends
        exact (readMember_other different slot slots _).trans (map_eq_ok_iff.mpr ⟨_, taken, rfl⟩)
  exists_core := by
    rintro key ⟨slot, slots⟩ now cs rest read
    by_cases same : key = name
    · subst same
      cases slot with
      | some x => cases (readMember_taken x slots cs).symm.trans read
      | none =>
          obtain ⟨r, taken, result⟩ := map_eq_ok_iff.mp ((readMember_field slots cs).symm.trans read)
          obtain ⟨rfl, rfl⟩ := Prod.mk.inj result
          obtain ⟨before, after, core, blank, blank', given, split⟩ := inner.exists_behind taken
          have passed := (fresh core slots slots).mpr ⟨inner.isValue given, rfl⟩
          exact ⟨before, after, core, blank, blank', ⟨.field given, passed⟩, split⟩
    · obtain ⟨r, taken, result⟩ :=
        map_eq_ok_iff.mp ((readMember_other same slot slots cs).symm.trans read)
      obtain ⟨rfl, rfl⟩ := Prod.mk.inj result
      obtain ⟨before, after, core, blank, blank', step, split⟩ := later.exists_core taken
      exact ⟨before, after, core, blank, blank', ⟨.other same (later.isValue step), step⟩, split⟩

end Fieldwise

/-! ### Whole records -/

section Whole

variable {fields : Fields} {x : fields.Value}
variable {step : String → List Char → fields.Slots → fields.Slots → Prop}

/-- An object is read member by member, and the record is closed behind it. -/
theorem StepsAs.read_object (reads : StepsAs (readMember (fields.readField? depth)) step)
    {members : List Member} {final : fields.Slots} (isObject : IsObject members core)
    (led : Steps step members fields.emptySlots final) (closed : fields.close final = .ok x)
    (blank : IsGap gap) (title : String) (more : List Char) :
    (Shape.record title fields).read (depth + 1) (gap ++ (core ++ more)) = .ok (x, more) := by
  obtain ⟨arranged, framed, -⟩ := isObject
  have few := arranged.length_le fun member _ => List.cons_ne_nil '"' _
  rename_i content
  have enough : members.length < (content ++ '}' :: more).length + 1 := by
    rw [List.length_append]
    omega
  have gathered := reads.readMembers arranged framed led enough more
  simp only [Shape.read, skipBlanks_enclosed blank (show isSpace '{' = false by decide), enter]
  exact bind_eq_ok_iff.mpr ⟨_, gathered, by simp only [closed]⟩

/-- What is read as a record off an object is such an object. -/
theorem StepsAs.exists_object (reads : StepsAs (readMember (fields.readField? depth)) step)
    {title : String} {inner : List Char} (shown : skipBlanks cs = '{' :: inner)
    (read : (Shape.record title fields).read (depth + 1) cs = .ok (x, rest)) :
    ∃ gap members core final, IsGap gap ∧ IsObject members core ∧
      Steps step members fields.emptySlots final ∧ fields.close final = .ok x ∧
      cs = gap ++ (core ++ rest) := by
  obtain ⟨gap, split, blank⟩ := exists_gap cs
  simp only [Shape.read, shown, enter] at read
  obtain ⟨⟨slots, later⟩, taken, read⟩ := bind_eq_ok_iff.mp read
  dsimp only at read
  split at read
  case h_1 closed =>
    obtain ⟨rfl, rfl⟩ := Prod.mk.inj (Except.ok.inj read)
    obtain ⟨members, content, arranged, framed, led, rfl⟩ := reads.exists_members taken
    have isObject : IsObject members ('{' :: (content ++ ['}'])) :=
      .mk arranged framed (reads.isValue_of_steps led)
    exact ⟨gap, members, _, slots, blank, isObject, led, closed, by rw [split, shown]; simp⟩
  case h_2 => cases read

theorem endList_eq_ok_iff : endList cs = .ok rest ↔ skipBlanks cs = ']' :: rest := by
  unfold endList
  split
  case h_1 shown => simp [failAt, shown]
  case h_2 shown => simp [shown]
  case h_3 shown =>
    rw [shown]
    split <;> simp [failAt]
  case h_4 notClose _ =>
    simp only [failAt, reduceCtorEq, false_iff]
    exact notClose rest

/-- A record that is written as a list is read up to the bracket. -/
theorem read_list_iff {title : String} {inner : List Char} (shown : skipBlanks cs = '[' :: inner) :
    (Shape.record title fields).read (depth + 1) cs = .ok (x, rest) ↔
      ∃ later, fields.readItems (listTitle title fields.count) depth 0 true inner =
        .ok (x, later) ∧ skipBlanks later = ']' :: rest := by
  simp only [Shape.read, shown, enter, bind_eq_ok_iff]
  constructor
  · rintro ⟨⟨y, later⟩, taken, after, ended, same⟩
    obtain ⟨rfl, rfl⟩ := Prod.mk.inj (Except.ok.inj same)
    exact ⟨later, taken, endList_eq_ok_iff.mp ended⟩
  · rintro ⟨later, taken, ended⟩
    exact ⟨_, taken, rest, endList_eq_ok_iff.mpr ended, rfl⟩

/-- A record stands between one pair of brackets or the other. -/
theorem shown_of_read {title : String}
    (read : (Shape.record title fields).read (depth + 1) cs = .ok (x, rest)) :
    ∃ inner, skipBlanks cs = '[' :: inner ∨ skipBlanks cs = '{' :: inner := by
  rw [Shape.read] at read
  split at read
  case h_1 => cases read
  case h_2 inner shown => exact ⟨inner, .inl shown⟩
  case h_3 inner shown => exact ⟨inner, .inr shown⟩
  case h_4 => cases read

end Whole

end StudyDesk
