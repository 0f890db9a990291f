/-
Module: StudyDesk.Proofs.Record.OneField
Purpose: The texts off which a record of one field is read, and where its field stands in them.
Main exports:
  stepsAs_field, cases_of_steps, IsRecord, readsAs_record, FieldText, IsRecord.spelled_of_fieldText
-/
import StudyDesk.Proofs.Record.Stepping

namespace StudyDesk

open Json Record

variable {depth : Nat} {cs gap core rest : List Char}

/-! ### The field -/

section Field

variable {β : Type} {name : String} {presence : Presence} {shape : Shape}

variable {spelled : presence.Value shape.Value → List Char → Prop}

theorem stepsAs_field
    (inner : ReadsAs (fun cs => readPresent (shape.read depth) cs presence) spelled) :
    StepsAs (readMember ((Fields.cons name presence shape .nil).readField? depth))
      (FieldStep name spelled) := by
  refine (stepsAs_cons inner (stepsAs_nil depth) fun core slots now => ?_).congr ?_
  · exact ⟨fun isValue => ⟨isValue, rfl⟩, And.left⟩
  · rintro key core ⟨slot, ⟨⟩⟩ ⟨slot', ⟨⟩⟩
    refine ⟨And.left, fun step => ⟨step, ?_⟩⟩
    cases step with
    | field given => exact inner.isValue given
    | other _ isValue => exact isValue

/-- Members of other names change nothing. -/
theorem steps_of_others {spelled : β → List Char → Prop} {members : List Member}
    (isValue : ∀ member ∈ members, IsValue member.value)
    (others : ∀ member ∈ members, member.IsOther name) (slots : Option β × Unit) :
    Steps (FieldStep name spelled) members slots slots := by
  induction members with
  | nil => exact .nil
  | cons member members ih =>
      obtain ⟨⟨key, named, different⟩, others⟩ := List.forall_mem_cons.mp others
      obtain ⟨first, isValue⟩ := List.forall_mem_cons.mp isValue
      exact .cons named (.other different first) (ih isValue others)

/-- Once the field is there, only members of other names may follow. -/
theorem others_of_steps {spelled : β → List Char → Prop} {members : List Member} {x : β}
    {final : Option β × Unit} (led : Steps (FieldStep name spelled) members (some x, ()) final) :
    final = (some x, ()) ∧ ∀ member ∈ members, member.IsOther name := by
  generalize start : (some x, ()) = slots at led
  induction led with
  | nil => exact ⟨rfl, List.forall_mem_nil _⟩
  | cons named first _ ih =>
      subst start
      cases first with
      | other different =>
          obtain ⟨same, others⟩ := ih rfl
          exact ⟨same, List.forall_mem_cons.mpr ⟨⟨_, named, different⟩, others⟩⟩

/-- The field is there once, or it is not there. -/
theorem cases_of_steps {spelled : β → List Char → Prop} {members : List Member}
    {final : Option β × Unit} (led : Steps (FieldStep name spelled) members (none, ()) final) :
    (final = (none, ()) ∧ ∀ member ∈ members, member.IsOther name) ∨
      ∃ x before member after, final = (some x, ()) ∧ members = before ++ member :: after ∧
        member.Named name ∧ spelled x member.value ∧
        ∀ other ∈ before ++ after, other.IsOther name := by
  generalize start : (none, ()) = slots at led
  induction led with
  | nil => exact .inl ⟨rfl, List.forall_mem_nil _⟩
  | @cons member members key _ _ _ named first later ih =>
      subst start
      cases first with
      | field given =>
          obtain ⟨same, others⟩ := others_of_steps later
          exact .inr ⟨_, [], member, members, same, rfl, named, given, others⟩
      | other different =>
          have other : member.IsOther name := ⟨key, named, different⟩
          rcases ih rfl with
            ⟨same, others⟩ | ⟨x, before, found, after, same, rfl, named', given, others⟩
          · exact .inl ⟨same, List.forall_mem_cons.mpr ⟨other, others⟩⟩
          · exact .inr ⟨x, member :: before, found, after, same, rfl, named', given,
              List.forall_mem_cons.mpr ⟨other, others⟩⟩

/-- The texts of a record of one field: an object in which the field is there once or, if it has a
default, not at all, and the list of the one value or, if it may be left out there, of none. -/
inductive IsRecord (name : String) (presence : Presence) {α : Type}
    (spelled : presence.Value α → List Char → Prop) :
    presence.Value α × Unit → List Char → Prop where
  | member {x : presence.Value α} {core : List Char} (has : HasMember name (spelled x) core) :
      IsRecord name presence spelled (x, ()) core
  | absent {x : presence.Value α} {core : List Char} (lacks : LacksMember name core)
      (default : presence.absent? = some x) : IsRecord name presence spelled (x, ()) core
  | listed {x : presence.Value α} {item core : List Char} (isArray : IsArray [item] core)
      (given : spelled x item) : IsRecord name presence spelled (x, ()) core
  | unlisted {x : presence.Value α} {core : List Char} (isArray : IsArray [] core)
      (default : presence.unlisted? = some x) : IsRecord name presence spelled (x, ()) core

theorem IsRecord.isValue {x : presence.Value shape.Value × Unit}
    (isRecord : IsRecord name presence spelled x core) : IsValue core := by
  cases isRecord with
  | member has => exact has.isValue
  | absent lacks => exact lacks.isValue
  | listed isArray | unlisted isArray => exact isArray.isValue

/-- The one field of a record that is written as a list is its first item, or it is left out. -/
theorem readItems_field_iff {title : String} {index : Nat} {x : presence.Value shape.Value} :
    (Fields.cons name presence shape .nil).readItems title depth index true cs =
        .ok ((x, ()), rest) ↔
      (∃ c inner, skipBlanks cs = c :: inner ∧ c ≠ ']' ∧
        readPresent (shape.read depth) (c :: inner) presence = .ok (x, rest)) ∨
      ∃ inner, skipBlanks cs = ']' :: inner ∧ presence.unlisted? = some x ∧ rest = cs := by
  rw [Fields.readItems, bind_eq_ok_iff]
  constructor
  · rintro ⟨⟨more, here⟩, next, read⟩
    cases more with
    | true =>
        obtain ⟨part, c, inner, rfl, notClose⟩ := nextItem_more_iff.mp next
        simp only [if_true, bind_eq_ok_iff, Fields.readItems] at read
        obtain ⟨⟨y, after⟩, taken, _, ⟨⟩, same⟩ := read
        cases same
        exact .inl ⟨c, inner, partAt_true_iff.mp part, notClose, taken⟩
    | false =>
        obtain ⟨shown, inner, rfl⟩ := nextItem_close_iff.mp next
        simp only [Bool.false_eq_true, if_false] at read
        cases left : (presence.unlisted? : Option (presence.Value shape.Value)) with
        | none => simp [left] at read
        | some y =>
            simp only [left, bind_eq_ok_iff, Fields.readItems] at read
            obtain ⟨_, ⟨⟩, same⟩ := read
            cases same
            exact .inr ⟨inner, shown, rfl, rfl⟩
  · rintro (⟨c, inner, shown, notClose, taken⟩ | ⟨inner, shown, left, rfl⟩)
    · refine ⟨(true, c :: inner), nextItem_more_iff.mpr ⟨.first shown, c, inner, rfl, notClose⟩, ?_⟩
      simp only [if_true, bind_eq_ok_iff, Fields.readItems]
      exact ⟨(x, rest), taken, ((), rest), rfl, rfl⟩
    · refine ⟨(false, ']' :: inner), nextItem_close_iff.mpr ⟨shown, inner, rfl⟩, ?_⟩
      simp only [Bool.false_eq_true, if_false, left, bind_eq_ok_iff, Fields.readItems]
      exact ⟨((), rest), rfl, rfl⟩

theorem read_list_item
    (inner : ReadsAs (fun cs => readPresent (shape.read depth) cs presence) spelled)
    {item : List Char} {x : presence.Value shape.Value} (isArray : IsArray [item] core)
    (given : spelled x item) (blank : IsGap gap) (title : String) (more : List Char) :
    (Shape.record title (.cons name presence shape .nil)).read (depth + 1) (gap ++ (core ++ more)) =
      .ok ((x, ()), more) := by
  obtain ⟨arranged, -⟩ := isArray
  cases arranged with
  | @cons _ front gap' _ _ lead others =>
      cases others with
      | close blank' =>
          obtain ⟨c, tail, rfl, notSpace, notClose⟩ := (inner.isValue given).head
          have ends : EndsNumber (gap' ++ ']' :: more) :=
            endsNumber_append blank' (endsNumber_cons (by decide) more)
          have part := lead.partAt notSpace (tail ++ (gap' ++ ']' :: more))
          have taken := inner.takes given (List.forall_mem_nil _) ends
          refine (read_list_iff (skipBlanks_enclosed blank (by decide))).mpr
            ⟨gap' ++ ']' :: more, readItems_field_iff.mpr (.inl ?_), ?_⟩
          · refine ⟨c, tail ++ (gap' ++ ']' :: more), ?_, notClose, by simpa using taken⟩
            simpa using partAt_true_iff.mp part
          · rw [skipBlanks_append blank', skipBlanks_cons (by decide)]

theorem read_list_empty {x : presence.Value shape.Value} (isArray : IsArray [] core)
    (default : presence.unlisted? = some x) (blank : IsGap gap) (title : String)
    (more : List Char) :
    (Shape.record title (.cons name presence shape .nil)).read (depth + 1) (gap ++ (core ++ more)) =
      .ok ((x, ()), more) := by
  obtain ⟨arranged, -⟩ := isArray
  rename_i content
  cases arranged with
  | close blank' =>
      have shown : skipBlanks (content ++ ']' :: more) = ']' :: more := by
        rw [skipBlanks_append blank', skipBlanks_cons (by decide)]
      exact (read_list_iff (skipBlanks_enclosed blank (by decide))).mpr
        ⟨_, readItems_field_iff.mpr (.inr ⟨more, shown, default, rfl⟩), shown⟩

/-- A field that is there once leads to its value. -/
theorem steps_of_member {before after : List Member} {member : Member}
    {x : presence.Value shape.Value}
    (isValue : ∀ other ∈ before ++ member :: after, IsValue other.value)
    (named : member.Named name) (given : spelled x member.value)
    (others : ∀ other ∈ before ++ after, other.IsOther name) :
    Steps (FieldStep name spelled) (before ++ member :: after) (none, ()) (some x, ()) := by
  obtain ⟨first, isValue⟩ := List.forall_mem_append.mp isValue
  obtain ⟨others, others'⟩ := List.forall_mem_append.mp others
  exact (steps_of_others first others _).append
    (.cons named (.field given)
      (steps_of_others (List.forall_mem_cons.mp isValue).2 others' _))

/-- What is read as a record off a list is such a list. -/
theorem exists_listed
    (inner : ReadsAs (fun cs => readPresent (shape.read depth) cs presence) spelled)
    {title : String} {index : Nat} {x : presence.Value shape.Value} {later : List Char}
    (taken : (Fields.cons name presence shape .nil).readItems title depth index true cs =
      .ok ((x, ()), later)) (ended : skipBlanks later = ']' :: rest) :
    ∃ content, IsRecord name presence spelled (x, ()) ('[' :: (content ++ [']'])) ∧
      cs = content ++ ']' :: rest := by
  obtain ⟨gap, split, blank⟩ := exists_gap later
  rw [ended] at split
  rcases readItems_field_iff.mp taken with
    ⟨c, tail, begins, notClose, field⟩ | ⟨tail, closes, default, rfl⟩
  · obtain ⟨none, item, blank', given, behind⟩ := inner.exists_core field
    obtain ⟨front, before, blank''⟩ := exists_gap cs
    obtain rfl := blank'.eq_nil (isSpace_of_skipBlanks begins) behind
    have isArray : IsArray [item] ('[' :: (front ++ (item ++ gap) ++ [']'])) :=
      .mk (.cons (.first blank'') (.close blank)) (by simpa using inner.isValue given)
    refine ⟨_, .listed isArray given, ?_⟩
    rw [before, begins, behind, split]
    simp
  · have isArray : IsArray [] ('[' :: (gap ++ [']'])) := .mk (.close blank) (List.forall_mem_nil _)
    exact ⟨gap, .unlisted isArray default, split⟩

/-- The field is there once, or it has its default. -/
theorem IsRecord.of_steps {members : List Member}
    {final : Option (presence.Value shape.Value) × Unit} {x : presence.Value shape.Value}
    (isObject : IsObject members core) (led : Steps (FieldStep name spelled) members (none, ()) final)
    (closed : (Fields.cons name presence shape .nil).close final = .ok (x, ())) :
    IsRecord name presence spelled (x, ()) core := by
  rcases cases_of_steps led with
    ⟨rfl, others⟩ | ⟨y, before, member, after, rfl, rfl, named, given, others⟩
  · cases default : (presence.absent? : Option (presence.Value shape.Value)) with
    | none => simp [Fields.close, default] at closed
    | some y =>
        simp only [Fields.close, default] at closed
        obtain ⟨rfl, -⟩ := Prod.mk.inj (Except.ok.inj closed)
        exact .absent (.mk isObject others) default
  · obtain ⟨rfl, -⟩ := Prod.mk.inj (Except.ok.inj closed)
    exact .member (.mk isObject named given others)

theorem readsAs_record
    (inner : ReadsAs (fun cs => readPresent (shape.read depth) cs presence) spelled)
    (name title : String) :
    ReadsAs ((Shape.record title (.cons name presence shape .nil)).read (depth + 1))
      (IsRecord name presence spelled) where
  isValue := IsRecord.isValue
  takes := by
    intro x core gap more isRecord blank ends
    cases isRecord with
    | @member x _ has =>
        obtain ⟨isObject, named, given, others⟩ := has
        have led := steps_of_member isObject.isValue_of_mem named given others
        exact (stepsAs_field inner).read_object isObject led rfl blank title more
    | @absent x _ lacks default =>
        obtain ⟨isObject, others⟩ := lacks
        have led : Steps (FieldStep name spelled) _ (none, ()) (none, ()) :=
          steps_of_others isObject.isValue_of_mem others _
        have closed : (Fields.cons name presence shape .nil).close (none, ()) = .ok (x, ()) := by
          simp only [Fields.close, default]
          rfl
        exact (stepsAs_field inner).read_object isObject led closed blank title more
    | listed isArray given => exact read_list_item inner isArray given blank title more
    | unlisted isArray default => exact read_list_empty isArray default blank title more
  exists_core := by
    rintro cs ⟨x, ⟨⟩⟩ rest read
    obtain ⟨here, list | object⟩ := shown_of_read read
    · obtain ⟨gap, split, blank⟩ := exists_gap cs
      obtain ⟨later, taken, ended⟩ := (read_list_iff list).mp read
      obtain ⟨content, isRecord, rfl⟩ := exists_listed inner taken ended
      exact ⟨gap, _, blank, isRecord, by rw [split, list]; simp⟩
    · obtain ⟨gap, members, core, final, blank, isObject, led, closed, split⟩ :=
        (stepsAs_field inner).exists_object object read
      exact ⟨gap, core, blank, .of_steps isObject led closed, split⟩

/-- The text of the value that the text of a record gives to its field. -/
inductive FieldText (name : String) : List Char → List Char → Prop where
  | member {members : List Member} {member : Member} {core : List Char}
      (isObject : IsObject members core) (listed : member ∈ members) (named : member.Named name) :
      FieldText name member.value core
  | item {value core : List Char} (isArray : IsArray [value] core) : FieldText name value core

theorem FieldText.isValue {value : List Char} (field : FieldText name value core) :
    IsValue core := by
  cases field with
  | member isObject => exact isObject.isValue
  | item isArray => exact isArray.isValue

/-- The field of a record is read off the text that stands for it. -/
theorem IsRecord.spelled_of_fieldText {x : presence.Value shape.Value} {value : List Char}
    (isRecord : IsRecord name presence spelled (x, ()) core) (field : FieldText name value core) :
    spelled x value := by
  cases isRecord with
  | member has =>
      obtain ⟨isObject, named, given, others⟩ := has
      cases field with
      | member isObject' listed named' =>
          obtain rfl := isObject.unique isObject'
          simp only [List.mem_append, List.mem_cons] at listed others
          rcases listed with before | rfl | after
          · exact absurd (others _ (.inl before)) (Member.Named.not_isOther named')
          · exact given
          · exact absurd (others _ (.inr after)) (Member.Named.not_isOther named')
      | item isArray => exact absurd isObject isArray.not_isObject
  | absent lacks =>
      obtain ⟨isObject, others⟩ := lacks
      cases field with
      | member isObject' listed named' =>
          obtain rfl := isObject.unique isObject'
          exact absurd (others _ listed) (Member.Named.not_isOther named')
      | item isArray => exact absurd isObject isArray.not_isObject
  | listed isArray given =>
      cases field with
      | member isObject => exact absurd isObject isArray.not_isObject
      | item isArray' =>
          obtain rfl := List.singleton_inj.mp (isArray.unique isArray')
          exact given
  | unlisted isArray =>
      cases field with
      | member isObject => exact absurd isObject isArray.not_isObject
      | item isArray' => cases isArray.unique isArray'

/-- The field of a record stands somewhere in its text, or it has its default. -/
theorem IsRecord.exists_fieldText {x : presence.Value shape.Value}
    (isRecord : IsRecord name presence spelled (x, ()) core)
    (notAbsent : presence.absent? ≠ some x) (notUnlisted : presence.unlisted? ≠ some x) :
    ∃ value, FieldText name value core ∧ spelled x value := by
  cases isRecord with
  | member has =>
      obtain ⟨isObject, named, given, -⟩ := has
      exact ⟨_, .member isObject (by simp) named, given⟩
  | absent _ default => exact absurd default notAbsent
  | listed isArray given => exact ⟨_, .item isArray, given⟩
  | unlisted _ default => exact absurd default notUnlisted

end Field

end StudyDesk
