/-
Module: StudyDesk.Proofs.Record.Uniform
Purpose: The texts off which a record is read whose fields must all be there and are of one shape.
Main exports:
  Fields.uniform, Fields.gathered, IsUniform, readsAs_uniform
-/
import StudyDesk.Proofs.Record.OneField

namespace StudyDesk

open Json Record

/-- Fields of one shape, which must all be there. -/
def Fields.uniform (shape : Shape) : List String → Fields
  | [] => .nil
  | name :: names => .cons name .required shape (uniform shape names)

/-- The data of such fields, in their order. -/
def Fields.gathered {shape : Shape} :
    (names : List String) → (uniform shape names).Value → List shape.Value
  | [], _ => []
  | _ :: names, (x, values) => x :: gathered names values

variable {depth : Nat} {isFirst : Bool} {cs core rest : List Char}
variable {shape : Shape} {spelled : shape.Value → List Char → Prop}

/-! ### Objects -/

/-- Each field sees a member for itself. -/
def UniformStep (spelled : shape.Value → List Char → Prop) (key : String) (core : List Char) :
    (names : List String) → (Fields.uniform shape names).Slots →
    (Fields.uniform shape names).Slots → Prop
  | [], _, _ => IsValue core
  | name :: names, (slot, slots), (slot', slots') =>
      FieldStep name spelled key core (slot, ()) (slot', ()) ∧
        UniformStep spelled key core names slots slots'

/-- A member of another name changes nothing. -/
theorem uniformStep_other_iff {key : String} {names : List String} (noField : key ∉ names)
    {slots now : (Fields.uniform shape names).Slots} :
    UniformStep spelled key core names slots now ↔ IsValue core ∧ now = slots := by
  induction names with
  | nil => exact ⟨fun isValue => ⟨isValue, rfl⟩, And.left⟩
  | cons name names ih =>
      obtain ⟨slot, slots⟩ := slots
      obtain ⟨slot', slots'⟩ := now
      obtain ⟨different, noField⟩ := not_or.mp (mt List.mem_cons.mpr noField)
      constructor
      · rintro ⟨first, step⟩
        obtain ⟨isValue, same⟩ := (fieldStep_other_iff different).mp first
        obtain ⟨-, rfl⟩ := (ih noField).mp step
        obtain ⟨rfl, -⟩ := Prod.mk.inj same
        exact ⟨isValue, rfl⟩
      · rintro ⟨isValue, same⟩
        obtain ⟨rfl, rfl⟩ := Prod.mk.inj same
        exact ⟨.other different isValue, (ih noField).mpr ⟨isValue, rfl⟩⟩

theorem stepsAs_uniform (inner : ReadsAs (shape.read depth) spelled) {names : List String}
    (distinct : names.Nodup) :
    StepsAs (readMember ((Fields.uniform shape names).readField? depth))
      (fun key core => UniformStep spelled key core names) := by
  induction names with
  | nil => exact stepsAs_nil depth
  | cons name names ih =>
      obtain ⟨fresh, distinct⟩ := List.nodup_cons.mp distinct
      have first : ReadsAs (fun cs => readPresent (shape.read depth) cs .required) spelled := inner
      exact stepsAs_cons first (ih distinct) fun _ _ _ => uniformStep_other_iff fresh

/-- The members lead each field where they lead it alone. -/
theorem steps_uniform_cons_iff {name : String} {names : List String} {members : List Member}
    {slot slot' : Option shape.Value} {slots slots' : (Fields.uniform shape names).Slots} :
    Steps (fun key core => UniformStep spelled key core (name :: names)) members (slot, slots)
        (slot', slots') ↔
      Steps (FieldStep name spelled) members (slot, ()) (slot', ()) ∧
        Steps (fun key core => UniformStep spelled key core names) members slots slots' := by
  induction members generalizing slot slots with
  | nil =>
      constructor
      · rintro ⟨⟩
        exact ⟨.nil, .nil⟩
      · rintro ⟨⟨⟩, ⟨⟩⟩
        exact .nil
  | cons member members ih =>
      constructor
      · intro led
        cases led with
        | @cons _ _ key _ now _ named first others =>
            obtain ⟨one, two⟩ := ih.mp others
            exact ⟨.cons named first.1 one, .cons named first.2 two⟩
      · rintro ⟨one, two⟩
        cases one with
        | @cons _ _ key _ now _ named first others =>
            cases two with
            | @cons _ _ key' _ now' _ named' second later =>
                obtain rfl := named.unique named'
                exact .cons named ⟨first, second⟩ (ih.mpr ⟨others, later⟩)

/-- Where a record is closed, each of its fields was there once. -/
theorem each_of_steps {names : List String} {members : List Member}
    {final : (Fields.uniform shape names).Slots} {values : (Fields.uniform shape names).Value}
    (isObject : IsObject members core)
    (led : Steps (fun key core => UniformStep spelled key core names) members
      (Fields.uniform shape names).emptySlots final)
    (closed : (Fields.uniform shape names).close final = .ok values) :
    List.Forall₂ (fun name x => HasMember name (spelled x) core) names
      (Fields.gathered names values) := by
  induction names with
  | nil => exact .nil
  | cons name names ih =>
      obtain ⟨slot, slots⟩ := final
      obtain ⟨first, others⟩ := steps_uniform_cons_iff.mp led
      rcases cases_of_steps first with
        ⟨same, -⟩ | ⟨x, before, member, after, same, rfl, named, given, rest⟩
      · obtain ⟨rfl, -⟩ := Prod.mk.inj same
        cases closed
      · obtain ⟨rfl, -⟩ := Prod.mk.inj same
        obtain ⟨values, closedLater, rfl⟩ := map_eq_ok_iff.mp closed
        exact .cons (.mk isObject named given rest) (ih others closedLater)

/-- Where there are no fields, members must still have names. -/
theorem steps_uniform_nil {members : List Member}
    (isValue : ∀ member ∈ members, IsValue member.value)
    (named : ∀ member ∈ members, ∃ key, member.Named key) :
    Steps (fun key core => UniformStep spelled key core []) members () () := by
  induction members with
  | nil => exact .nil
  | cons member members ih =>
      obtain ⟨first, isValue⟩ := List.forall_mem_cons.mp isValue
      obtain ⟨⟨key, named⟩, others⟩ := List.forall_mem_cons.mp named
      exact .cons named first (ih isValue others)

/-- Beside a member of a name stand members of other names, so that all have names. -/
theorem named_of_others {name : String} {before after : List Member} {member : Member}
    (named : member.Named name) (others : ∀ other ∈ before ++ after, other.IsOther name) :
    ∀ other ∈ before ++ member :: after, ∃ key, other.Named key := by
  intro other listed
  rcases List.mem_append.mp listed with first | later
  · obtain ⟨key, isNamed, -⟩ := others other (List.mem_append_left after first)
    exact ⟨key, isNamed⟩
  · rcases List.mem_cons.mp later with rfl | last
    · exact ⟨name, named⟩
    · obtain ⟨key, isNamed, -⟩ := others other (List.mem_append_right before last)
      exact ⟨key, isNamed⟩

/-- An object that has each field once leads to the record of them. -/
theorem exists_steps_of_each {names : List String} {members : List Member}
    {values : (Fields.uniform shape names).Value} (isObject : IsObject members core)
    (named : ∀ member ∈ members, ∃ key, member.Named key)
    (each : List.Forall₂ (fun name x => HasMember name (spelled x) core) names
      (Fields.gathered names values)) :
    ∃ final, Steps (fun key core => UniformStep spelled key core names) members
        (Fields.uniform shape names).emptySlots final ∧
      (Fields.uniform shape names).close final = .ok values := by
  induction names with
  | nil => exact ⟨(), steps_uniform_nil isObject.isValue_of_mem named, rfl⟩
  | cons name names ih =>
      obtain ⟨x, values⟩ := values
      obtain ⟨first, others⟩ := List.forall₂_cons.mp each
      obtain ⟨final, led, closed⟩ := ih others
      obtain ⟨isObject', isNamed, given, rest⟩ := first
      obtain rfl := isObject'.unique isObject
      refine ⟨(some x, final), steps_uniform_cons_iff.mpr
        ⟨steps_of_member isObject.isValue_of_mem isNamed given rest, led⟩, ?_⟩
      exact map_eq_ok_iff.mpr ⟨values, closed, rfl⟩

/-! ### Lists -/

/-- Fields that are written as a list are read item by item, up to the bracket. -/
theorem readItems_uniform_iff {title : String} {index : Nat} {names : List String}
    {values : (Fields.uniform shape names).Value} :
    (∃ later, (Fields.uniform shape names).readItems title depth index isFirst cs =
        .ok (values, later) ∧ skipBlanks later = ']' :: rest) ↔
      ItemsRead (shape.read depth) isFirst cs (Fields.gathered names values) rest := by
  induction names generalizing index isFirst cs with
  | nil =>
      constructor
      · rintro ⟨later, read, ended⟩
        obtain ⟨-, rfl⟩ := Prod.mk.inj (Except.ok.inj read)
        exact .close ended
      · rintro ⟨ended⟩
        exact ⟨cs, rfl, ended⟩
  | cons name names ih =>
      obtain ⟨x, values⟩ := values
      simp only [Fields.uniform, Fields.readItems, bind_eq_ok_iff]
      constructor
      · rintro ⟨later, ⟨⟨more, here⟩, next, read⟩, ended⟩
        cases more with
        | false => cases read
        | true =>
            obtain ⟨part, c, inner, rfl, notClose⟩ := nextItem_more_iff.mp next
            simp only [if_true, bind_eq_ok_iff] at read
            obtain ⟨⟨y, after⟩, taken, ⟨found, behind⟩, items, same⟩ := read
            obtain ⟨sameData, rfl⟩ := Prod.mk.inj (Except.ok.inj same)
            obtain ⟨rfl, rfl⟩ := Prod.mk.inj sameData
            exact .cons part notClose taken (ih.mp ⟨behind, items, ended⟩)
      · intro read
        cases read with
        | @cons _ _ inner after _ c _ _ part notClose taken others =>
            obtain ⟨later, items, ended⟩ := (@ih false after (index + 1) values).mpr others
            refine ⟨later, ⟨(true, c :: inner),
              nextItem_more_iff.mpr ⟨part, c, inner, rfl, notClose⟩, ?_⟩, ended⟩
            simp only [if_true, bind_eq_ok_iff]
            exact ⟨(x, after), taken, (values, later), items, rfl⟩

/-- The texts of a record of required fields of one shape: an object in which each of them is there
once, or the list of their values. -/
inductive IsUniform (spelled : shape.Value → List Char → Prop) (names : List String) :
    (Fields.uniform shape names).Value → List Char → Prop where
  | members {values : (Fields.uniform shape names).Value} {core : List Char}
      (each : List.Forall₂ (fun name x => HasMember name (spelled x) core) names
        (Fields.gathered names values)) : IsUniform spelled names values core
  | listed {values : (Fields.uniform shape names).Value} {items : List (List Char)}
      {core : List Char} (isArray : IsArray items core)
      (each : List.Forall₂ spelled (Fields.gathered names values) items) :
      IsUniform spelled names values core

theorem IsUniform.isValue {name : String} {names : List String}
    {values : (Fields.uniform shape (name :: names)).Value}
    (isUniform : IsUniform spelled (name :: names) values core) : IsValue core := by
  cases isUniform with
  | members each => exact (List.forall₂_cons.mp each).1.isValue
  | listed isArray => exact isArray.isValue

theorem readsAs_uniform (inner : ReadsAs (shape.read depth) spelled) {name : String}
    {names : List String} (distinct : (name :: names).Nodup) (title : String) :
    ReadsAs ((Shape.record title (Fields.uniform shape (name :: names))).read (depth + 1))
      (IsUniform spelled (name :: names)) where
  isValue := IsUniform.isValue
  takes := by
    intro values core gap more isUniform blank ends
    cases isUniform with
    | members each =>
        obtain ⟨isObject, named, -, others⟩ := (List.forall₂_cons.mp each).1
        obtain ⟨final, led, closed⟩ :=
          exists_steps_of_each isObject (named_of_others named others) each
        exact (stepsAs_uniform inner distinct).read_object isObject led closed blank title more
    | listed isArray each =>
        obtain ⟨arranged, -⟩ := isArray
        obtain ⟨later, read, ended⟩ := readItems_uniform_iff.mpr (inner.itemsRead arranged each more)
        exact (read_list_iff (skipBlanks_enclosed blank (by decide))).mpr ⟨later, read, ended⟩
  exists_core := by
    intro cs values rest read
    obtain ⟨here, list | object⟩ := shown_of_read read
    · obtain ⟨gap, split, blank⟩ := exists_gap cs
      obtain ⟨items, content, arranged, each, rfl⟩ :=
        inner.exists_items (readItems_uniform_iff.mp ((read_list_iff list).mp read))
      have isArray : IsArray items _ := .mk arranged (inner.isValue_of_each each)
      exact ⟨gap, _, blank, .listed isArray each, by rw [split, list]; simp⟩
    · obtain ⟨gap, members, core, final, blank, isObject, led, closed, split⟩ :=
        (stepsAs_uniform inner distinct).exists_object object read
      exact ⟨gap, core, blank, .members (each_of_steps isObject led closed), split⟩

end StudyDesk
