/-
Module: StudyDesk.Proofs.Record.Fieldwise
Purpose: A record read from an object has in each field what the member of that name gives.
Main exports:
  Json.Unrepeated, FieldGiven, Fields.Given, Shape.ofJson_of_given
-/
import StudyDesk.Proofs.Json.Inversion
import StudyDesk.Proofs.Json.Members
import StudyDesk.Record.Value

namespace StudyDesk

open Json Record

namespace Json

/-- At most one member has the name. -/
def Unrepeated (members : List (String × Json)) (name : String) : Prop :=
  (members.map Prod.fst).count name ≤ 1

theorem unrepeated_of_nodup {members : List (String × Json)} (distinct : (members.map Prod.fst).Nodup)
    (name : String) : Unrepeated members name :=
  List.nodup_iff_count.mp distinct name

theorem lacks_iff_count {members : List (String × Json)} {name : String} :
    Lacks members name ↔ (members.map Prod.fst).count name = 0 := by
  rw [List.count_eq_zero, List.mem_map, Lacks]
  constructor
  · rintro lacks ⟨member, listed, same⟩
    exact lacks member listed same
  · intro absent member listed same
    exact absent ⟨member, listed, same⟩

/-- A name that is not repeated is found at its only place. -/
theorem Unrepeated.split {members : List (String × Json)} {name : String} {value : Json}
    (unrepeated : Unrepeated members name) (found : member? name members = some value) :
    ∃ before after, members = before ++ (name, value) :: after ∧ Lacks before name ∧
      Lacks after name := by
  obtain ⟨before, after, rfl, lacks⟩ := member?_eq_some_iff.mp found
  refine ⟨before, after, rfl, lacks_iff_count.mpr ?_, lacks⟩
  have once := unrepeated
  rw [Unrepeated, List.map_append, List.map_cons, List.count_append, List.count_cons_self] at once
  omega

end Json

variable {α : Type} {surplus : Surplus} {members : List (String × Json)}

/-- What a field has among the members: what the member of its name gives, or its default if there is
none. -/
inductive FieldGiven (surplus : Surplus) (members : List (String × Json)) (name : String)
    (presence : Presence) (shape : Shape) : presence.Value shape.Value → Prop where
  | member {v : Json} {value : presence.Value shape.Value} (found : member? name members = some v)
      (given : presentOf (shape.ofJson surplus) v presence = .ok value) :
      FieldGiven surplus members name presence shape value
  | absent {value : presence.Value shape.Value} (lacks : Lacks members name)
      (given : presence.absent? = some value) :
      FieldGiven surplus members name presence shape value

/-- The data of each field are given. -/
def Fields.Given (surplus : Surplus) (members : List (String × Json)) :
    (fields : Fields) → fields.Value → Prop
  | .nil, _ => True
  | .cons name presence shape rest, (value, values) =>
      FieldGiven surplus members name presence shape value ∧ rest.Given surplus members values

/-- A member that is no field changes no slot. -/
theorem Fields.ofMember_of_not_mem (fields : Fields) {key : String} (noField : key ∉ fields.names)
    (slots : fields.Slots) (value : Json) :
    fields.ofMember surplus slots (key, value) = .ok slots := by
  match fields, slots with
  | .nil, _ => rfl
  | .cons name presence shape rest, (slot, slots) =>
      simp only [Fields.names, List.mem_cons, not_or] at noField
      simp only [Fields.ofMember, if_neg noField.1, rest.ofMember_of_not_mem noField.2 slots value]
      rfl

theorem foldlM_ofMember_nil : members.foldlM (Fields.nil.ofMember surplus) () = .ok () := by
  induction members with
  | nil => rfl
  | cons member members ih => exact ih

/-- One member, seen by one field. -/
def fillSlot (name : String) (read : Json → Except Fault α) (slot : Option α)
    (member : String × Json) : Except Fault (Option α) :=
  if member.1 = name then
    if slot.isSome then .error (.duplicateField name) else (read member.2).map some
  else .ok slot

/-- The slots of different fields are filled apart. -/
theorem foldlM_ofMember_cons {name : String} {presence : Presence} {shape : Shape} {rest : Fields}
    (notNamed : name ∉ rest.names) {slot slot' : Option (presence.Value shape.Value)}
    {slots slots' : rest.Slots}
    (first : members.foldlM (fillSlot name fun v => presentOf (shape.ofJson surplus) v presence)
      slot = .ok slot')
    (others : members.foldlM (rest.ofMember surplus) slots = .ok slots') :
    members.foldlM ((Fields.cons name presence shape rest).ofMember surplus) (slot, slots) =
      .ok (slot', slots') := by
  induction members generalizing slot slots with
  | nil =>
      obtain rfl := Except.ok.inj first
      obtain rfl := Except.ok.inj others
      rfl
  | cons member members ih =>
      rw [List.foldlM_cons, bind_eq_ok_iff] at first others
      obtain ⟨now, seen, first⟩ := first
      obtain ⟨nows, passed, others⟩ := others
      refine bind_eq_ok_iff.mpr ⟨(now, nows), ?_, ih first others⟩
      obtain ⟨key, value⟩ := member
      simp only [fillSlot, Fields.ofMember] at seen ⊢
      split_ifs at seen ⊢ with named taken
      · -- the member is the first field, so the others do not know it
        subst named
        rw [rest.ofMember_of_not_mem notNamed slots value] at passed
        obtain rfl := Except.ok.inj passed
        obtain ⟨data, given, rfl⟩ := map_eq_ok_iff.mp seen
        rw [given]
        rfl
      · obtain rfl := Except.ok.inj seen
        rw [passed]
        rfl

theorem foldlM_fillSlot_of_lacks {name : String} {read : Json → Except Fault α}
    (lacks : Lacks members name) (slot : Option α) :
    members.foldlM (fillSlot name read) slot = .ok slot := by
  induction members with
  | nil => rfl
  | cons member members ih =>
      rw [List.foldlM_cons, bind_eq_ok_iff]
      refine ⟨slot, if_neg (lacks member List.mem_cons_self), ih fun later listed => ?_⟩
      exact lacks later (List.mem_cons_of_mem _ listed)

theorem foldlM_fillSlot_of_holds {name : String} {read : Json → Except Fault α} {value : Json}
    {data : α} (unrepeated : Unrepeated members name)
    (found : member? name members = some value) (given : read value = .ok data) :
    members.foldlM (fillSlot name read) none = .ok (some data) := by
  obtain ⟨before, after, rfl, lacks, noMore⟩ := unrepeated.split found
  rw [List.foldlM_append, bind_eq_ok_iff]
  refine ⟨none, foldlM_fillSlot_of_lacks lacks none, ?_⟩
  rw [List.foldlM_cons, bind_eq_ok_iff]
  refine ⟨some data, ?_, foldlM_fillSlot_of_lacks noMore (some data)⟩
  simp [fillSlot, given, Except.map]

/-- Fields that are given, each by one member at most, fill their slots. -/
theorem Fields.exists_slots_of_given : (fields : Fields) → (value : fields.Value) →
    fields.names.Nodup → (∀ name ∈ fields.names, Unrepeated members name) →
    fields.Given surplus members value →
    ∃ slots, members.foldlM (fields.ofMember surplus) fields.emptySlots = .ok slots ∧
      fields.close slots = .ok value
  | .nil, (), _, _, _ => ⟨(), foldlM_ofMember_nil, rfl⟩
  | .cons name presence shape rest, (value, values), distinct, unrepeated, given => by
      obtain ⟨notNamed, distinct⟩ := List.nodup_cons.mp distinct
      obtain ⟨once, unrepeated⟩ := List.forall_mem_cons.mp unrepeated
      obtain ⟨first, others⟩ := given
      obtain ⟨slots, filled, closed⟩ := rest.exists_slots_of_given values distinct unrepeated others
      cases first with
      | member found read =>
          refine ⟨(some value, slots), foldlM_ofMember_cons notNamed
            (foldlM_fillSlot_of_holds once found read) filled, ?_⟩
          simp only [Fields.close, closed]
          rfl
      | absent lacks default =>
          refine ⟨(none, slots), foldlM_ofMember_cons notNamed
            (foldlM_fillSlot_of_lacks lacks none) filled, ?_⟩
          simp only [Fields.close, default, closed]
          rfl

/-- An object that gives each field by one member at most is read as the record of what is given. -/
theorem Shape.ofJson_of_given {title : String} {fields : Fields} {value : fields.Value}
    (distinct : fields.names.Nodup)
    (unrepeated : ∀ name ∈ fields.names, Unrepeated members name)
    (given : fields.Given surplus members value) :
    (Shape.record title fields).ofJson surplus (.object members) = .ok value := by
  obtain ⟨slots, filled, closed⟩ := fields.exists_slots_of_given value distinct unrepeated given
  exact bind_eq_ok_iff.mpr ⟨slots, filled, closed⟩

theorem fieldGiven_member {members : List (String × Json)} {name : String} {shape : Shape}
    {v : Json} {data : shape.Value} (found : Json.member? name members = some v)
    (read : shape.ofJson surplus v = .ok data) :
    FieldGiven surplus members name .defaulted shape (some data) :=
  .member found (map_eq_ok_iff.mpr ⟨data, read, rfl⟩)

/-- An object of the fields of a record, in their order, is read as the record that is given. -/
theorem ofJson_of_names {title : String} {fields : Fields} {members : List (String × Json)}
    {value : fields.Value} (distinct : fields.names.Nodup)
    (named : members.map Prod.fst = fields.names) (given : fields.Given surplus members value) :
    (Shape.record title fields).ofJson surplus (.object members) = .ok value :=
  Shape.ofJson_of_given distinct
    (fun name _ => Json.unrepeated_of_nodup (named ▸ distinct) name) given

end StudyDesk
