/-
Module: StudyDesk.Proofs.Record.Exact
Purpose: An object is read as a record exactly when each field is given, and nothing else decides.
Main exports:
  cases_of_fillSlot, Fields.gathered_iff, Shape.ofJson_record_iff, Shape.ofJson_openRecord_iff
-/
import StudyDesk.Proofs.Record.Fieldwise

namespace StudyDesk

open Json Record

variable {α : Type} {surplus : Surplus} {members : List (String × Json)}

/-! ### One field -/

section Slot

variable {name : String} {read : Json → Except Fault α}

/-- A slot that is taken stays, and no member may want it again. -/
theorem lacks_of_fillSlot_some {data : α} {slot : Option α}
    (filled : members.foldlM (fillSlot name read) (some data) = .ok slot) :
    slot = some data ∧ Lacks members name := by
  induction members with
  | nil =>
      obtain rfl := Except.ok.inj filled
      exact ⟨rfl, List.forall_mem_nil _⟩
  | cons member members ih =>
      rw [List.foldlM_cons, bind_eq_ok_iff] at filled
      obtain ⟨now, first, filled⟩ := filled
      rw [fillSlot] at first
      split_ifs at first with named taken
      · exact absurd rfl taken
      · obtain rfl := Except.ok.inj first
        obtain ⟨same, lacks⟩ := ih filled
        exact ⟨same, List.forall_mem_cons.mpr ⟨named, lacks⟩⟩

/-- A slot is filled from the only member of its name, or there is none. -/
theorem cases_of_fillSlot {slot : Option α}
    (filled : members.foldlM (fillSlot name read) none = .ok slot) :
    (slot = none ∧ Lacks members name) ∨
      ∃ v data, slot = some data ∧ member? name members = some v ∧ read v = .ok data ∧
        Unrepeated members name := by
  induction members with
  | nil =>
      obtain rfl := Except.ok.inj filled
      exact .inl ⟨rfl, List.forall_mem_nil _⟩
  | cons member members ih =>
      obtain ⟨key, value⟩ := member
      rw [List.foldlM_cons, bind_eq_ok_iff] at filled
      obtain ⟨now, first, filled⟩ := filled
      rw [fillSlot] at first
      split_ifs at first with named
      · subst named
        obtain ⟨data, given, rfl⟩ := map_eq_ok_iff.mp first
        obtain ⟨rfl, lacks⟩ := lacks_of_fillSlot_some filled
        refine .inr ⟨value, data, rfl, ?_, given, ?_⟩
        · rw [member?, member?_eq_none_iff.mpr lacks]
          exact if_pos rfl
        · exact Nat.le_of_eq
            (List.count_cons_self.trans (congrArg (· + 1) (lacks_iff_count.mp lacks)))
      · obtain rfl := Except.ok.inj first
        rcases ih filled with ⟨same, lacks⟩ | ⟨v, data, same, found, given, once⟩
        · exact .inl ⟨same, List.forall_mem_cons.mpr ⟨named, lacks⟩⟩
        · refine .inr ⟨v, data, same, ?_, given, ?_⟩
          · rw [member?, found]
          · rwa [Unrepeated, List.map_cons, List.count_cons_of_ne named]

end Slot

/-! ### All fields -/

/-- The slots of different fields were filled apart. -/
theorem fillSlot_of_foldlM_ofMember {name : String} {presence : Presence} {shape : Shape}
    {rest : Fields} (notNamed : name ∉ rest.names)
    {slot slot' : Option (presence.Value shape.Value)} {slots slots' : rest.Slots}
    (filled : members.foldlM ((Fields.cons name presence shape rest).ofMember surplus)
      (slot, slots) = .ok (slot', slots')) :
    members.foldlM (fillSlot name fun v => presentOf (shape.ofJson surplus) v presence) slot =
        .ok slot' ∧
      members.foldlM (rest.ofMember surplus) slots = .ok slots' := by
  induction members generalizing slot slots with
  | nil =>
      obtain ⟨rfl, rfl⟩ := Prod.mk.inj (Except.ok.inj filled)
      exact ⟨rfl, rfl⟩
  | cons member members ih =>
      obtain ⟨key, value⟩ := member
      obtain ⟨⟨now, nows⟩, first, later⟩ := bind_eq_ok_iff.mp (List.foldlM_cons.symm.trans filled)
      obtain ⟨own, others⟩ := ih later
      rw [List.foldlM_cons, List.foldlM_cons, bind_eq_ok_iff, bind_eq_ok_iff]
      simp only [Fields.ofMember] at first
      split_ifs at first with named taken
      · subst named
        obtain ⟨data, given, same⟩ := bind_eq_ok_iff.mp first
        obtain ⟨rfl, rfl⟩ := Prod.mk.inj (Except.ok.inj same)
        refine ⟨⟨some data, ?_, own⟩, slots, rest.ofMember_of_not_mem notNamed slots value, others⟩
        rw [fillSlot, if_pos rfl, if_neg taken, given]
        rfl
      · obtain ⟨passed, isPassed, same⟩ := map_eq_ok_iff.mp first
        obtain ⟨rfl, rfl⟩ := Prod.mk.inj same
        exact ⟨⟨slot, if_neg named, own⟩, passed, isPassed, others⟩

/-- The members give each field, once at most, when the record is closed. -/
theorem Fields.given_of_slots : (fields : Fields) → {slots : fields.Slots} →
    {value : fields.Value} → fields.names.Nodup →
    members.foldlM (fields.ofMember surplus) fields.emptySlots = .ok slots →
    fields.close slots = .ok value →
    (∀ name ∈ fields.names, Unrepeated members name) ∧ fields.Given surplus members value
  | .nil, _, _, _, _, _ => ⟨List.forall_mem_nil _, trivial⟩
  | .cons name presence shape rest, (slot, slots), (value, values), distinct, filled, closed => by
      obtain ⟨notNamed, distinct⟩ := List.nodup_cons.mp distinct
      obtain ⟨own, others⟩ := fillSlot_of_foldlM_ofMember notNamed filled
      rcases cases_of_fillSlot own with ⟨rfl, lacks⟩ | ⟨v, data, rfl, found, given, once⟩
      · cases default : presence.absent? (α := shape.Value) with
        | none =>
            simp only [Fields.close, default] at closed
            cases closed
        | some data =>
            simp only [Fields.close, default] at closed
            obtain ⟨later, closedLater, same⟩ := map_eq_ok_iff.mp closed
            obtain ⟨rfl, rfl⟩ := Prod.mk.inj same
            obtain ⟨unrepeated, given⟩ := rest.given_of_slots distinct others closedLater
            have once : Unrepeated members name := by
              rw [Unrepeated, lacks_iff_count.mp lacks]
              exact Nat.zero_le 1
            exact ⟨List.forall_mem_cons.mpr ⟨once, unrepeated⟩, .absent lacks default, given⟩
      · simp only [Fields.close] at closed
        obtain ⟨later, closedLater, same⟩ := map_eq_ok_iff.mp closed
        obtain ⟨rfl, rfl⟩ := Prod.mk.inj same
        obtain ⟨unrepeated, givenLater⟩ := rest.given_of_slots distinct others closedLater
        exact ⟨List.forall_mem_cons.mpr ⟨once, unrepeated⟩, .member found given, givenLater⟩

/-- Members are gathered and closed as the record that they give. -/
theorem Fields.gathered_iff {fields : Fields} {value : fields.Value}
    (distinct : fields.names.Nodup) :
    (members.foldlM (fields.ofMember surplus) fields.emptySlots >>= fields.close) = .ok value ↔
      (∀ name ∈ fields.names, Unrepeated members name) ∧ fields.Given surplus members value := by
  rw [bind_eq_ok_iff]
  constructor
  · rintro ⟨slots, filled, closed⟩
    exact fields.given_of_slots distinct filled closed
  · rintro ⟨unrepeated, given⟩
    exact fields.exists_slots_of_given value distinct unrepeated given

theorem Shape.ofJson_record_iff {title : String} {fields : Fields} {value : fields.Value}
    (distinct : fields.names.Nodup) :
    (Shape.record title fields).ofJson surplus (.object members) = .ok value ↔
      (∀ name ∈ fields.names, Unrepeated members name) ∧ fields.Given surplus members value :=
  Fields.gathered_iff distinct

/-- An open record keeps the members that are no fields. -/
theorem Shape.ofJson_openRecord_iff {title : String} {fields : Fields} {value : fields.Value}
    {extra : List (String × Json)} (distinct : fields.names.Nodup) :
    (Shape.openRecord title fields).ofJson surplus (.object members) = .ok (value, extra) ↔
      ((∀ name ∈ fields.names, Unrepeated members name) ∧ fields.Given surplus members value) ∧
        extra = members.filter fun m => !fields.names.contains m.1 := by
  rw [← Fields.gathered_iff distinct]
  constructor
  · intro read
    obtain ⟨slots, filled, opened⟩ := bind_eq_ok_iff.mp read
    obtain ⟨found, closed, same⟩ := bind_eq_ok_iff.mp opened
    obtain ⟨rfl, rfl⟩ := Prod.mk.inj (Except.ok.inj same)
    exact ⟨bind_eq_ok_iff.mpr ⟨slots, filled, closed⟩, rfl⟩
  · rintro ⟨gathered, rfl⟩
    obtain ⟨slots, filled, closed⟩ := bind_eq_ok_iff.mp gathered
    refine bind_eq_ok_iff.mpr ⟨slots, filled, ?_⟩
    exact bind_eq_ok_iff.mpr ⟨value, closed, rfl⟩

end StudyDesk
