/-
Module: StudyDesk.Record.Value
Purpose: Reading a record from a JSON value that is already there.
Main exports:
  Surplus, Shape.ofJson
-/
import StudyDesk.Record.Shape

namespace StudyDesk

open Json

/-!
Members are looked at in the order in which the value has them, so of two faults the one of the
earlier member is reported.  A name that occurs twice among the fields of one record is a fault; a
canonical value has no such names.
-/

/-- How a record written as too long a list is described. -/
inductive Surplus where
  /-- By the length of the whole list. -/
  | whole
  /-- By the number of elements that the record has. -/
  | counted
deriving DecidableEq, Repr

/-- The description of the wanted length. -/
def Surplus.title (surplus : Surplus) (count : Nat) : String :=
  match surplus with
  | .whole => "fewer elements in array"
  | .counted =>
      String.ofList (Layout.digitsOf count) ++
        (if count = 1 then " element in sequence" else " elements in sequence")

namespace Record

/-- A value of another type than the wanted one. -/
def wrong (value : Json) (wanted : String) : Except Fault α :=
  .error (.wrongType (found value) wanted)

/-- One of the known names. -/
def knownName (names : List String) (name : String) : Except Fault String :=
  if names.contains name then .ok name else .error (.unknownVariant name names)

/-- A variant: its name, or an object of one member with that name and null. -/
def variantOf (names : List String) : Json → Except Fault String
  | .string name => knownName names name
  | .object [(name, value)] => do
      let name ← knownName names name
      match value with
      | .null => .ok name
      | other => wrong other "unit"
  | .object _ => .error (.wrongValue .map "map with a single key")
  | other => wrong other "string or map"

/-- Null or a value. -/
def nullableOf (read : Json → Except Fault α) : Json → Except Fault (Option α)
  | .null => .ok none
  | value => (read value).map some

/-- The value of a field: where null means absence, null is read as absence. -/
def presentOf (read : Json → Except Fault α) (value : Json) :
    (presence : Presence) → Except Fault (presence.Value α)
  | .required => read value
  | .optional => nullableOf read value
  | .defaulted => (read value).map some

end Record

open Record

mutual

/-- The data of a value. -/
def Shape.ofJson (surplus : Surplus) : (shape : Shape) → Json → Except Fault shape.Value
  | .text, value =>
      match value with
      | .string s => .ok s
      | other => wrong other Shape.text.title
  | .path, value =>
      match value with
      | .string s => .ok s
      | other => wrong other Shape.path.title
  | .flag, value =>
      match value with
      | .bool b => .ok b
      | other => wrong other Shape.flag.title
  | .natural bits, value =>
      match value with
      | .number n => natural? bits n
      | other => wrong other (Shape.natural bits).title
  | .real, value =>
      match value with
      | .number n => .ok (single n)
      | other => wrong other Shape.real.title
  | .variant names, value => variantOf names value
  | .anything, value => .ok value
  | .nullable shape, value => nullableOf (shape.ofJson surplus) value
  | .list shape, value =>
      match value with
      | .array items => items.mapM (shape.ofJson surplus)
      | other => wrong other (Shape.list shape).title
  | .table shape, value =>
      match value with
      | .object members => members.mapM fun m => (shape.ofJson surplus m.2).map (m.1, ·)
      | other => wrong other (Shape.table shape).title
  | .record name fields, value =>
      match value with
      | .object members => do
          let slots ← members.foldlM (fields.ofMember surplus) fields.emptySlots
          fields.close slots
      | .array items => do
          let (value, rest) ← fields.ofItems surplus (listTitle name fields.count) 0 items
          if rest.isEmpty then .ok value
          else .error (.wrongLength items.length (surplus.title fields.count))
      | other => wrong other (recordTitle name)
  | .openRecord name fields, value =>
      match value with
      | .object members => do
          let slots ← members.foldlM (fields.ofMember surplus) fields.emptySlots
          let value ← fields.close slots
          .ok (value, members.filter fun m => !fields.names.contains m.1)
      | other => wrong other (recordTitle name)

/-- The fields of a record that is written as a list, from one index on, and the surplus items. -/
def Fields.ofItems (surplus : Surplus) : (fields : Fields) → String → Nat → List Json →
    Except Fault (fields.Value × List Json)
  | .nil, _, _, items => .ok ((), items)
  | .cons _ presence shape rest, title, index, item :: items => do
      let value ← presentOf (shape.ofJson surplus) item presence
      let (values, items) ← rest.ofItems surplus title (index + 1) items
      .ok ((value, values), items)
  | .cons _ presence _ rest, title, index, [] =>
      match presence.unlisted? with
      | some value => do
          let (values, items) ← rest.ofItems surplus title (index + 1) []
          .ok ((value, values), items)
      | none => .error (.wrongLength index title)

/-- A member's value goes into the slot of its field; a slot that is taken is a fault, and a member
that is no field changes nothing. -/
def Fields.ofMember (surplus : Surplus) : (fields : Fields) → fields.Slots → String × Json →
    Except Fault fields.Slots
  | .nil, slots, _ => .ok slots
  | .cons name presence shape rest, (slot, slots), member =>
      if member.1 = name then
        if slot.isSome then .error (.duplicateField name)
        else do
          let value ← presentOf (shape.ofJson surplus) member.2 presence
          .ok (some value, slots)
      else (rest.ofMember surplus slots member).map (slot, ·)

end

end StudyDesk
