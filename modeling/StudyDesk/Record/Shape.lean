/-
Module: StudyDesk.Record.Shape
Purpose: Shapes of records, and the type of data that each shape describes.
Main exports:
  Shape, Fields, Presence, Shape.Value, Fields.Value, Fields.Slots
-/
import StudyDesk.Json.Fault

namespace StudyDesk

/-!
A shape says what a configuration file, a fixture or a reply must look like.  It is read from a text
as the text goes by, from a value that is already there, or from a document; the three readers share
the shape and the type of the result.
-/

/-- What the absence of a field means. -/
inductive Presence where
  /-- The field must be there. -/
  | required
  /-- The field may be absent or null, which both mean that there is no value. -/
  | optional
  /-- The field may be absent, and a default takes its place; null is no value. -/
  | defaulted
deriving DecidableEq, Repr

mutual

/-- The shape of a value. -/
inductive Shape where
  | text
  /-- A text that names a file. -/
  | path
  | flag
  /-- An integer from zero up, of the given number of bits. -/
  | natural (bits : Nat)
  /-- A floating-point number of 32 bits. -/
  | real
  /-- One of a few names. -/
  | variant (names : List String)
  | anything
  | nullable (shape : Shape)
  | list (shape : Shape)
  /-- An object with free names and values of one shape. -/
  | table (shape : Shape)
  /-- An object with known fields; other members are passed over. -/
  | record (name : String) (fields : Fields)
  /-- An object with known fields; other members are kept. -/
  | openRecord (name : String) (fields : Fields)

/-- The fields of a record, in order. -/
inductive Fields where
  | nil
  | cons (name : String) (presence : Presence) (shape : Shape) (rest : Fields)

end

/-- The data of a field whose own data are of type `α`. -/
def Presence.Value (α : Type) : Presence → Type
  | .required => α
  | .optional => Option α
  | .defaulted => Option α

mutual

/-- The data that a shape describes. -/
def Shape.Value : Shape → Type
  | .text => String
  | .path => String
  | .flag => Bool
  | .natural _ => Nat
  | .real => Floating
  | .variant _ => String
  | .anything => Json
  | .nullable shape => Option shape.Value
  | .list shape => List shape.Value
  | .table shape => List (String × shape.Value)
  | .record _ fields => fields.Value
  | .openRecord _ fields => fields.Value × List (String × Json)

/-- The data of the fields of a record: one after the other. -/
def Fields.Value : Fields → Type
  | .nil => Unit
  | .cons _ presence shape rest => presence.Value shape.Value × rest.Value

end

/-- The data of fields while the record is being read: what has been found so far. -/
def Fields.Slots : Fields → Type
  | .nil => Unit
  | .cons _ presence shape rest => Option (presence.Value shape.Value) × rest.Slots

/-- No field found yet. -/
def Fields.emptySlots : (fields : Fields) → fields.Slots
  | .nil => ()
  | .cons _ _ _ rest => (none, rest.emptySlots)

/-- The data of a field that is absent. -/
def Presence.absent? {α : Type} : (presence : Presence) → Option (presence.Value α)
  | .required => none
  | .optional => some none
  | .defaulted => some none

/-- The data of a field that a record written as a list leaves out at its end. -/
def Presence.unlisted? {α : Type} : (presence : Presence) → Option (presence.Value α)
  | .defaulted => some none
  | _ => none

/-- The data of a record once all its members have been seen: the first field that is missing is a
fault. -/
def Fields.close : (fields : Fields) → fields.Slots → Except Json.Fault fields.Value
  | .nil, _ => .ok ()
  | .cons name presence _ rest, (slot, slots) =>
      match slot, presence.absent? with
      | some value, _ => (rest.close slots).map (value, ·)
      | none, some value => (rest.close slots).map (value, ·)
      | none, none => .error (.missingField name)

/-- How many fields there are. -/
def Fields.count : Fields → Nat
  | .nil => 0
  | .cons _ _ _ rest => rest.count + 1

/-- The names of the fields. -/
def Fields.names : Fields → List String
  | .nil => []
  | .cons name _ _ rest => name :: rest.names

/-- What a record is called in a fault. -/
def recordTitle (name : String) : String := "struct " ++ name

/-- What a record that is written as a list is called in a fault. -/
def listTitle (name : String) (count : Nat) : String :=
  recordTitle name ++ " with " ++ String.ofList (Layout.digitsOf count) ++
    (if count = 1 then " element" else " elements")

/-- What a shape is called in a fault. -/
def Shape.title : Shape → String
  | .text => "a string"
  | .path => "path string"
  | .flag => "a boolean"
  | .natural bits => "u" ++ String.ofList (Layout.digitsOf bits)
  | .real => "f32"
  | .variant _ => "variant identifier"
  | .anything => "any value"
  | .nullable _ => "option"
  | .list _ => "a sequence"
  | .table _ => "a map"
  | .record name _ => recordTitle name
  | .openRecord name _ => recordTitle name

/-- A number as a natural number of so many bits. -/
def natural? (bits : Nat) : Json.Number → Except Json.Fault Nat
  | .integer i =>
      if 0 ≤ i && i.toNat < Nat.pow 2 bits then .ok i.toNat
      else .error (.wrongValue (.integer i) (Shape.natural bits).title)
  | .double x => .error (.wrongType (.real x) (Shape.natural bits).title)
  | .single x => .error (.wrongType (.real x) (Shape.natural bits).title)

/-- A number in 32 bits. -/
def single : Json.Number → Floating
  | .integer i => .ofInt .single i
  | .double x => x.convert .single
  | .single x => x

end StudyDesk
