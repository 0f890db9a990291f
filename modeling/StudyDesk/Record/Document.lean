/-
Module: StudyDesk.Record.Document
Purpose: Reading a record from a YAML document.
Main exports:
  Shape.ofNode?, Shape.settle?, Shape.ofSettled?
-/
import StudyDesk.Record.Value
import StudyDesk.Yaml.Node
import StudyDesk.Yaml.Plain

namespace StudyDesk

/-!
A document can be read in two ways.  Read directly, the wanted shape decides what a scalar means: a
field that wants a text takes every scalar as it is written, and a record that is left empty has all
its defaults.  Read in two steps, each unquoted scalar first settles on a type of its own, as a JSON
value would have one, and the value is then held against the shape.
-/

namespace Record

/-- The tag of a type that the language knows. -/
def coreTag (name : String) : List Char := ("tag:yaml.org,2002:" ++ name).toList

/-- Whether a scalar may be read as a value of a type: an unquoted one always, a block of its lines
only under the type's tag. -/
def isTyped (name : String) (tag : Option (List Char)) (style : Yaml.Style) : Bool :=
  style = .plain || (style = .literal && tag = some (coreTag name))

/-- Whether a node stands for a collection without content. -/
def isEmptyNode : Yaml.Node → Bool
  | .nothing => true
  | .scalar _ .plain [] => true
  | _ => false

/-- The text of a scalar, however it is written. -/
def textOf? : Yaml.Node → Option String
  | .scalar _ _ text => some (String.ofList text)
  | _ => none

/-- The value of a scalar of a type. -/
def typedOf? (name : String) (read : List Char → Option α) : Yaml.Node → Option α
  | .scalar tag style text => if isTyped name tag style then read text else none
  | _ => none

/-- The natural number of so many bits that a scalar spells. -/
def boundedOf? (bits : Nat) (node : Yaml.Node) : Option Nat :=
  (typedOf? "int" Yaml.natural? node).filter (· < Nat.pow 2 bits)

/-- One of the known names. -/
def nameOf? (names : List String) (node : Yaml.Node) : Option String :=
  (textOf? node).filter fun name => names.contains name

/-- Whether a node is the null that an optional field may have. -/
def isNullNode : Yaml.Node → Bool
  | .nothing => true
  | .scalar none .plain text => text.isEmpty || Yaml.isNull text
  | _ => false

/-- The value of a field: where null means absence, null is read as absence. -/
def presentNode? (read : Yaml.Node → Option α) (node : Yaml.Node) :
    (presence : Presence) → Option (presence.Value α)
  | .required => read node
  | .optional => if isNullNode node then some none else (read node).map some
  | .defaulted => (read node).map some

end Record

open Record

mutual

/-- The data of a node, read directly. -/
def Shape.ofNode? : (shape : Shape) → Yaml.Node → Option shape.Value
  | .text, node => textOf? node
  | .path, node => textOf? node
  | .flag, node => typedOf? "bool" Yaml.flag? node
  | .natural bits, node => boundedOf? bits node
  | .real, node => (typedOf? "float" Yaml.real? node).map (Floating.convert .single)
  | .variant names, node => nameOf? names node
  | .anything, _ => none
  | .nullable shape, node => if isNullNode node then some none else (shape.ofNode? node).map some
  | .list shape, node =>
      match node with
      | .sequence _ items => items.mapM shape.ofNode?
      | other => if isEmptyNode other then some [] else none
  | .table shape, node =>
      match node with
      | .mapping _ pairs => pairs.mapM fun p => do some (← textOf? p.1, ← shape.ofNode? p.2)
      | other => if isEmptyNode other then some [] else none
  | .record _ fields, node =>
      match node with
      | .mapping _ pairs => do
          let slots ← pairs.foldlM fields.ofPair? fields.emptySlots
          (fields.close slots).toOption
      | other => if isEmptyNode other then (fields.close fields.emptySlots).toOption else none
  | .openRecord _ _, _ => none

/-- A pair's value goes into the slot of its field; a slot that is taken is a fault, and a pair that
is no field changes nothing. -/
def Fields.ofPair? : (fields : Fields) → fields.Slots → Yaml.Node × Yaml.Node →
    Option fields.Slots
  | .nil, _, pair => (textOf? pair.1).map fun _ => ()
  | .cons name presence shape rest, (slot, slots), pair =>
      match textOf? pair.1 with
      | none => none
      | some key =>
          if key = name then
            if slot.isSome then none
            else (presentNode? shape.ofNode? pair.2 presence).map fun value => (some value, slots)
          else (rest.ofPair? slots pair).map (slot, ·)

end

/-!
### Settling

Integers beyond 128 bits are reals or texts like any other scalar; those between 64 and 128 bits are
too large for a value.  A node under a tag of its own, or one that stands in itself, is no value.
-/

namespace Record

/-- Whether an integer lies from the negative of `low` up to `high`, which is left out. -/
def isWithin (low high : Nat) (i : Int) : Bool :=
  if i < 0 then i.natAbs ≤ low else i.natAbs < high

/-- Whether an integer is small enough to be a value. -/
def isKept (i : Int) : Bool := isWithin (Nat.pow 2 63) (Nat.pow 2 64) i

/-- Whether an integer is small enough to be recognised. -/
def isRecognised (i : Int) : Bool := isWithin (Nat.pow 2 127) (Nat.pow 2 128) i

/-- An integer as a value; none if it is not kept. -/
def settleInteger? (i : Int) : Option Json :=
  if isKept i then some (.number (.integer i)) else none

/-- An integer within the recognised sizes. -/
def recognised? (cs : List Char) : Option Int :=
  (Yaml.integer? cs).filter isRecognised

/-- What an unquoted scalar settles on. -/
def settlePlain? (cs : List Char) : Option Json :=
  if cs.isEmpty || Yaml.isNull cs then some .null
  else
    match Yaml.flag? cs with
    | some b => some (.bool b)
    | none =>
        match recognised? cs with
        | some i => settleInteger? i
        | none =>
            match if Yaml.isZeroLed cs then none else Yaml.real? cs with
            | some x => some (.number (.double x))
            | none => some (.string (String.ofList cs))

/-- What a scalar settles on: a tag of the language decides, else whether it is quoted. -/
def settleScalar? (tag : Option (List Char)) (style : Yaml.Style) (cs : List Char) : Option Json :=
  match tag with
  | some tag =>
      if tag.head? = some '!' then none
      else if tag = coreTag "bool" then (Yaml.flag? cs).map .bool
      else if tag = coreTag "int" then (recognised? cs).bind settleInteger?
      else if tag = coreTag "float" then (Yaml.real? cs).map fun x => .number (.double x)
      else if tag = coreTag "null" then if Yaml.isNull cs then some .null else none
      else some (.string (String.ofList cs))
  | none => if style = .plain then settlePlain? cs else some (.string (String.ofList cs))

/-- Whether a tag is no obstacle to a collection. -/
def isPlainTag (tag : Option (List Char)) : Bool := tag.all fun t => t.head? != some '!'

/-- The field that a key of a mapping names: by its name, or by its place counted from zero.  Other
kinds of keys name nothing and are faults. -/
def keyName? (names : List String) : Json → Option String
  | .string s => some s
  | .number (.integer i) => if 0 ≤ i then some ((names[i.toNat]?).getD "") else none
  | _ => none

end Record

mutual

/-- The value that a node settles on, whatever its shape; the keys of mappings are not kept. -/
def settleNode? : Yaml.Node → Option Json
  | .nothing => some .null
  | .cycle => none
  | .scalar tag style text => settleScalar? tag style text
  | .sequence tag items =>
      if isPlainTag tag then (settleItems? items).map .array else none
  | .mapping tag pairs => if isPlainTag tag then (settlePairs? pairs).map .object else none

/-- The values of the items of a sequence. -/
def settleItems? : List Yaml.Node → Option (List Json)
  | [] => some []
  | item :: rest => do some ((← settleNode? item) :: (← settleItems? rest))

/-- The values of the pairs of a mapping, all under one name. -/
def settlePairs? : List (Yaml.Node × Yaml.Node) → Option (List (String × Json))
  | [] => some []
  | (key, value) :: rest => do
      let _ ← settleNode? key
      some (("", ← settleNode? value) :: (← settlePairs? rest))

end

mutual

/-- The value that a node settles on where a shape is wanted: the keys of a mapping name the fields
of the record. -/
def Shape.settle? : Shape → Yaml.Node → Option Json
  | .record _ fields, .mapping tag pairs =>
      if isPlainTag tag then do
        let members ← pairs.mapM fun p => do
          let key ← settleNode? p.1
          let name ← keyName? fields.names key
          some (name, ← fields.settleField? name p.2)
        some (.object members)
      else none
  | .record _ fields, .sequence tag items =>
      if isPlainTag tag then (fields.settleItems? items).map .array else none
  | _, node => settleNode? node

/-- The value of a field of a record, read for the shape of the field. -/
def Fields.settleField? : Fields → String → Yaml.Node → Option Json
  | .nil, _, node => settleNode? node
  | .cons name _ shape rest, key, node =>
      if key = name then shape.settle? node else rest.settleField? key node

/-- The values of the fields of a record that is written as a list. -/
def Fields.settleItems? : Fields → List Yaml.Node → Option (List Json)
  | _, [] => some []
  | .nil, items => items.mapM settleNode?
  | .cons _ _ shape rest, item :: items => do
      some ((← shape.settle? item) :: (← rest.settleItems? items))

end

/-- The data of a node, read in two steps. -/
def Shape.ofSettled? (shape : Shape) (node : Yaml.Node) : Option shape.Value := do
  let value ← shape.settle? node
  (shape.ofJson .counted value).toOption

end StudyDesk
