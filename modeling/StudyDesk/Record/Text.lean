/-
Module: StudyDesk.Record.Text
Purpose: Reading a record while its JSON text goes by.
Main exports:
  Shape.read, Shape.readAll
-/
import StudyDesk.Json.Skip
import StudyDesk.Record.Shape

namespace StudyDesk

open Json

/-!
The text is read once, from left to right, and the first fault ends the reading.  A fault of shape is
placed right after the value it is about; when a container is of the wrong kind it is placed before
its bracket, and a fault about a record as a whole is placed after its closing bracket.
-/

namespace Record

/-- A value of another type than the wanted one stands at the front of a text. -/
def mismatch (wanted : String) (cs : List Char) : Failure :=
  match cs with
  | '[' :: _ => ⟨.wrongType .sequence wanted, cs, 0⟩
  | '{' :: _ => ⟨.wrongType .map wanted, cs, 0⟩
  | _ =>
      match readValue 0 cs with
      | .ok (value, rest) => ⟨.wrongType (found value) wanted, rest, 0⟩
      | .error failure => failure

/-- A text, wanted under the given title. -/
def readString (wanted : String) (cs : List Char) : Except Failure (String × List Char) :=
  match skipBlanks cs with
  | [] => failAt .endInValue []
  | '"' :: rest => readText rest
  | other => .error (mismatch wanted other)

/-- A truth value. -/
def readFlag (cs : List Char) : Except Failure (Bool × List Char) :=
  match skipBlanks cs with
  | [] => failAt .endInValue []
  | 't' :: rest => (readWord ['r', 'u', 'e'] rest).map (true, ·)
  | 'f' :: rest => (readWord ['a', 'l', 's', 'e'] rest).map (false, ·)
  | other => .error (mismatch Shape.flag.title other)

/-- A number, wanted under the given title. -/
def readNumeral (wanted : String) (cs : List Char) : Except Failure (Number × List Char) :=
  match skipBlanks cs with
  | [] => failAt .endInValue []
  | c :: rest =>
      if c = '-' then readNumber true rest
      else if c.isDigit then readNumber false (c :: rest)
      else .error (mismatch wanted (c :: rest))

/-- A natural number of so many bits. -/
def readNatural (bits : Nat) (cs : List Char) : Except Failure (Nat × List Char) := do
  let (numeral, rest) ← readNumeral (Shape.natural bits).title cs
  match natural? bits numeral with
  | .ok n => .ok (n, rest)
  | .error fault => .error ⟨fault, rest, 0⟩

/-- A number of 32 bits. -/
def readReal (cs : List Char) : Except Failure (Floating × List Char) := do
  let (numeral, rest) ← readNumeral Shape.real.title cs
  .ok (single numeral, rest)

/-- One of the known names. -/
def readName (names : List String) (cs : List Char) : Except Failure (String × List Char) := do
  let (name, rest) ← readString (Shape.variant names).title cs
  if names.contains name then .ok (name, rest) else .error ⟨.unknownVariant name names, rest, 0⟩

/-- The null that may stand behind a variant. -/
def readUnit (cs : List Char) : Except Failure (List Char) :=
  match skipBlanks cs with
  | [] => failAt .endInValue []
  | 'n' :: rest => readWord ['u', 'l', 'l'] rest
  | other => .error (mismatch "unit" other)

/-- A variant: its name, or an object of one member with that name and null. -/
def readVariant (names : List String) (depth : Nat) (cs : List Char) :
    Except Failure (String × List Char) :=
  match skipBlanks cs with
  | [] => failAt .endInValue []
  | '"' :: rest => readName names ('"' :: rest)
  | '{' :: rest =>
      if depth = 0 then failAt .recursionLimit ('{' :: rest)
      else
        match skipBlanks rest with
        | '}' :: more => failAt .expectedValue ('}' :: more)
        | inner => do
            let (name, rest) ← readName names inner
            let rest ← readColon rest
            let rest ← readUnit rest
            match skipBlanks rest with
            | '}' :: rest => .ok (name, rest)
            | [] => .error ⟨.endInObject, [], 0⟩
            | other => .error ⟨.expectedValue, other, 0⟩
  | other => failAt .expectedValue other

/-- Null or a value. -/
def readNullable (read : List Char → Except Failure (α × List Char)) (cs : List Char) :
    Except Failure (Option α × List Char) :=
  match skipBlanks cs with
  | 'n' :: rest => (readWord ['u', 'l', 'l'] rest).map (none, ·)
  | _ => (read cs).map fun r => (some r.1, r.2)

/-- The value of a field: where null means absence, null is read as absence. -/
def readPresent (read : List Char → Except Failure (α × List Char)) (cs : List Char) :
    (presence : Presence) → Except Failure (presence.Value α × List Char)
  | .required => read cs
  | .optional => readNullable read cs
  | .defaulted => (read cs).map fun r => (some r.1, r.2)

/-- What remains when a record is given up behind the name of a member. -/
def afterName (cs : List Char) : List Char :=
  match skipBlanks cs with
  | '}' :: rest => rest
  | rest => rest

/-- The end of a record that is written as a list. -/
def endList (cs : List Char) : Except Failure (List Char) :=
  match skipBlanks cs with
  | [] => failAt .endInList []
  | ']' :: rest => .ok rest
  | ',' :: rest =>
      match skipBlanks rest with
      | ']' :: more => failAt .trailingComma (']' :: more)
      | more => failAt .trailingCharacters more
  | other => failAt .trailingCharacters other

/-- A member of a table. -/
def readEntry (read : List Char → Except Failure (α × List Char)) (key : String)
    (entries : List (String × α)) (cs : List Char) :
    Except Failure (List (String × α) × List Char) := do
  let rest ← readColon cs
  let (value, rest) ← read rest
  .ok ((key, value) :: entries, rest)

/-- A member of a record; one that is no field is passed over. -/
def readMember (field? : String → σ → List Char → Option (Except Failure (σ × List Char)))
    (key : String) (slots : σ) (cs : List Char) : Except Failure (σ × List Char) :=
  match field? key slots cs with
  | some result => result
  | none => do
      let rest ← readColon cs
      .ok (slots, ← skipValue rest)

/-- A member of an open record; one that is no field is kept. -/
def readOpenMember (field? : String → σ → List Char → Option (Except Failure (σ × List Char)))
    (depth : Nat) (key : String) (state : σ × List (String × Json)) (cs : List Char) :
    Except Failure ((σ × List (String × Json)) × List Char) :=
  match field? key state.1 cs with
  | some result => result.map fun r => ((r.1, state.2), r.2)
  | none => do
      let (members, rest) ← readPair (readValue depth) key state.2 cs
      .ok ((state.1, members), rest)

/-- Open a container: its content may nest one level less. -/
def enter (content : Nat → List Char → Except Failure α) (depth : Nat) (bracket : Char)
    (rest : List Char) : Except Failure α :=
  match depth with
  | 0 => failAt .recursionLimit (bracket :: rest)
  | depth + 1 => content depth rest

end Record

open Record

mutual

/-- The data at the front of a text, in which containers may nest to the given depth. -/
def Shape.read : (shape : Shape) → Nat → List Char → Except Failure (shape.Value × List Char)
  | .text, _, cs => readString Shape.text.title cs
  | .path, _, cs => readString Shape.path.title cs
  | .flag, _, cs => readFlag cs
  | .natural bits, _, cs => readNatural bits cs
  | .real, _, cs => readReal cs
  | .variant names, depth, cs => readVariant names depth cs
  | .anything, depth, cs => readValue depth cs
  | .nullable shape, depth, cs => readNullable (shape.read depth) cs
  | .list shape, depth, cs =>
      match skipBlanks cs with
      | [] => failAt .endInValue []
      | '[' :: rest =>
          enter (fun depth rest => readItems (shape.read depth) (rest.length + 1) true rest)
            depth '[' rest
      | other => .error (mismatch (Shape.list shape).title other)
  | .table shape, depth, cs =>
      match skipBlanks cs with
      | [] => failAt .endInValue []
      | '{' :: rest =>
          enter
            (fun depth rest =>
              (readMembers (readEntry (shape.read depth)) (rest.length + 1) true [] rest).map
                fun r => (r.1.reverse, r.2))
            depth '{' rest
      | other => .error (mismatch (Shape.table shape).title other)
  | .record name fields, depth, cs =>
      match skipBlanks cs with
      | [] => failAt .endInValue []
      | '[' :: rest =>
          enter
            (fun depth rest => do
              let (value, rest) ←
                fields.readItems (listTitle name fields.count) depth 0 true rest
              .ok (value, ← endList rest))
            depth '[' rest
      | '{' :: rest =>
          enter
            (fun depth rest => do
              let (slots, rest) ←
                readMembers (readMember (fields.readField? depth)) (rest.length + 1) true fields.emptySlots rest
              match fields.close slots with
              | .ok value => .ok (value, rest)
              | .error fault => .error ⟨fault, rest, 0⟩)
            depth '{' rest
      | other => .error (mismatch (recordTitle name) other)
  | .openRecord name fields, depth, cs =>
      match skipBlanks cs with
      | [] => failAt .endInValue []
      | '{' :: rest =>
          enter
            (fun depth rest => do
              let ((slots, extra), rest) ←
                readMembers (readOpenMember (fields.readField? depth) depth) (rest.length + 1) true
                  (fields.emptySlots, []) rest
              match fields.close slots with
              | .ok value => .ok ((value, extra.reverse), rest)
              | .error fault => .error ⟨fault, rest, 0⟩)
            depth '{' rest
      | other => .error (mismatch (recordTitle name) other)

/-- The fields of a record that is written as a list, from one index on. -/
def Fields.readItems : (fields : Fields) → String → Nat → Nat → Bool → List Char →
    Except Failure (fields.Value × List Char)
  | .nil, _, _, _, _, cs => .ok ((), cs)
  | .cons _ presence shape rest, title, depth, index, isFirst, cs => do
      let (more, here) ← nextItem isFirst cs
      if more then
        let (value, cs) ← readPresent (shape.read depth) here presence
        let (values, cs) ← rest.readItems title depth (index + 1) false cs
        .ok ((value, values), cs)
      else
        match presence.unlisted? with
        | some value =>
            let (values, cs) ← rest.readItems title depth (index + 1) isFirst cs
            .ok ((value, values), cs)
        | none => .error ⟨.wrongLength index title, here.drop 1, 0⟩

/-- The member with the given name, if it is a field: its value goes into its slot, and a slot that
is taken is a fault. -/
def Fields.readField? : (fields : Fields) → Nat → String → fields.Slots → List Char →
    Option (Except Failure (fields.Slots × List Char))
  | .nil, _, _, _, _ => none
  | .cons name presence shape rest, depth, key, (slot, slots), cs =>
      if key = name then
        some
          (if slot.isSome then .error ⟨.duplicateField name, afterName cs, 0⟩
          else do
            let cs ← readColon cs
            let (value, cs) ← readPresent (shape.read depth) cs presence
            .ok ((some value, slots), cs))
      else
        (rest.readField? depth key slots cs).map fun r => r.map fun r => ((slot, r.1), r.2)

end

/-- The data of a whole text. -/
def Shape.readAll (shape : Shape) (cs : List Char) : Except Failure shape.Value := do
  let (value, rest) ← shape.read depthLimit cs
  complete rest
  .ok value

end StudyDesk
