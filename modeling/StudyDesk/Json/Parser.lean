/-
Module: StudyDesk.Json.Parser
Purpose: Reading a JSON value off the front of a text, and a whole text as one value.
Main exports:
  Json.readItems, Json.readMembers, Json.readValue, Json.depthLimit, Json.complete, Json.parse
-/
import StudyDesk.Json.Literal
import StudyDesk.Json.Numeral

namespace StudyDesk.Json

/-!
### Lists and objects

The two loops below serve every kind of content: an array of values, a list of records, the members
of an object that is read field by field.  What reads one item, or one member, is their argument.
A step is spent for each item; a text has fewer items than characters, so its length is enough.
-/

/-- Whether another item of a list follows, and the text at it or at the closing bracket. -/
def nextItem (isFirst : Bool) (cs : List Char) : Except Failure (Bool × List Char) :=
  match skipBlanks cs with
  | [] => failAt .endInList []
  | ']' :: rest => .ok (false, ']' :: rest)
  | c :: rest =>
      if isFirst then .ok (true, c :: rest)
      else if c = ',' then
        match skipBlanks rest with
        | [] => failAt .endInValue []
        | ']' :: more => failAt .trailingComma (']' :: more)
        | more => .ok (true, more)
      else failAt .expectedListEnd (c :: rest)

/-- The items of a list after its opening bracket, up to and with the closing one. -/
def readItems (item : List Char → Read α) : Nat → Bool → List Char →
    Except Failure (List α × List Char)
  | 0, _, cs => failAt .endInList cs
  | steps + 1, isFirst, cs => do
      let (more, here) ← nextItem isFirst cs
      if more then
        let (value, rest) ← item here
        let (values, rest) ← readItems item steps false rest
        .ok (value :: values, rest)
      else .ok ([], here.drop 1)

/-- Whether another member of an object follows, and the text after the quote that opens its name,
or at the closing bracket. -/
def nextMember (isFirst : Bool) (cs : List Char) : Except Failure (Bool × List Char) :=
  match skipBlanks cs with
  | [] => failAt .endInObject []
  | '}' :: rest => .ok (false, '}' :: rest)
  | c :: rest =>
      if isFirst then
        if c = '"' then .ok (true, rest) else failAt .keyNotText (c :: rest)
      else if c = ',' then
        match skipBlanks rest with
        | [] => failAt .endInValue []
        | '"' :: more => .ok (true, more)
        | '}' :: more => failAt .trailingComma ('}' :: more)
        | more => failAt .keyNotText more
      else failAt .expectedObjectEnd (c :: rest)

/-- The colon after a name. -/
def readColon (cs : List Char) : Except Failure (List Char) :=
  match skipBlanks cs with
  | [] => failAt .endInObject []
  | ':' :: rest => .ok rest
  | rest => failAt .expectedColon rest

/-- The members of an object after its opening bracket, up to and with the closing one.  `member`
takes a name, what has been gathered so far, and the text after the name. -/
def readMembers (member : String → σ → List Char → Read σ) :
    Nat → Bool → σ → List Char → Except Failure (σ × List Char)
  | 0, _, _, cs => failAt .endInObject cs
  | steps + 1, isFirst, state, cs => do
      let (more, here) ← nextMember isFirst cs
      if more then
        let (key, rest) ← readText here
        let (state, rest) ← member key state rest
        readMembers member steps false state rest
      else .ok (state, here.drop 1)

/-!
### Values
-/

/-- A member that is kept as it stands; `members` holds those before it, the last one first. -/
def readPair (value : List Char → Read Json) (key : String) (members : List (String × Json))
    (cs : List Char) : Except Failure (List (String × Json) × List Char) := do
  let rest ← readColon cs
  let (v, rest) ← value rest
  .ok ((key, v) :: members, rest)

/-- How deep containers may nest. -/
def depthLimit : Nat := 127

/-- The value at the front of a text, in which containers may nest to the given depth. -/
def readValue (depth : Nat) (cs : List Char) : Except Failure (Json × List Char) :=
  match skipBlanks cs with
  | [] => failAt .endInValue []
  | c :: rest =>
      if c = 'n' then (readWord ['u', 'l', 'l'] rest).map fun r => (.null, r)
      else if c = 't' then (readWord ['r', 'u', 'e'] rest).map fun r => (.bool true, r)
      else if c = 'f' then (readWord ['a', 'l', 's', 'e'] rest).map fun r => (.bool false, r)
      else if c = '-' then (readNumber true rest).map fun r => (.number r.1, r.2)
      else if c.isDigit then (readNumber false (c :: rest)).map fun r => (.number r.1, r.2)
      else if c = '"' then (readText rest).map fun r => (.string r.1, r.2)
      else if c = '[' then
        match depth with
        | 0 => failAt .recursionLimit (c :: rest)
        | depth + 1 =>
            (readItems (readValue depth) (rest.length + 1) true rest).map fun r =>
              (.array r.1, r.2)
      else if c = '{' then
        match depth with
        | 0 => failAt .recursionLimit (c :: rest)
        | depth + 1 =>
            (readMembers (readPair (readValue depth)) (rest.length + 1) true [] rest).map fun r =>
              (.object r.1.reverse, r.2)
      else failAt .expectedValue (c :: rest)

/-- The end of a text, where only blanks may stand. -/
def complete (cs : List Char) : Except Failure Unit :=
  match skipBlanks cs with
  | [] => .ok ()
  | rest => failAt .trailingCharacters rest

/-- A whole text as one value. -/
def parse (cs : List Char) : Except Failure Json := do
  let (value, rest) ← readValue depthLimit cs
  complete rest
  .ok value

end StudyDesk.Json
