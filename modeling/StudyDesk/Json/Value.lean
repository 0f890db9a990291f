/-
Module: StudyDesk.Json.Value
Purpose: JSON values, their members, and the one order in which an object is shown.
Main exports:
  Json, Json.Number, Json.member?, Json.canonical, Json.kind
-/
import StudyDesk.Decimal.Floating
import StudyDesk.Text.Bytes

namespace StudyDesk

namespace Json

/-- A JSON number: an integer of at most 64 bits, or a floating-point number. -/
inductive Number where
  | integer (value : Int)
  /-- A number of 64 bits; every number with a fraction or an exponent is read as one. -/
  | double (value : Floating)
  /-- A number of 32 bits; only written, never read. -/
  | single (value : Floating)
deriving DecidableEq, Repr, Inhabited

end Json

/-- A JSON value.  The members of an object stand in the order of the text, repetitions included. -/
inductive Json where
  | null
  | bool (value : Bool)
  | number (value : Json.Number)
  | string (value : String)
  | array (items : List Json)
  | object (members : List (String × Json))
deriving Repr, Inhabited

namespace Json

/-- An unsigned number as a value. -/
def ofNat (n : Nat) : Json := .number (.integer n)

/-- A list of texts as a value. -/
def ofStrings (items : List String) : Json := .array (items.map .string)

/-- A text that may be missing as a value. -/
def ofString? : Option String → Json
  | some s => .string s
  | none => .null

/-- The name of a value's kind. -/
def kind : Json → String
  | .null => "null"
  | .bool _ => "boolean"
  | .number _ => "number"
  | .string _ => "string"
  | .array _ => "array"
  | .object _ => "object"

/-- The last member with the given name: of repeated names only the last counts. -/
def member? (name : String) : List (String × Json) → Option Json
  | [] => none
  | (key, value) :: rest =>
      match member? name rest with
      | some later => some later
      | none => if key = name then some value else none

/-!
### Canonical form

The members of a canonical object are sorted by the bytes of their names and no name repeats, so a
canonical value depends only on what each name stands for last.
-/

/-- Put a member in its place among sorted ones; a member of that name which is there stays. -/
def insertMember (key : String) (value : Json) : List (String × Json) → List (String × Json)
  | [] => [(key, value)]
  | (k, v) :: rest =>
      if key = k then (k, v) :: rest
      else if Text.before key k then (key, value) :: (k, v) :: rest
      else (k, v) :: insertMember key value rest

mutual

/-- The canonical form of a value. -/
def canonical : Json → Json
  | .null => .null
  | .bool b => .bool b
  | .number n => .number n
  | .string s => .string s
  | .array items => .array (canonicalItems items)
  | .object members => .object (canonicalMembers members)

/-- The canonical forms of the items of an array. -/
def canonicalItems : List Json → List Json
  | [] => []
  | item :: rest => canonical item :: canonicalItems rest

/-- The canonical forms of members, sorted, the last of each name. -/
def canonicalMembers : List (String × Json) → List (String × Json)
  | [] => []
  | (key, value) :: rest => insertMember key (canonical value) (canonicalMembers rest)

end

end Json

end StudyDesk
