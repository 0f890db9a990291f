/-
Module: StudyDesk.Json.Fault
Purpose: What can be wrong with a JSON text, or with a value of the wrong shape, and where.
Main exports:
  Json.Found, Json.Fault, Json.Fault.message, Json.Failure, Json.Failure.message
-/
import StudyDesk.Decimal.Layout
import StudyDesk.Json.Printer
import StudyDesk.Text.Bytes
import StudyDesk.Text.Quoted

namespace StudyDesk.Json

/-- What stands in a place that wants something else. -/
inductive Found where
  | null
  | flag (value : Bool)
  | integer (value : Int)
  | real (value : Floating)
  | text (value : String)
  | sequence
  | map
deriving DecidableEq, Repr

/-- What a value is, said as a finding. -/
def found : Json → Found
  | .null => .null
  | .bool b => .flag b
  | .number (.integer i) => .integer i
  | .number (.double x) => .real x
  | .number (.single x) => .real x
  | .string s => .text s
  | .array _ => .sequence
  | .object _ => .map

/-- The wording of a finding. -/
def Found.message : Found → String
  | .null => "null"
  | .flag true => "boolean `true`"
  | .flag false => "boolean `false`"
  | .integer i => "integer `" ++ String.ofList (integerText i) ++ "`"
  | .real x =>
      "floating point `" ++ String.ofList (Layout.jsonDouble.write .double x) ++ "`"
  | .text s => "string " ++ Text.quoted s
  | .sequence => "sequence"
  | .map => "map"

/-- The causes of failure, of the text first, then of the shape. -/
inductive Fault where
  | endInList
  | endInObject
  | endInString
  | endInValue
  | expectedColon
  | expectedListEnd
  | expectedObjectEnd
  | expectedIdent
  | expectedValue
  | invalidEscape
  | invalidNumber
  | numberOutOfRange
  | controlCharacter
  | keyNotText
  | loneSurrogate
  | unexpectedHexEnd
  | trailingComma
  | trailingCharacters
  | recursionLimit
  /-- A value of another type than the wanted one. -/
  | wrongType (found : Found) (wanted : String)
  /-- A value of the wanted type that is out of range. -/
  | wrongValue (found : Found) (wanted : String)
  | wrongLength (length : Nat) (wanted : String)
  | unknownVariant (name : String) (known : List String)
  | missingField (name : String)
  | duplicateField (name : String)
deriving DecidableEq, Repr

/-- The known variants as a message lists them. -/
def knownVariants : List String → String
  | [] => "there are no variants"
  | [a] => "expected `" ++ a ++ "`"
  | [a, b] => "expected `" ++ a ++ "` or `" ++ b ++ "`"
  | names => "expected one of " ++ String.intercalate ", " (names.map fun n => "`" ++ n ++ "`")

/-- The wording of a cause. -/
def Fault.message : Fault → String
  | .endInList => "EOF while parsing a list"
  | .endInObject => "EOF while parsing an object"
  | .endInString => "EOF while parsing a string"
  | .endInValue => "EOF while parsing a value"
  | .expectedColon => "expected `:`"
  | .expectedListEnd => "expected `,` or `]`"
  | .expectedObjectEnd => "expected `,` or `\x7d`"
  | .expectedIdent => "expected ident"
  | .expectedValue => "expected value"
  | .invalidEscape => "invalid escape"
  | .invalidNumber => "invalid number"
  | .numberOutOfRange => "number out of range"
  | .controlCharacter => "control character (\\u0000-\\u001F) found while parsing a string"
  | .keyNotText => "key must be a string"
  | .loneSurrogate => "lone leading surrogate in hex escape"
  | .unexpectedHexEnd => "unexpected end of hex escape"
  | .trailingComma => "trailing comma"
  | .trailingCharacters => "trailing characters"
  | .recursionLimit => "recursion limit exceeded"
  | .wrongType f wanted => "invalid type: " ++ f.message ++ ", expected " ++ wanted
  | .wrongValue f wanted => "invalid value: " ++ f.message ++ ", expected " ++ wanted
  | .wrongLength n wanted =>
      "invalid length " ++ String.ofList (Layout.digitsOf n) ++ ", expected " ++ wanted
  | .unknownVariant name known => "unknown variant `" ++ name ++ "`, " ++ knownVariants known
  | .missingField name => "missing field `" ++ name ++ "`"
  | .duplicateField name => "duplicate field `" ++ name ++ "`"

/-!
### Places

A fault in a text is placed by what had not been read when it was found, plus the number of bytes of
that rest which were looked at and count as read.  Line and column follow from the whole text: lines
count from one, columns count the bytes read of the line.
-/

/-- A fault in a text and what was unread then. -/
structure Failure where
  fault : Fault
  unread : List Char
  /-- Bytes of the unread text that count as read, as far as there are so many. -/
  reach : Nat
deriving DecidableEq, Repr

/-- The outcome of reading a value off the front of a text: the value and the text after it. -/
abbrev Read (α : Type) := Except Failure (α × List Char)

/-- How many bytes of the text count as read. -/
def Failure.offset (f : Failure) (text : List Char) : Nat :=
  Text.byteLength text - Text.byteLength f.unread + min f.reach (Text.byteLength f.unread)

/-- Line and column after a number of bytes. -/
def place (bytes : List UInt8) : Nat × Nat :=
  bytes.foldl (fun p b => if b == 0x0A then (p.1 + 1, 0) else (p.1, p.2 + 1)) (1, 0)

/-- The wording of a fault in a text, with its line and column. -/
def Failure.message (f : Failure) (text : List Char) : String :=
  let p := place ((Text.encode text).take (f.offset text))
  f.fault.message ++ " at line " ++ String.ofList (Layout.digitsOf p.1) ++ " column " ++
    String.ofList (Layout.digitsOf p.2)

end StudyDesk.Json
