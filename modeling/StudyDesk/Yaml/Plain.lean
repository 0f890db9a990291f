/-
Module: StudyDesk.Yaml.Plain
Purpose: What an unquoted scalar stands for: null, a truth value, an integer, a real, or a text.
Main exports:
  Yaml.flag?, Yaml.natural?, Yaml.integer?, Yaml.real?, Yaml.isNull
-/
import StudyDesk.Decimal.Reading
import StudyDesk.Yaml.Scalar

namespace StudyDesk.Yaml

/-- Whether a text is one of the given spellings. -/
def isOneOf (spellings : List String) (cs : List Char) : Bool :=
  spellings.contains (String.ofList cs)

/-- Whether a text spells null; an empty text is left to the caller. -/
def isNull (cs : List Char) : Bool := isOneOf ["null", "Null", "NULL", "~"] cs

/-- The truth value that a text spells. -/
def flag? (cs : List Char) : Option Bool :=
  if isOneOf ["true", "True", "TRUE"] cs then some true
  else if isOneOf ["false", "False", "FALSE"] cs then some false
  else none

/-- Digits with a superfluous leading zero, which are a text and no number. -/
def isZeroLed (cs : List Char) : Bool :=
  let digits :=
    match cs with
    | '-' :: rest => rest
    | '+' :: rest => rest
    | rest => rest
  1 < digits.length && digits.head? = some '0' && digits.all Char.isDigit

/-- The value of digits in a base; a sign is no digit. -/
def digitsIn? (base : Nat) (cs : List Char) : Option Nat :=
  if cs.isEmpty then none else Text.digitsValue? base cs

/-- An integer without sign, behind the mark of its base. -/
def unsigned? (cs : List Char) : Option Nat :=
  match cs with
  | '0' :: 'x' :: rest => digitsIn? 16 rest
  | '0' :: 'o' :: rest => digitsIn? 8 rest
  | '0' :: 'b' :: rest => digitsIn? 2 rest
  | digits => if isZeroLed digits then none else digitsIn? 10 digits

/-- The integer from zero up that a text spells; a plus sign may stand before it. -/
def natural? (cs : List Char) : Option Nat :=
  match cs with
  | '+' :: rest => unsigned? rest
  | rest => unsigned? rest

/-- The integer that a text spells. -/
def integer? (cs : List Char) : Option Int :=
  match cs with
  | '-' :: rest => (unsigned? rest).map fun n => -(n : Int)
  | rest => (natural? rest).map fun n => (n : Int)

/-- The real number that a text spells, within 64 bits; infinity and the undefined number have
spellings of their own. -/
def real? (cs : List Char) : Option Floating :=
  let positive :=
    match cs with
    | '+' :: rest => rest
    | rest => rest
  let signedTwice :=
    match cs with
    | '+' :: '+' :: _ => true
    | '+' :: '-' :: _ => true
    | _ => false
  if signedTwice then none
  else if isOneOf [".inf", ".Inf", ".INF"] positive then some (.infinite false)
  else if isOneOf ["-.inf", "-.Inf", "-.INF"] cs then some (.infinite true)
  else if isOneOf [".nan", ".NaN", ".NAN"] cs then some .undefined
  else (readDecimal? positive).filter Floating.isFinite

end StudyDesk.Yaml
