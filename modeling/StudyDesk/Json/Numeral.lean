/-
Module: StudyDesk.Json.Numeral
Purpose: Reading a JSON number, with its range and its rounding.
Main exports:
  Json.readNumber, Json.scaled
-/
import StudyDesk.Json.Fault

namespace StudyDesk.Json

/-!
The digits are gathered into a significand of 64 bits.  An integer that fits stays one.  Otherwise
digits beyond the significand only shift the decimal exponent, and the significand, rounded to
floating point, is multiplied or divided by a power of ten, rounding again.
-/

/-- The value of a digit. -/
def digitValue (c : Char) : Nat := c.toNat - '0'.toNat

/-- The first number that does not fit into the significand. -/
def significandLimit : Nat := Nat.pow 2 64

/-- Digits appended to a significand as long as it fits: the significand, how many digits were
taken, and the rest, which starts with a digit only if that one does not fit. -/
def takeDigits (significand : Nat) : List Char → Nat × Nat × List Char
  | [] => (significand, 0, [])
  | c :: rest =>
      if c.isDigit && significand * 10 + digitValue c < significandLimit then
        let more := takeDigits (significand * 10 + digitValue c) rest
        (more.1, more.2.1 + 1, more.2.2)
      else (significand, 0, c :: rest)

/-- The rest of a text after its leading digits. -/
def afterDigits (cs : List Char) : List Char := cs.dropWhile Char.isDigit

/-- The number of leading digits. -/
def countDigits (cs : List Char) : Nat := (cs.takeWhile Char.isDigit).length

/-- Whether a text goes on with a digit. -/
def startsWithDigit : List Char → Bool
  | c :: _ => c.isDigit
  | [] => false

/-- A power of ten, rounded. -/
def powerOfTen (n : Nat) : Floating := .ofRatio .double false (Nat.pow 10 n) 1

/-- The largest power of ten in range. -/
def greatestPower : Nat := 308

/-- A number divided by `10 ^ n`, in steps that stay in range. -/
def shrink (x : Floating) (n : Nat) : Floating :=
  if x.isZero then x
  else if _ : n ≤ greatestPower then x.div .double (powerOfTen n)
  else shrink (x.div .double (powerOfTen greatestPower)) (n - greatestPower)
termination_by n
decreasing_by simp [greatestPower] at *; omega

/-- The magnitude `significand * 10 ^ exponent`; none if it is out of range. -/
def scaled (significand : Nat) (exponent : Int) : Option Floating :=
  let x : Floating := .ofRatio .double false significand 1
  if exponent < 0 then some (shrink x exponent.natAbs)
  else if exponent.natAbs ≤ greatestPower then
    let y := x.mul .double (powerOfTen exponent.natAbs)
    if y.isFinite then some y else none
  else if x.isZero then some x else none

/-- A scaled number with its sign, at the end of its text. -/
def finishReal (negative : Bool) (significand : Nat) (exponent : Int) (rest : List Char) :
    Read Number :=
  match scaled significand exponent with
  | some x => .ok (.double (if negative then x.neg else x), rest)
  | none => .error ⟨.numberOutOfRange, rest, 0⟩

/-- The first number that an exponent may not reach. -/
def exponentLimit : Nat := Nat.pow 2 31

/-- The digits of an exponent after its first one.  When it grows too large, the number is zero or
out of range, whatever follows. -/
def readExponentDigits (negative : Bool) (significand : Nat) (start : Int) (negativeExponent : Bool)
    (exponent : Nat) : List Char → Read Number
  | [] =>
      finishReal negative significand
        (if negativeExponent then start - exponent else start + exponent) []
  | c :: rest =>
      if c.isDigit then
        if exponent * 10 + digitValue c < exponentLimit then
          readExponentDigits negative significand start negativeExponent
            (exponent * 10 + digitValue c) rest
        else if significand != 0 && !negativeExponent then .error ⟨.numberOutOfRange, rest, 0⟩
        else .ok (.double (.finite negative 0 FloatFormat.double.lowest), afterDigits rest)
      else
        finishReal negative significand
          (if negativeExponent then start - exponent else start + exponent) (c :: rest)

/-- The exponent after its letter. -/
def readExponent (negative : Bool) (significand : Nat) (start : Int) (cs : List Char) :
    Read Number :=
  let signed : Bool × List Char :=
    match cs with
    | '+' :: rest => (false, rest)
    | '-' :: rest => (true, rest)
    | rest => (false, rest)
  match signed.2 with
  | [] => .error ⟨.endInValue, [], 0⟩
  | c :: rest =>
      if c.isDigit then
        readExponentDigits negative significand start signed.1 (digitValue c) rest
      else .error ⟨.invalidNumber, c :: rest, 1⟩

/-- What may follow the digits of a number with a fraction. -/
def afterFraction (negative : Bool) (significand : Nat) (exponent : Int) : List Char → Read Number
  | 'e' :: rest => readExponent negative significand exponent rest
  | 'E' :: rest => readExponent negative significand exponent rest
  | rest => finishReal negative significand exponent rest

/-- The fraction after its point: at least one digit, the exponent counting down for each that is
taken into the significand. -/
def readFraction (negative : Bool) (significand : Nat) (exponent : Int) (cs : List Char) :
    Read Number :=
  let taken := takeDigits significand cs
  if startsWithDigit taken.2.2 then
    afterFraction negative taken.1 (exponent - taken.2.1) (afterDigits taken.2.2)
  else if taken.2.1 = 0 then
    match taken.2.2 with
    | [] => .error ⟨.endInValue, [], 0⟩
    | rest => .error ⟨.invalidNumber, rest, 1⟩
  else afterFraction negative taken.1 (exponent - taken.2.1) taken.2.2

/-- An integer with its sign.  A negative zero, and what is below the 64-bit range, is real. -/
def signedInteger (negative : Bool) (significand : Nat) : Number :=
  if negative then
    if significand = 0 || Nat.pow 2 63 < significand then
      .double (Floating.ofRatio .double true significand 1)
    else .integer (-(significand : Int))
  else .integer significand

/-- What may follow the whole part of a number whose digits all fit. -/
def afterWhole (negative : Bool) (significand : Nat) : List Char → Read Number
  | '.' :: rest => readFraction negative significand 0 rest
  | 'e' :: rest => readExponent negative significand 0 rest
  | 'E' :: rest => readExponent negative significand 0 rest
  | rest => .ok (signedInteger negative significand, rest)

/-- What may follow a whole part with digits that do not fit. -/
def afterLongWhole (negative : Bool) (significand : Nat) (dropped : Nat) :
    List Char → Read Number
  | '.' :: rest => readFraction negative significand dropped rest
  | rest => afterFraction negative significand dropped rest

/-- A number after its sign: no leading zero before another digit. -/
def readNumber (negative : Bool) : List Char → Read Number
  | [] => .error ⟨.endInValue, [], 0⟩
  | c :: rest =>
      if c = '0' then
        if startsWithDigit rest then .error ⟨.invalidNumber, rest, 1⟩
        else afterWhole negative 0 rest
      else if c.isDigit then
        let taken := takeDigits (digitValue c) rest
        if startsWithDigit taken.2.2 then
          afterLongWhole negative taken.1 (countDigits taken.2.2) (afterDigits taken.2.2)
        else afterWhole negative taken.1 taken.2.2
      else .error ⟨.invalidNumber, c :: rest, 1⟩

end StudyDesk.Json
