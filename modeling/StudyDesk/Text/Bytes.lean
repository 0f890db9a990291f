/-
Module: StudyDesk.Text.Bytes
Purpose: Texts as UTF-8 bytes, and bytes as texts.
Main exports:
  byteLength, encode, decode?, decodeLossy, before
-/

namespace StudyDesk.Text

/-- How many bytes a list of characters takes. -/
def byteLength : List Char → Nat
  | [] => 0
  | c :: rest => c.utf8Size + byteLength rest

/-- The bytes of a list of characters. -/
def encode (cs : List Char) : List UInt8 :=
  cs.flatMap String.utf8EncodeChar

/-!
### Decoding

One step reads the character at the front of the bytes, or else the longest front part that could
have begun one; such a part is never empty, and is what one replacement character stands for.
-/

/-- Whether a byte continues a character. -/
def isContinuation (b : UInt8) : Bool := 0x80 ≤ b && b ≤ 0xBF

/-- Whether the second byte may follow the first in a character of three or four bytes: overlong
forms, surrogates and numbers above the last code point are ruled out here. -/
def mayFollow (first second : UInt8) : Bool :=
  if first == 0xE0 then 0xA0 ≤ second && second ≤ 0xBF
  else if first == 0xED then 0x80 ≤ second && second ≤ 0x9F
  else if first == 0xF0 then 0x90 ≤ second && second ≤ 0xBF
  else if first == 0xF4 then 0x80 ≤ second && second ≤ 0x8F
  else isContinuation second

/-- The payload bits of a continuation byte. -/
def payload (b : UInt8) : Nat := b.toNat % 0x40

/-- The first character of a nonempty list of bytes (none if they do not begin with one) and the
bytes that remain. -/
def decodeStep (first : UInt8) (rest : List UInt8) : Option Char × List UInt8 :=
  if first < 0x80 then (some (Char.ofNat first.toNat), rest)
  else if 0xC2 ≤ first && first ≤ 0xDF then
    match rest with
    | b :: r =>
        if isContinuation b then (some (Char.ofNat (first.toNat % 0x20 * 0x40 + payload b)), r)
        else (none, rest)
    | [] => (none, [])
  else if 0xE0 ≤ first && first ≤ 0xEF then
    match rest with
    | b :: r =>
        if mayFollow first b then
          match r with
          | c :: q =>
              if isContinuation c then
                (some (Char.ofNat
                  (first.toNat % 0x10 * 0x1000 + payload b * 0x40 + payload c)), q)
              else (none, r)
          | [] => (none, [])
        else (none, rest)
    | [] => (none, [])
  else if 0xF0 ≤ first && first ≤ 0xF4 then
    match rest with
    | b :: r =>
        if mayFollow first b then
          match r with
          | c :: q =>
              if isContinuation c then
                match q with
                | d :: p =>
                    if isContinuation d then
                      (some (Char.ofNat (first.toNat % 0x08 * 0x40000 + payload b * 0x1000 +
                        payload c * 0x40 + payload d)), p)
                    else (none, q)
                | [] => (none, [])
              else (none, r)
          | [] => (none, [])
        else (none, rest)
    | [] => (none, [])
  else (none, rest)

/-- A step never gives back more bytes than it was offered. -/
theorem decodeStep_length_le (first : UInt8) (rest : List UInt8) :
    (decodeStep first rest).2.length ≤ rest.length := by
  unfold decodeStep
  repeat' split
  all_goals simp
  all_goals omega

/-- The characters of the bytes, if they are well-formed throughout. -/
def decodeChars? : List UInt8 → Option (List Char)
  | [] => some []
  | b :: rest =>
      match (decodeStep b rest).1 with
      | some c => (decodeChars? (decodeStep b rest).2).map (c :: ·)
      | none => none
termination_by bytes => bytes.length
decreasing_by
  have := decodeStep_length_le b rest
  simp; omega

/-- The text of the bytes, if they are well-formed throughout. -/
def decode? (bytes : List UInt8) : Option String :=
  (decodeChars? bytes).map String.ofList

/-- The characters of the bytes, with a replacement character for each ill-formed part. -/
def decodeLossyChars : List UInt8 → List Char
  | [] => []
  | b :: rest =>
      (decodeStep b rest).1.getD (Char.ofNat 0xFFFD) :: decodeLossyChars (decodeStep b rest).2
termination_by bytes => bytes.length
decreasing_by
  have := decodeStep_length_le b rest
  simp; omega

/-- The text of the bytes, with a replacement character for each ill-formed part. -/
def decodeLossy (bytes : List UInt8) : String :=
  String.ofList (decodeLossyChars bytes)

/-!
### Order

UTF-8 keeps the order of code points, so comparing bytes is comparing characters.
-/

/-- Whether the first list of characters comes strictly before the second in byte order. -/
def charsBefore : List Char → List Char → Bool
  | [], [] => false
  | [], _ :: _ => true
  | _ :: _, [] => false
  | a :: r, b :: s => if a = b then charsBefore r s else a.toNat < b.toNat

/-- Whether the first text comes strictly before the second in byte order. -/
def before (a b : String) : Bool :=
  charsBefore a.toList b.toList

end StudyDesk.Text
