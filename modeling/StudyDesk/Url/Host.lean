/-
Module: StudyDesk.Url.Host
Purpose: The hosts of addresses: names, four-part and eight-part numbers.
Main exports:
  UrlFault, Host, Naming, Host.ofText, Host.checkOpaque, Host.text
-/
import StudyDesk.Decimal.Layout
import StudyDesk.Text.Digits
import StudyDesk.Url.Percent

namespace StudyDesk

/-- What can be wrong with an address. -/
inductive UrlFault where
  | relative
  | emptyHost
  | invalidPort
  | invalidFourPart
  | invalidEightPart
  /-- A character that no registered name may have. -/
  | invalidName
  /-- A character that no host may have, in an address whose scheme has no rules for hosts. -/
  | invalidCharacter
deriving DecidableEq, Repr

/-- The wording of a fault. -/
def UrlFault.message : UrlFault → String
  | .relative => "relative URL without a base"
  | .emptyHost => "empty host"
  | .invalidPort => "invalid port number"
  | .invalidFourPart => "invalid IPv4 address"
  | .invalidEightPart => "invalid IPv6 address"
  | .invalidName => "invalid international domain name"
  | .invalidCharacter => "invalid domain character"

/-- A host. -/
inductive Host where
  /-- A name, in ASCII. -/
  | name (text : String)
  /-- A number of 32 bits, written in four parts. -/
  | fourPart (address : Nat)
  /-- Eight numbers of 16 bits. -/
  | eightPart (pieces : List Nat)
deriving DecidableEq, Repr

/-- How the bytes of a name are brought into the ASCII form under which it is registered, if it has
one.  For names beyond ASCII it takes tables, which are given from outside. -/
abbrev Naming := List UInt8 → Option (List Char)

namespace Host

/-!
### Four parts

A part may be decimal, octal after a zero, or hexadecimal after `0x`.  Fewer parts than four are
allowed; the last one then fills the bytes that are left.
-/

/-- Split a text at each occurrence of a character. -/
def splitAt (sep : Char) : List Char → List (List Char)
  | [] => [[]]
  | c :: rest =>
      if c = sep then [] :: splitAt sep rest
      else
        match splitAt sep rest with
        | [] => [[c]]
        | part :: parts => (c :: part) :: parts

/-- The value of one part; none if it is not a number. -/
def partValue? (cs : List Char) : Option Nat :=
  match cs with
  | [] => none
  | '0' :: 'x' :: rest => Text.digitsValue? 16 rest
  | '0' :: 'X' :: rest => Text.digitsValue? 16 rest
  | '0' :: d :: rest => Text.digitsValue? 8 (d :: rest)
  | digits => Text.digitsValue? 10 digits

/-- The parts of a text between its dots; an empty part at the end, after another one, is left
out. -/
def dotParts (cs : List Char) : List (List Char) :=
  let parts := splitAt '.' cs
  match parts.reverse with
  | [] :: p :: rest => (p :: rest).reverse
  | _ => parts

/-- Whether the last part of a name is a number, so that the name must be a four-part address. -/
def endsInNumber (cs : List Char) : Bool :=
  match (dotParts cs).getLast? with
  | some last => last != [] && (last.all Char.isDigit || (partValue? last).isSome)
  | none => false

/-- The address with the given values of its parts: all but the last are bytes, the last fills the
rest. -/
def joinParts? (values : List Nat) : Option Nat :=
  match values.reverse with
  | [] => none
  | last :: leading =>
      let firsts := leading.reverse
      if 3 < firsts.length then none
      else if firsts.any (255 < ·) then none
      else
        -- the last part fills all the bytes that the others leave
        let room := Nat.pow 256 (4 - firsts.length)
        if room ≤ last then none
        else some (firsts.foldl (fun done n => done * 256 + n) 0 * room + last)

/-- The four-part address that a text spells. -/
def parseFourPart? (cs : List Char) : Option Nat := do
  let values ← (dotParts cs).mapM partValue?
  joinParts? values

/-!
### Eight parts

Up to four hexadecimal digits a piece, one `::` for a run of zeros, and a four-part decimal address
in place of the last two pieces.
-/

/-- The value of up to four leading hexadecimal digits, and the rest. -/
def takeHex : Nat → Nat → List Char → Nat × List Char
  | 0, value, cs => (value, cs)
  | _ + 1, value, [] => (value, [])
  | left + 1, value, c :: rest =>
      match Text.hexDigit? c with
      | some d => takeHex left (value * 16 + d) rest
      | none => (value, c :: rest)

/-- A byte in decimal: no leading zero, at most 255. -/
def byteValue? (cs : List Char) : Option Nat :=
  match cs with
  | [] => none
  | '0' :: _ :: _ => none
  | digits => do
      let v ← Text.digitsValue? 10 digits
      if v ≤ 255 then some v else none

/-- The two pieces that a decimal address at the end stands for. -/
def tailPieces? (cs : List Char) : Option (List Nat) := do
  match ← (splitAt '.' cs).mapM byteValue? with
  | [a, b, c, d] => some [a * 256 + b, c * 256 + d]
  | _ => none

/-- Pieces from left to right; `done` holds those read, the last one first, and `gap` where the run
of zeros stands. -/
def readPieces : Nat → List Nat → Option Nat → List Char → Option (List Nat × Option Nat)
  | _, done, gap, [] => some (done.reverse, gap)
  | 0, _, _, _ :: _ => none
  | fuel + 1, done, gap, c :: rest =>
      if done.length + (if gap.isSome then 1 else 0) = 8 then none
      else if c = ':' then
        if gap.isSome then none else readPieces fuel done (some done.length) rest
      else
        let piece := takeHex 4 0 (c :: rest)
        match piece.2 with
        | [] => some ((piece.1 :: done).reverse, gap)
        | ':' :: more =>
            if piece.2.length = (c :: rest).length then none
            else if more.isEmpty then none
            else readPieces fuel (piece.1 :: done) gap more
        | '.' :: _ =>
            if piece.2.length = (c :: rest).length then none
            else if 6 < done.length + (if gap.isSome then 1 else 0) then none
            else do
              let two ← tailPieces? (c :: rest)
              some (done.reverse ++ two, gap)
        | _ :: _ => none

/-- Put the run of zeros in its place. -/
def fillGap? (pieces : List Nat) (gap : Option Nat) : Option (List Nat) :=
  match gap with
  | none => if pieces.length = 8 then some pieces else none
  | some at_ =>
      if pieces.length ≤ 7 then
        some (pieces.take at_ ++ List.replicate (8 - pieces.length) 0 ++ pieces.drop at_)
      else none

/-- The eight-part address that a text spells. -/
def parseEightPart? (cs : List Char) : Option (List Nat) := do
  let (pieces, gap) ←
    match cs with
    | ':' :: ':' :: rest => readPieces (cs.length + 1) [] (some 0) rest
    | ':' :: _ => none
    | _ :: _ :: _ => readPieces (cs.length + 1) [] none cs
    | _ => none
  fillGap? pieces gap

/-- Start and length of the first longest run of zeros. -/
def longestZeros (pieces : List Nat) : Nat × Nat :=
  (List.range pieces.length).foldl
    (fun best start =>
      let run := ((pieces.drop start).takeWhile (· == 0)).length
      if best.2 < run then (start, run) else best)
    (0, 0)

/-- Pieces in hexadecimal with colons in between. -/
def piecesText (pieces : List Nat) : List Char :=
  List.intercalate [':'] (pieces.map (Nat.toDigits 16))

/-- The written form of an eight-part address, its first longest run of two or more zeros cut. -/
def eightPartText (pieces : List Nat) : List Char :=
  let zeros := longestZeros pieces
  if 2 ≤ zeros.2 then
    piecesText (pieces.take zeros.1) ++ [':', ':'] ++ piecesText (pieces.drop (zeros.1 + zeros.2))
  else piecesText pieces

/-- The written form of a four-part address. -/
def fourPartText (address : Nat) : List Char :=
  List.intercalate ['.']
    ([address / 16777216 % 256, address / 65536 % 256, address / 256 % 256, address % 256].map
      Layout.digitsOf)

/-- The written form of a host. -/
def text : Host → List Char
  | .name s => s.toList
  | .fourPart address => fourPartText address
  | .eightPart pieces => '[' :: eightPartText pieces ++ [']']

/-!
### Reading a host
-/

/-- Characters that no host may have. -/
def isForbidden (c : Char) : Bool :=
  c.toNat = 0 || c = '\t' || c = '\n' || c = '\r' || c = ' ' || c = '#' || c = '/' || c = ':' ||
    c = '<' || c = '>' || c = '?' || c = '@' || c = '[' || c = '\\' || c = ']' || c = '^' ||
    c = '|'

/-- The name that a text stands for, once percent-decoded and in ASCII; one that ends in a number is an
address. -/
def ofName (naming : Naming) (cs : List Char) : Except UrlFault Host :=
  match naming (Percent.decode (Text.encode cs)) with
  | none => .error .invalidName
  | some ascii =>
      if ascii.isEmpty then .error .emptyHost
      else if endsInNumber ascii then
        match parseFourPart? ascii with
        | some address => .ok (.fourPart address)
        | none => .error .invalidFourPart
      else .ok (.name (String.ofList ascii))

/-- An address in brackets. -/
def ofBrackets (cs : List Char) : Except UrlFault Host :=
  if cs.getLast? = some ']' then
    match parseEightPart? (cs.drop 1).dropLast with
    | some pieces => .ok (.eightPart pieces)
    | none => .error .invalidEightPart
  else .error .invalidEightPart

/-- The host that a text spells in a web address. -/
def ofText (naming : Naming) (cs : List Char) : Except UrlFault Host :=
  if cs.head? = some '[' then ofBrackets cs else ofName naming cs

/-- Check the host of an address whose scheme has no rules for hosts. -/
def checkOpaque (cs : List Char) : Except UrlFault Unit :=
  if cs.head? = some '[' then (ofBrackets cs).map fun _ => ()
  else if cs.any isForbidden then .error .invalidCharacter
  else .ok ()

end Host

end StudyDesk
