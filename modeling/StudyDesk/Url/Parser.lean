/-
Module: StudyDesk.Url.Parser
Purpose: Reading addresses.
Main exports:
  Url.Address, Url.parse, Url.normalizePath
-/
import StudyDesk.Url.Basic

namespace StudyDesk.Url

/-!
Blanks and controls around an address are dropped, tabs and line breaks are dropped everywhere.
Then come the scheme, the authority (user information up to the last at sign, host, port), the path,
the query and the fragment.
-/

/-- An address: one of the web, or one with another scheme, of which only the name is kept. -/
inductive Address where
  | web (url : Url)
  | foreign (scheme : String)
deriving DecidableEq, Repr

/-- Characters dropped around an address. -/
def isOuter (c : Char) : Bool := c.toNat ≤ 0x20

/-- Characters dropped anywhere in an address. -/
def isDropped (c : Char) : Bool := c = '\t' || c = '\n' || c = '\r'

/-- The characters of an address that count. -/
def significant (cs : List Char) : List Char :=
  (((cs.dropWhile isOuter).reverse.dropWhile isOuter).reverse).filter (!isDropped ·)

/-- Characters of a scheme after its first letter. -/
def isSchemeChar (c : Char) : Bool :=
  c.isAlphanum || c = '+' || c = '-' || c = '.'

/-- The scheme, in lower case, and what follows its colon. -/
def splitScheme? (cs : List Char) : Option (List Char × List Char) :=
  match cs with
  | [] => none
  | c :: _ =>
      if c.isAlpha then
        match cs.dropWhile isSchemeChar with
        | ':' :: rest => some ((cs.takeWhile isSchemeChar).map Char.toLower, rest)
        | _ => none
      else none

/-- How the authority of a scheme is read. -/
inductive Rules where
  /-- A scheme of the web kind, with its own port: hosts are required, backslashes are slashes. -/
  | special (port : Nat)
  /-- Any other scheme: hosts are free text. -/
  | plain
deriving DecidableEq, Repr

/-- Whether a backslash counts as a slash. -/
def Rules.isSpecial : Rules → Bool
  | .special _ => true
  | .plain => false

/-- Whether a character ends the authority. -/
def endsAuthority (rules : Rules) (c : Char) : Bool :=
  c = '/' || c = '?' || c = '#' || (rules.isSpecial && c = '\\')

/-- Split at the last at sign of the authority: what stands before it, if there is one, and the
rest. -/
def splitUserInfo (rules : Rules) (cs : List Char) : Option (List Char) × List Char :=
  let authority := cs.takeWhile (!endsAuthority rules ·)
  let after := cs.dropWhile (!endsAuthority rules ·)
  if authority.contains '@' then
    let host := (authority.reverse.takeWhile (· != '@')).reverse
    (some (authority.take (authority.length - host.length - 1)), host ++ after)
  else (none, cs)

/-- User name and password, encoded; the first colon divides them. -/
def readUserInfo (info : List Char) : List Char × List Char :=
  (Percent.encode Percent.inUserInfo (info.takeWhile (· != ':')),
    Percent.encode Percent.inUserInfo ((info.dropWhile (· != ':')).drop 1))

/-- Split off the host: it ends at a colon outside brackets or where the authority ends. -/
def splitHost (rules : Rules) (bracketed : Bool) : List Char → List Char × List Char
  | [] => ([], [])
  | c :: rest =>
      if (c = ':' && !bracketed) || endsAuthority rules c then ([], c :: rest)
      else
        let more := splitHost rules (c = '[' || (bracketed && c != ']')) rest
        (c :: more.1, more.2)

/-- The port after its colon: digits up to the end of the authority, none for no digits. -/
def readPort (cs : List Char) : Except UrlFault (Option Nat × List Char) :=
  let digits := cs.takeWhile Char.isDigit
  let rest := cs.dropWhile Char.isDigit
  let value := (Text.digitsValue? 10 digits).getD 0
  let tooLarge := 65535 < value
  match rest with
  | [] =>
      if tooLarge then .error .invalidPort
      else .ok (if digits.isEmpty then none else some value, [])
  | c :: _ =>
      if tooLarge then .error .invalidPort
      else if c = '/' || c = '\\' || c = '?' || c = '#' then
        .ok (if digits.isEmpty then none else some value, rest)
      else .error .invalidPort

/-- The port that remains when the scheme's own is left out. -/
def keptPort (rules : Rules) (port : Option Nat) : Option Nat :=
  match rules with
  | .special own => if port = some own then none else port
  | .plain => port

/-!
### Paths

The path is a list of segments.  A segment of one dot, however it is encoded, names the same place;
one of two dots takes back the segment before, unless that one is a drive letter.
-/

/-- Whether a segment is one dot. -/
def isSingleDot (segment : List Char) : Bool :=
  let s := segment.map Char.toLower
  s = ['.'] || s = ['%', '2', 'e']

/-- Whether a segment is two dots. -/
def isDoubleDot (segment : List Char) : Bool :=
  let s := segment.map Char.toLower
  s = ['.', '.'] || s = ['.', '%', '2', 'e'] || s = ['%', '2', 'e', '.'] ||
    s = ['%', '2', 'e', '%', '2', 'e']

/-- Whether a segment is a drive letter. -/
def isDriveLetter : List Char → Bool
  | [c, d] => c.isAlpha && (d = ':' || d = '|')
  | _ => false

/-- Segments of a path whose dots are still to be followed; `done` holds those that stay, the last
one first. -/
def followDots (done : List (List Char)) : List (List Char) → List (List Char)
  | [] => done.reverse
  | [segment] =>
      if isDoubleDot segment then
        match done with
        | [] => [[]]
        | last :: before =>
            if isDriveLetter last then (done.reverse ++ [[]]) else before.reverse ++ [[]]
      else if isSingleDot segment then done.reverse ++ [[]]
      else (segment :: done).reverse
  | segment :: rest =>
      if isDoubleDot segment then
        match done with
        | [] => followDots [] rest
        | last :: before =>
            if isDriveLetter last then followDots done rest else followDots before rest
      else if isSingleDot segment then followDots done rest
      else followDots (segment :: done) rest

/-- Split a text at its slashes and backslashes. -/
def splitSegments : List Char → List (List Char)
  | [] => [[]]
  | c :: rest =>
      if c = '/' || c = '\\' then [] :: splitSegments rest
      else
        match splitSegments rest with
        | [] => [[c]]
        | part :: parts => (c :: part) :: parts

/-- The written form of segments: each after a slash. -/
def joinSegments (segments : List (List Char)) : List Char :=
  segments.flatMap ('/' :: ·)

/-- A path in its normal form: encoded, dots followed, and never without its leading slash. -/
def normalizePath (cs : List Char) : List Char :=
  let body :=
    match cs with
    | '/' :: rest => rest
    | '\\' :: rest => rest
    | rest => rest
  joinSegments (followDots [] ((splitSegments body).map (Percent.encode Percent.inPath)))

/-- The query after its mark, and the fragment after its own. -/
def readTail (cs : List Char) : Option (List Char) × Option (List Char) :=
  let beforeHash := cs.takeWhile (· != '#')
  let fragment :=
    match cs.dropWhile (· != '#') with
    | _ :: rest => some (Percent.encode Percent.inFragment rest)
    | [] => none
  match beforeHash with
  | '?' :: query => (some (Percent.encode Percent.inQuery query), fragment)
  | _ => (none, fragment)

/-- The authority and what follows it: user information, host, port and rest.  The host is read by
the first argument. -/
def readAuthority (host : List Char → Except UrlFault α) (rules : Rules) (cs : List Char) :
    Except UrlFault ((List Char × List Char) × α × Option Nat × List Char) := do
  let (info, rest) := splitUserInfo rules cs
  let nothingAfter :=
    match rest with
    | [] => false
    | c :: _ => endsAuthority rules c
  if info = some [] && nothingAfter then throw .emptyHost
  let (hostText, rest) := splitHost rules false rest
  if rules.isSpecial && hostText.isEmpty then throw .emptyHost
  let h ← host hostText
  match rest with
  | ':' :: afterColon =>
      if hostText.isEmpty then throw .emptyHost
      let (port, rest) ← readPort afterColon
      return (readUserInfo (info.getD []), h, keptPort rules port, rest)
  | _ => return (readUserInfo (info.getD []), h, none, rest)

/-- A web address after its scheme: any number of slashes may stand before the authority. -/
def readWeb (naming : Naming) (secure : Bool) (cs : List Char) : Except UrlFault Url := do
  let body := cs.dropWhile fun c => c = '/' || c = '\\'
  let (user, host, port, rest) ←
    readAuthority (Host.ofText naming) (.special (defaultPort secure)) body
  let isTail := fun (c : Char) => c = '?' || c = '#'
  let tail := readTail (rest.dropWhile (!isTail ·))
  return {
    secure := secure
    userName := user.1
    password := user.2
    host := host
    port := port
    path := normalizePath (rest.takeWhile (!isTail ·))
    query := tail.1
    fragment := tail.2 }

/-- Whether two characters are a drive letter. -/
def startsWithDrive (cs : List Char) : Bool := isDriveLetter cs

/-- Check the host of a file address, which may be missing. -/
def checkFileHost (naming : Naming) (cs : List Char) : Except UrlFault Unit :=
  match cs with
  | a :: b :: rest =>
      if (a = '/' || a = '\\') && (b = '/' || b = '\\') then
        let host := rest.takeWhile (!endsAuthority (.special 0) ·)
        if host.isEmpty || startsWithDrive host then .ok ()
        else (Host.ofText naming host).map fun _ => ()
      else .ok ()
  | _ => .ok ()

/-- Check an address of another scheme, of which nothing but the scheme is kept. -/
def checkForeign (naming : Naming) (scheme : List Char) (cs : List Char) : Except UrlFault Unit :=
  let special := fun (port : Nat) =>
    (readAuthority (Host.ofText naming) (.special port)
      (cs.dropWhile fun c => c = '/' || c = '\\')).map fun _ => ()
  if scheme = ['f', 't', 'p'] then special 21
  else if scheme = ['w', 's'] then special 80
  else if scheme = ['w', 's', 's'] then special 443
  else if scheme = ['f', 'i', 'l', 'e'] then checkFileHost naming cs
  else
    match cs with
    | '/' :: '/' :: rest => do
        let (user, _, _, _) ← readAuthority Host.checkOpaque .plain rest
        let hostText := (splitHost .plain false (splitUserInfo .plain rest).2).1
        if hostText.isEmpty && !(user.1.isEmpty && user.2.isEmpty) then .error .emptyHost
        else .ok ()
    | _ => .ok ()

/-- The address that a text spells, where names are brought into ASCII so. -/
def parse (naming : Naming) (cs : List Char) : Except UrlFault Address :=
  match splitScheme? (significant cs) with
  | none => .error .relative
  | some (scheme, rest) =>
      if scheme = schemeName false then (readWeb naming false rest).map .web
      else if scheme = schemeName true then (readWeb naming true rest).map .web
      else (checkForeign naming scheme rest).map fun _ => .foreign (String.ofList scheme)

end StudyDesk.Url
