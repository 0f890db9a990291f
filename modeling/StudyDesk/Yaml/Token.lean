/-
Module: StudyDesk.Yaml.Token
Purpose: A YAML text as a list of tokens.
Main exports:
  Yaml.Token, Yaml.tokens?
-/
import StudyDesk.Yaml.Scalar

namespace StudyDesk.Yaml

/-- The tokens of a YAML text.  Block collections are opened and closed by tokens of their own, which
stand for changes of indentation. -/
inductive Token where
  | streamEnd
  | version (major minor : Nat)
  | tagHandle (handle expansion : List Char)
  | documentStart
  | documentEnd
  | blockSequenceStart
  | blockMappingStart
  | blockEnd
  | flowSequenceStart
  | flowSequenceEnd
  | flowMappingStart
  | flowMappingEnd
  | blockEntry
  | flowEntry
  | key
  | value
  | alias (name : List Char)
  | anchor (name : List Char)
  | tag (handle suffix : List Char)
  | scalar (style : Style) (text : List Char)
deriving DecidableEq, Repr

/-!
### Simple keys

A key without a question mark is recognised only when its colon is found, so the place of each
possible key is remembered, one for each level of brackets.  A key must stand on one line and within
1024 characters.
-/

/-- A token that may turn out to be a key. -/
structure PossibleKey where
  /-- Whether nothing else is possible at its place, so that the colon must come. -/
  required : Bool
  /-- How many tokens stand before it. -/
  position : Nat
  index : Nat
  line : Nat
  column : Nat
deriving Repr

/-- How far the text has been turned into tokens. -/
structure Scan where
  here : Cursor
  /-- The tokens so far, the last one first. -/
  tokens : List Token
  indent : Int
  outerIndents : List Int
  /-- The possible key of each open bracket, the innermost first, and that of the block level. -/
  keys : List (Option PossibleKey)
  /-- How many brackets are open. -/
  flow : Nat
  keyAllowed : Bool
deriving Repr

namespace Scan

/-- Before the first token. -/
def start (cs : List Char) : Scan := ⟨Cursor.start cs, [], -1, [], [none], 0, true⟩

/-- Append a token. -/
def emit (s : Scan) (token : Token) : Scan := { s with tokens := token :: s.tokens }

/-- Insert a token behind the first `position` ones. -/
def insert (s : Scan) (position : Nat) (token : Token) : Scan :=
  let newer := s.tokens.length - position
  { s with tokens := s.tokens.take newer ++ token :: s.tokens.drop newer }

/-- Go past some characters of the line. -/
def past (s : Scan) (n : Nat) : Scan := { s with here := s.here.skipN n }

/-- White space and comments before a token.  A tab is white space only where no key can start. -/
def toToken (s : Scan) : Scan :=
  go (s.here.rest.length + 1) s
where
  /-- One line after the other. -/
  go : Nat → Scan → Scan
    | 0, s => s
    | fuel + 1, s =>
        let tabs := s.flow != 0 || !s.keyAllowed
        let here := (s.here.skipWhile fun c => c = ' ' || (tabs && c = '\t')).skipComment
        if here.head.any isBreak then
          go fuel { s with here := here.skipLine, keyAllowed := s.keyAllowed || s.flow == 0 }
        else { s with here := here }

/-- Whether a possible key cannot be one any more. -/
def isStale (here : Cursor) (key : PossibleKey) : Bool :=
  key.line < here.line || key.index + 1024 < here.index

/-- Forget the possible keys that cannot be keys any more; none if one of them had to be. -/
def dropStale (s : Scan) : Option Scan := do
  let keys ← s.keys.mapM fun slot =>
    match slot with
    | some key =>
        if isStale s.here key then (if key.required then none else some none) else some slot
    | none => some none
  some { s with keys := keys }

/-- Close the block collections that are indented more than a column. -/
def unroll (s : Scan) (column : Int) : Scan :=
  if s.flow != 0 then s else go s.outerIndents s
where
  /-- One collection after the other. -/
  go : List Int → Scan → Scan
    | [], s => s
    | outer :: rest, s =>
        if column < s.indent then
          go rest { s.emit .blockEnd with indent := outer, outerIndents := rest }
        else s

/-- Open a block collection at a column if that is deeper than the current one; its token goes to a
position or to the end. -/
def roll (s : Scan) (column : Nat) (position : Option Nat) (token : Token) : Scan :=
  if s.flow != 0 then s
  else if s.indent < column then
    let s := { s with outerIndents := s.indent :: s.outerIndents, indent := column }
    match position with
    | some p => s.insert p token
    | none => s.emit token
  else s

/-- Forget the possible key of the current level; none if it had to be a key. -/
def removeKey (s : Scan) : Option Scan :=
  match s.keys with
  | some key :: rest => if key.required then none else some { s with keys := none :: rest }
  | _ => some s

/-- Remember that a key may start here. -/
def saveKey (s : Scan) : Option Scan :=
  if s.keyAllowed then do
    let key : PossibleKey :=
      ⟨s.flow == 0 && s.indent == s.here.column, s.tokens.length, s.here.index, s.here.line,
        s.here.column⟩
    let s ← s.removeKey
    some { s with keys := some key :: s.keys.drop 1 }
  else some s

/-!
### Tokens
-/

/-- The end of the text. -/
def streamEnd (s : Scan) : Option Scan := do
  let s := s.unroll (-1)
  let s ← s.removeKey
  some (s.emit .streamEnd)

/-- The mark that starts or ends a document. -/
def documentMark (s : Scan) (token : Token) : Option Scan := do
  let s := s.unroll (-1)
  let s ← s.removeKey
  some (({ s with keyAllowed := false }.past 3).emit token)

/-- A number of a version. -/
def versionNumber? (here : Cursor) : Option (Nat × Cursor) :=
  let digits := here.rest.takeWhile Char.isDigit
  if digits.isEmpty || 9 < digits.length then none
  else some (digits.foldl (fun n c => n * 10 + (c.toNat - '0'.toNat)) 0, here.skipN digits.length)

/-- The handle of a tag: a mark, or a name between two marks.  A name without its closing mark is
given back as it is, unless the handle stands in a directive. -/
def tagHandle? (directive : Bool) (here : Cursor) : Option (List Char × Cursor) :=
  match here.head with
  | some '!' =>
      let name := (here.rest.drop 1).takeWhile isNameChar
      let next := here.skipN (name.length + 1)
      if next.head = some '!' then some ('!' :: name ++ ['!'], next.skip)
      else if directive && !name.isEmpty then none
      else some ('!' :: name, next)
  | _ => none

/-- Characters of a tag. -/
def isTagChar (verbatim : Bool) (c : Char) : Bool :=
  isNameChar c || c = ';' || c = '/' || c = '?' || c = ':' || c = '@' || c = '&' || c = '=' ||
    c = '+' || c = '$' || c = '.' || c = '%' || c = '!' || c = '~' || c = '*' || c = '\'' ||
    c = '(' || c = ')' || (verbatim && (c = ',' || c = '[' || c = ']'))

/-- The characters of a tag from here on. -/
def tagText (verbatim : Bool) (here : Cursor) : List Char × Cursor :=
  let text := here.rest.takeWhile (isTagChar verbatim)
  (text, here.skipN text.length)

/-- A directive: the version of the language, or the expansion of a tag handle. -/
def directive (s : Scan) : Option Scan := do
  let s := s.unroll (-1)
  let s ← s.removeKey
  let here := s.here.skip
  let name := here.rest.takeWhile isNameChar
  let here := here.skipN name.length
  if name.isEmpty || !isEnd here.head then none
  else do
    let here := here.skipBlanks
    let (token, here) ←
      if name = ['Y', 'A', 'M', 'L'] then do
        let (major, here) ← versionNumber? here
        if here.head != some '.' then none
        else do
          let (minor, here) ← versionNumber? here.skip
          some (Token.version major minor, here)
      else if name = ['T', 'A', 'G'] then do
        let (handle, here) ← tagHandle? true here
        if !here.head.any isBlank then none
        else do
          let (expansion, here) := tagText true here.skipBlanks
          if expansion.isEmpty || !isEnd here.head then none
          else some (Token.tagHandle handle expansion, here)
      else none
    let here := here.skipBlanks.skipComment
    if !isLineEnd here.head then none
    else
      let here := if here.rest.isEmpty then here else here.skipLine
      some ({ s with here := here, keyAllowed := false }.emit token)

/-- An opening bracket. -/
def flowStart (s : Scan) (token : Token) : Option Scan := do
  let s ← s.saveKey
  some (({ s with keys := none :: s.keys, flow := s.flow + 1, keyAllowed := true }.past 1).emit
    token)

/-- A closing bracket. -/
def flowEnd (s : Scan) (token : Token) : Option Scan := do
  let s ← s.removeKey
  let s := if s.flow = 0 then s else { s with flow := s.flow - 1, keys := s.keys.drop 1 }
  some (({ s with keyAllowed := false }.past 1).emit token)

/-- A comma between brackets. -/
def flowEntry (s : Scan) : Option Scan := do
  let s ← s.removeKey
  some (({ s with keyAllowed := true }.past 1).emit .flowEntry)

/-- The dash of an item. -/
def blockEntry (s : Scan) : Option Scan := do
  if s.flow = 0 && !s.keyAllowed then none
  else do
    let s := s.roll s.here.column none .blockSequenceStart
    let s ← s.removeKey
    some (({ s with keyAllowed := true }.past 1).emit .blockEntry)

/-- The question mark of a key. -/
def keyMark (s : Scan) : Option Scan := do
  if s.flow = 0 && !s.keyAllowed then none
  else do
    let s := s.roll s.here.column none .blockMappingStart
    let s ← s.removeKey
    some (({ s with keyAllowed := s.flow == 0 }.past 1).emit .key)

/-- The colon of a value: it turns the possible key of its level into one. -/
def valueMark (s : Scan) : Option Scan :=
  match s.keys with
  | some key :: rest =>
      let s := s.insert key.position .key
      let s := s.roll key.column (some key.position) .blockMappingStart
      some (({ s with keys := none :: rest, keyAllowed := false }.past 1).emit .value)
  | _ =>
      if s.flow = 0 && !s.keyAllowed then none
      else
        let s := s.roll s.here.column none .blockMappingStart
        some (({ s with keyAllowed := s.flow == 0 }.past 1).emit .value)

/-- The name of an anchor or alias. -/
def anchorName (s : Scan) (token : List Char → Token) : Option Scan := do
  let s ← s.saveKey
  let name := (s.here.rest.drop 1).takeWhile isNameChar
  let here := s.here.skipN (name.length + 1)
  let ends := isEnd here.head || here.head.any fun c =>
    c = '?' || c = ':' || c = ',' || c = ']' || c = '}' || c = '%' || c = '@' || c = '\x60'
  if name.isEmpty || !ends then none
  else some ({ s with here := here, keyAllowed := false }.emit (token name))

/-- A tag: verbatim in angle brackets, or a handle and a suffix. -/
def tagMark (s : Scan) : Option Scan := do
  let s ← s.saveKey
  let (token, here) ←
    if s.here.peek 1 = some '<' then
      let (text, here) := tagText true (s.here.skipN 2)
      if text.isEmpty || here.head != some '>' then none
      else some (Token.tag [] text, here.skip)
    else do
      let (handle, here) ← tagHandle? false s.here
      if 2 ≤ handle.length && handle.getLast? = some '!' then
        let (text, here) := tagText false here
        if text.isEmpty then none else some (Token.tag handle text, here)
      else
        let (text, here) := tagText false here
        let suffix := handle.drop 1 ++ text
        if suffix.isEmpty then some (Token.tag [] ['!'], here)
        else some (Token.tag ['!'] suffix, here)
  if isEnd here.head || (s.flow != 0 && here.head = some ',') then
    some ({ s with here := here, keyAllowed := false }.emit token)
  else none

/-- A block scalar. -/
def blockScalar (s : Scan) (folded : Bool) : Option Scan := do
  let s ← s.removeKey
  let (text, here) ← scanBlock folded s.indent s.here
  some ({ s with here := here, keyAllowed := true }.emit
    (.scalar (if folded then .folded else .literal) text))

/-- A quoted scalar. -/
def quotedScalar (s : Scan) (single : Bool) : Option Scan := do
  let s ← s.saveKey
  let (text, here) ← scanQuoted single s.here
  some ({ s with here := here, keyAllowed := false }.emit
    (.scalar (if single then .singleQuoted else .doubleQuoted) text))

/-- A plain scalar; a line break behind it lets a key start again. -/
def plainScalar (s : Scan) : Option Scan := do
  let s ← s.saveKey
  let (text, broken, here) ← scanPlain (s.flow != 0) (s.indent + 1) s.here
  some ({ s with here := here, keyAllowed := broken }.emit (.scalar .plain text))

/-- Characters that start something else than a plain scalar. -/
def isIndicator (c : Char) : Bool :=
  c = '-' || c = '?' || c = ':' || c = ',' || c = '[' || c = ']' || c = '{' || c = '}' ||
    c = '#' || c = '&' || c = '*' || c = '!' || c = '|' || c = '>' || c = '\'' || c = '"' ||
    c = '%' || c = '@' || c = '\x60'

/-- The token at the current place, which starts with the given character. -/
def tokenAt (s : Scan) (c : Char) : Option Scan :=
  let inFlow := s.flow != 0
  let endsNext := isEnd (s.here.peek 1)
  if s.here.column = 0 && c = '%' then s.directive
  else if s.here.atMarks '-' then s.documentMark .documentStart
  else if s.here.atMarks '.' then s.documentMark .documentEnd
  else if c = '[' then s.flowStart .flowSequenceStart
  else if c = '{' then s.flowStart .flowMappingStart
  else if c = ']' then s.flowEnd .flowSequenceEnd
  else if c = '}' then s.flowEnd .flowMappingEnd
  else if c = ',' then s.flowEntry
  else if c = '-' && endsNext then s.blockEntry
  else if c = '?' && (inFlow || endsNext) then s.keyMark
  else if c = ':' && (inFlow || endsNext) then s.valueMark
  else if c = '*' then s.anchorName .alias
  else if c = '&' then s.anchorName .anchor
  else if c = '!' then s.tagMark
  else if c = '|' && !inFlow then s.blockScalar false
  else if c = '>' && !inFlow then s.blockScalar true
  else if c = '\'' then s.quotedScalar true
  else if c = '"' then s.quotedScalar false
  else if !isIndicator c then s.plainScalar
  else if c = '-' && !((s.here.peek 1).any isBlank) then s.plainScalar
  else if !inFlow && (c = '?' || c = ':') && !endsNext then s.plainScalar
  else none

/-- The tokens of the rest of the text. -/
def run : Nat → Scan → Option Scan
  | 0, _ => none
  | fuel + 1, s => do
      let s ← s.toToken.dropStale
      let s := s.unroll s.here.column
      match s.here.head with
      | none => s.streamEnd
      | some c => run fuel (← s.tokenAt c)

end Scan

/-- The tokens of a text, if it has none but allowed characters and every token is well-formed. -/
def tokens? (cs : List Char) : Option (List Token) :=
  let start := Scan.start cs
  if start.here.rest.all isAllowed then
    (Scan.run (2 * cs.length + 2) start).map fun s => s.tokens.reverse
  else none

end StudyDesk.Yaml
