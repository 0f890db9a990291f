/-
Module: StudyDesk.Yaml.Scalar
Purpose: The scalars of a YAML text: plain, quoted and block ones.
Main exports:
  Yaml.Style, Yaml.scanPlain, Yaml.scanQuoted, Yaml.scanBlock
-/
import StudyDesk.Text.Digits
import StudyDesk.Yaml.Cursor

namespace StudyDesk.Yaml

/-- How a scalar is written. -/
inductive Style where
  | plain
  | singleQuoted
  | doubleQuoted
  | literal
  | folded
deriving DecidableEq, Repr

/-!
### Folding

Between two lines of a flowing scalar the first line break is a space, unless further breaks follow,
which then stand for themselves.  A separator of lines or paragraphs is never folded.
-/

/-- White space met between words: blanks of the line, or the first break and the further ones. -/
structure Gap where
  blanks : List Char
  broken : Bool
  first : List Char
  others : List Char
deriving Repr

/-- No white space. -/
def Gap.empty : Gap := ⟨[], false, [], []⟩

/-- The first break and the further ones, folded. -/
def foldBreaks (first others : List Char) : List Char :=
  if first = ['\n'] then (if others.isEmpty then [' '] else others) else first ++ others

/-- What white space between words contributes. -/
def Gap.text (gap : Gap) : List Char :=
  if gap.broken then foldBreaks gap.first gap.others else gap.blanks

/-- The white space from here on.  In a plain scalar a tab may not take the place of indentation. -/
def scanGap (plainIndent : Option Int) : Nat → Gap → Cursor → Option (Gap × Cursor)
  | 0, gap, here => some (gap, here)
  | fuel + 1, gap, here =>
      match here.head with
      | none => some (gap, here)
      | some c =>
          if isBlank c then
            let abused :=
              match plainIndent with
              | some indent => gap.broken && (here.column : Int) < indent && c = '\t'
              | none => false
            if abused then none
            else if gap.broken then scanGap plainIndent fuel gap here.skip
            else scanGap plainIndent fuel { gap with blanks := gap.blanks ++ [c] } here.skip
          else if isBreak c then
            if gap.broken then
              scanGap plainIndent fuel { gap with others := gap.others ++ here.breakText }
                here.skipLine
            else
              scanGap plainIndent fuel
                { gap with blanks := [], broken := true, first := here.breakText } here.skipLine
          else some (gap, here)

/-!
### Plain scalars
-/

/-- Characters that end a plain scalar inside brackets. -/
def isFlowMark (c : Char) : Bool := c = ',' || c = '[' || c = ']' || c = '{' || c = '}'

/-- The run of characters up to a blank or to what ends the scalar, the last one first; none where a
colon stands before a bracket or comma. -/
def scanPlainRun (inFlow : Bool) : Nat → List Char → Cursor → Option (List Char × Cursor)
  | 0, done, here => some (done, here)
  | fuel + 1, done, here =>
      match here.head with
      | none => some (done, here)
      | some c =>
          if isBlank c || isBreak c then some (done, here)
          else if inFlow && c = ':' &&
              ((here.peek 1).any fun d => isFlowMark d || d = '?') then none
          else if (c = ':' && isEnd (here.peek 1)) || (inFlow && isFlowMark c) then
            some (done, here)
          else scanPlainRun inFlow fuel (c :: done) here.skip

/-- A plain scalar, line by line; `done` is what has been read, the last character first, and `gap`
the white space behind it.  The last component says whether a line break was met at the end. -/
def scanPlainLines (inFlow : Bool) (indent : Int) :
    Nat → List Char → Gap → Cursor → Option (List Char × Bool × Cursor)
  | 0, done, gap, here => some (done.reverse, gap.broken, here)
  | fuel + 1, done, gap, here =>
      if here.atDocumentMark || here.head = some '#' then some (done.reverse, gap.broken, here)
      else do
        let (run, next) ← scanPlainRun inFlow (here.rest.length + 1) [] here
        let (done, gap) :=
          if run.isEmpty then (done, gap)
          else (run ++ gap.text.reverse ++ done, Gap.empty)
        if (next.head.any fun c => isBlank c || isBreak c) then
          let (gap, next) ← scanGap (some indent) (next.rest.length + 1) gap next
          if !inFlow && (next.column : Int) < indent then some (done.reverse, gap.broken, next)
          else scanPlainLines inFlow indent fuel done gap next
        else some (done.reverse, gap.broken, next)

/-- A plain scalar: its text, whether it ended with a line break, and what follows. -/
def scanPlain (inFlow : Bool) (indent : Int) (here : Cursor) :
    Option (List Char × Bool × Cursor) :=
  scanPlainLines inFlow indent (here.rest.length + 1) [] Gap.empty here

/-!
### Quoted scalars
-/

/-- The character of a one-letter escape. -/
def simpleEscape? (c : Char) : Option Char :=
  match c with
  | '0' => some (Char.ofNat 0)
  | 'a' => some (Char.ofNat 0x07)
  | 'b' => some (Char.ofNat 0x08)
  | 't' => some '\t'
  | '\t' => some '\t'
  | 'n' => some '\n'
  | 'v' => some (Char.ofNat 0x0B)
  | 'f' => some (Char.ofNat 0x0C)
  | 'r' => some '\r'
  | 'e' => some (Char.ofNat 0x1B)
  | ' ' => some ' '
  | '"' => some '"'
  | '/' => some '/'
  | '\\' => some '\\'
  | 'N' => some (Char.ofNat 0x85)
  | '_' => some (Char.ofNat 0xA0)
  | 'L' => some (Char.ofNat 0x2028)
  | 'P' => some (Char.ofNat 0x2029)
  | _ => none

/-- How many hexadecimal digits follow the letter of a numeric escape. -/
def escapeLength? (c : Char) : Option Nat :=
  if c = 'x' then some 2 else if c = 'u' then some 4 else if c = 'U' then some 8 else none

/-- An escape after its backslash. -/
def scanEscape (here : Cursor) : Option (Char × Cursor) := do
  let c ← here.head
  match simpleEscape? c with
  | some d => some (d, here.skip)
  | none => do
      let n ← escapeLength? c
      let digits := (here.rest.drop 1).take n
      if digits.length < n then none
      else do
        let code ← Text.digitsValue? 16 digits
        if (0xD800 ≤ code && code ≤ 0xDFFF) || 0x10FFFF < code then none
        else some (Char.ofNat code, here.skipN (n + 1))

/-- The run of characters up to a blank, the closing quote or an escaped line break, the last one
first; the flag says that the run ended at an escaped break. -/
def scanQuotedRun (single : Bool) :
    Nat → List Char → Cursor → Option (List Char × Bool × Cursor)
  | 0, done, here => some (done, false, here)
  | fuel + 1, done, here =>
      match here.head with
      | none => some (done, false, here)
      | some c =>
          if isBlank c || isBreak c then some (done, false, here)
          else if single && c = '\'' && here.peek 1 = some '\'' then
            scanQuotedRun single fuel ('\'' :: done) (here.skipN 2)
          else if c = (if single then '\'' else '"') then some (done, false, here)
          else if !single && c = '\\' then
            if (here.peek 1).any isBreak then some (done, true, here.skip.skipLine)
            else do
              let (d, next) ← scanEscape here.skip
              scanQuotedRun single fuel (d :: done) next
          else scanQuotedRun single fuel (c :: done) here.skip

/-- A quoted scalar after its opening quote; `done` is what has been read, the last character
first. -/
def scanQuotedLines (single : Bool) : Nat → List Char → Cursor → Option (List Char × Cursor)
  | 0, _, _ => none
  | fuel + 1, done, here =>
      if here.atDocumentMark || here.rest.isEmpty then none
      else do
        let (run, joined, next) ← scanQuotedRun single (here.rest.length + 1) [] here
        if !joined && next.head = some (if single then '\'' else '"') then
          some ((run ++ done).reverse, next.skip)
        else do
          let (gap, next) ←
            scanGap none (next.rest.length + 1) { Gap.empty with broken := joined } next
          scanQuotedLines single fuel (gap.text.reverse ++ run ++ done) next

/-- A quoted scalar: its text and what follows. -/
def scanQuoted (single : Bool) (here : Cursor) : Option (List Char × Cursor) :=
  scanQuotedLines single (here.rest.length + 1) [] here.skip

/-!
### Block scalars
-/

/-- What becomes of the line breaks at the end of a block scalar. -/
inductive Chomp where
  | strip
  | clip
  | keep
deriving DecidableEq, Repr

/-- A chomping mark, if one stands here. -/
def scanChomp (here : Cursor) : Chomp × Cursor :=
  match here.head with
  | some '+' => (.keep, here.skip)
  | some '-' => (.strip, here.skip)
  | _ => (.clip, here)

/-- An indentation digit, if one stands here; zero is none. -/
def scanIncrement (here : Cursor) : Option (Nat × Cursor) :=
  match here.head with
  | some c =>
      if c.isDigit then
        if c = '0' then none else some (c.toNat - '0'.toNat, here.skip)
      else some (0, here)
  | none => some (0, here)

/-- Chomping mark and indentation digit, in either order. -/
def scanHeader (here : Cursor) : Option (Chomp × Nat × Cursor) :=
  match scanChomp here with
  | (.clip, _) => do
      let (increment, next) ← scanIncrement here
      if increment = 0 then some (.clip, 0, next)
      else
        let (chomp, next) := scanChomp next
        some (chomp, increment, next)
  | (chomp, next) => do
      let (increment, next) ← scanIncrement next
      some (chomp, increment, next)

/-- Indentation and empty lines before the next line of content.  An `indent` of zero is still to be
found; `deepest` is the deepest indentation seen. -/
def scanBreaks (indent : Nat) :
    Nat → Nat → List Char → Cursor → Option (Nat × List Char × Cursor)
  | 0, deepest, breaks, here => some (deepest, breaks, here)
  | fuel + 1, deepest, breaks, here =>
      let spaces := (here.rest.takeWhile (· = ' ')).length
      let taken := if indent = 0 then spaces else min spaces (indent - here.column)
      let next := here.skipN taken
      let deepest := max deepest next.column
      if (indent = 0 || next.column < indent) && next.head = some '\t' then none
      else if next.head.any isBreak then
        scanBreaks indent fuel deepest (breaks ++ next.breakText) next.skipLine
      else some (deepest, breaks, next)

/-- The indentation of a block scalar, once its first lines have been seen. -/
def blockIndent (given : Nat) (outer : Int) (deepest : Nat) : Nat :=
  if given != 0 then given else max (max deepest (outer + 1).toNat) 1

/-- The lines of a block scalar.  `leading` is the break of the line before, `breaks` the empty lines
after it, and `wasBlank` says that the line before started with a blank. -/
def scanBlockLines (folded : Bool) (chomp : Chomp) (indent : Nat) :
    Nat → List Char → List Char → List Char → Bool → Cursor → Option (List Char × Cursor)
  | 0, done, _, _, _, here => some (done, here)
  | fuel + 1, done, leading, breaks, wasBlank, here =>
      if here.column = indent && !here.rest.isEmpty then
        let startsBlank := here.head.any isBlank
        let joint :=
          if folded && leading = ['\n'] && !wasBlank && !startsBlank then
            if breaks.isEmpty then [' '] else []
          else leading
        let line := here.rest.takeWhile (!isBreak ·)
        let atBreak := here.skipN line.length
        do
          let next := if atBreak.rest.isEmpty then atBreak else atBreak.skipLine
          let (_, more, next) ← scanBreaks indent (next.rest.length + 1) 0 [] next
          scanBlockLines folded chomp indent fuel (done ++ joint ++ breaks ++ line)
            atBreak.breakText more startsBlank next
      else
        some
          (done ++ (if chomp = .strip then [] else leading) ++
            (if chomp = .keep then breaks else []), here)

/-- A block scalar from its mark on: its text and what follows. -/
def scanBlock (folded : Bool) (outer : Int) (here : Cursor) : Option (List Char × Cursor) := do
  let (chomp, increment, next) ← scanHeader here.skip
  let next := next.skipBlanks.skipComment
  if !isLineEnd next.head then none
  else do
    let next := if next.rest.isEmpty then next else next.skipLine
    let given := if increment = 0 then 0 else if 0 ≤ outer then outer.toNat + increment else increment
    let (deepest, breaks, next) ← scanBreaks given (next.rest.length + 1) 0 [] next
    scanBlockLines folded chomp (blockIndent given outer deepest) (next.rest.length + 1) [] []
      breaks false next

end StudyDesk.Yaml
