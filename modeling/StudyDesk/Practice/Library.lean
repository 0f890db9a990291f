/-
Module: StudyDesk.Practice.Library
Purpose: The practice problems of a data directory.
Main exports:
  Fixtures, LibraryFault, Library, Library.ofFixtures
-/
import StudyDesk.Files
import StudyDesk.Practice.Problem
import StudyDesk.Text.Case

namespace StudyDesk

/-!
Three files make a library.  The list of problems must be there and be right.  The full records and
the scaffolds may be missing; a file of records that is no object has none, a record that is wrong
hides only itself, and a file of scaffolds with anything wrong in it has none.
-/

/-- What is found in a data directory. -/
structure Fixtures where
  /-- Whether there is a directory at all. -/
  present : Bool
  brief : Entry
  detailed : Entry
  scaffolds : Entry

/-- Why a library cannot be opened. -/
inductive LibraryFault where
  | noDirectory (directory : String)
  | unreadable (file : String) (fault : FileFault)
  | malformed (file : String) (message : String)
deriving DecidableEq, Repr

/-- The wording of a fault. -/
def LibraryFault.message : LibraryFault → String
  | .noDirectory directory => "practice data directory not found: " ++ directory
  | .unreadable file fault => "failed to read " ++ file ++ ": " ++ fault.message
  | .malformed file message => "failed to parse " ++ file ++ ": " ++ message

/-- Scaffolds by problem and language. -/
abbrev Scaffolds := List (String × List (String × String))

/-- The practice problems. -/
structure Library where
  directory : String
  summaries : List Summary
  /-- The records that are right, under their identifiers; the last of an identifier counts. -/
  details : List (String × Detail)
  scaffolds : Scaffolds

namespace Library

/-- The file of the problem list. -/
def briefFile : String := "problems_brief.json"

/-- The file of the full records. -/
def detailedFile : String := "problems_detailed.json"

/-- The file of the scaffolds. -/
def scaffoldFile : String := "problems_gold_code.json"

/-- What stands last under a key. -/
def lookupLast (key : String) (entries : List (String × α)) : Option α :=
  entries.reverse.lookup key

/-- The data of a file of a shape. -/
def readFile (shape : Shape) (file : String) (entry : Entry) :
    Except LibraryFault shape.Value :=
  match entry.text with
  | .error fault => .error (.unreadable file fault)
  | .ok s =>
      match shape.readAll s.toList with
      | .ok value => .ok value
      | .error failure => .error (.malformed file (failure.message s.toList))

/-- The shape of the problem list. -/
def briefShape : Shape := .list Summary.shape

/-- The shape of the file of records, whose values are looked at one by one. -/
def detailedShape : Shape := .table .anything

/-- The shape of the file of scaffolds. -/
def scaffoldShape : Shape := .table (.table .text)

/-- Members of which only the last of each name is left. -/
def lastOfEach (entries : List (String × α)) : List (String × α) :=
  match entries with
  | [] => []
  | (key, value) :: rest =>
      if (rest.lookup key).isSome then lastOfEach rest else (key, value) :: lastOfEach rest

/-- The records that are right. -/
def rightDetails (entries : List (String × Json)) : List (String × Detail) :=
  (lastOfEach entries).filterMap fun entry =>
    (Detail.ofJson entry.2).toOption.map (entry.1, ·)

/-- The data of a file, or none of it if anything is wrong. -/
def optionalEntries (result : Except LibraryFault (List (String × α))) : List (String × α) :=
  match result with
  | .ok entries => entries
  | .error _ => []

/-- Open the library of a directory. -/
def ofFixtures (directory : String) (fixtures : Fixtures) : Except LibraryFault Library :=
  if !fixtures.present then .error (.noDirectory directory)
  else do
    let parts ← readFile briefShape (joinPath directory briefFile) fixtures.brief
    let details := optionalEntries (α := Json)
      (readFile detailedShape (joinPath directory detailedFile) fixtures.detailed)
    let scaffolds := optionalEntries (α := List (String × String))
      (readFile scaffoldShape (joinPath directory scaffoldFile) fixtures.scaffolds)
    .ok ⟨directory, List.map Summary.ofParts parts, rightDetails details, scaffolds⟩

/-- The record of a problem. -/
def detail? (library : Library) (id : String) : Option Detail :=
  lookupLast id library.details

/-- The scaffold of a problem in a language. -/
def scaffold? (library : Library) (id language : String) : Option String := do
  lookupLast language (← lookupLast id library.scaffolds)

/-- Put a text in its place among sorted ones, unless it is there. -/
def insertSorted (s : String) : List String → List String
  | [] => [s]
  | t :: rest =>
      if s = t then t :: rest
      else if Text.before s t then s :: t :: rest
      else t :: insertSorted s rest

/-- The languages in which there is a scaffold of a problem, in byte order. -/
def languages (library : Library) (id : String) : List String :=
  ((lookupLast id library.scaffolds).getD []).foldr (fun entry => insertSorted entry.1) []

/-- Whether a text occurs in another. -/
def occursIn (needle text : List Char) : Bool :=
  match text with
  | [] => needle.isEmpty
  | c :: rest => needle.isPrefixOf (c :: rest) || occursIn needle rest

/-- The problems whose topic contains a text, without regard to case. -/
def withTopic (library : Library) (needle : String) : List Summary :=
  library.summaries.filter fun s =>
    occursIn (Text.lowerChars needle.toList) (Text.lowerChars s.topic.toList)

end Library

end StudyDesk
