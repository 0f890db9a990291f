/-
Module: StudyDesk.Files
Purpose: What the program finds under the names of files.
Main exports:
  Entry, Entry.text, joinPath
-/
import StudyDesk.Config.Fault
import StudyDesk.Text.Bytes

namespace StudyDesk

/-- What is found under a name. -/
inductive Entry where
  | missing
  | directory
  | file (bytes : List UInt8)
deriving DecidableEq, Repr

namespace Entry

/-- The text of a file. -/
def text : Entry → Except FileFault String
  | .missing => .error .missing
  | .directory => .error .directory
  | .file bytes =>
      match Text.decode? bytes with
      | some s => .ok s
      | none => .error .notText

end Entry

/-- The name of a file in a directory. -/
def joinPath (directory file : String) : String :=
  if directory.isEmpty || directory.endsWith "/" then directory ++ file
  else directory ++ "/" ++ file

end StudyDesk
