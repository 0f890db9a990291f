/-
Module: StudyDesk.Config.Loading
Purpose: Settings from a configuration file.
Main exports:
  Settings.load, TutorSettings.load
-/
import StudyDesk.Config.Settings
import StudyDesk.Files
import StudyDesk.Invocation

namespace StudyDesk

/-- The settings that a configuration file spells, read with `read?`. -/
def Entry.document (read? : List Char → Option α) (entry : Entry) : Except ConfigFault α :=
  match entry.text with
  | .error fault => .error (.file fault)
  | .ok s =>
      match read? s.toList with
      | some settings => .ok settings
      | none => .error .document

/-- The settings of the desk from a configuration file, which must be there; checked. -/
def Settings.load (entry : Entry) : Except ConfigFault Settings := do
  let settings ← entry.document Settings.ofDocument?
  settings.check
  .ok settings

/-- The settings of the program from a configuration file, which may be missing, and from the command
line, whose word is the last; checked. -/
def TutorSettings.load (invocation : Invocation) (entry : Entry) :
    Except ConfigFault TutorSettings := do
  let base ←
    match entry with
    | .missing => .ok TutorSettings.standard
    | entry => entry.document TutorSettings.ofDocument?
  let settings := invocation.override base
  settings.desk.check
  .ok settings

end StudyDesk
