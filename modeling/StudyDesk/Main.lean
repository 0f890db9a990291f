/-
Module: StudyDesk.Main
Purpose: The program on the command line: it reads the environment and files, prints, and exchanges
  lines with a relay.
Main exports:
  main
-/
import StudyDesk.Program.Relay
import StudyDesk.Program.Task

namespace StudyDesk.Main

/-- The system's number for a directory that is read like a file. -/
def directoryCode : UInt32 := 21

/-- What is under the name of a file. -/
def readEntry (name : String) : IO Entry := do
  try
    return .file (← IO.FS.readBinFile name).toList
  catch
    | .inappropriateType _ code _ => return if code = directoryCode then .directory else .missing
    | _ => return .missing

/-- The value of an environment variable. -/
def readVariable (name : String) : IO (Option String) := IO.getEnv name

/-- Values under their names. -/
def collect (read : String → IO α) (names : List String) : IO (List (String × α)) :=
  names.mapM fun name => return (name, ← read name)

/-- Say why nothing is done. -/
def refuse (fault : ProgramFault) : IO UInt32 := do
  match fault with
  | .usage .help => Invocation.usage.forM fun line => IO.println line
  | .usage fault => do
      IO.eprintln ("error: " ++ fault.message)
      Invocation.usage.forM fun line => IO.eprintln line
  | fault => IO.eprintln ("Error: " ++ fault.message)
  return fault.exitStatus.toUInt32

/-- Print what a command says. -/
def report (output : Output) : IO UInt32 := do
  IO.print output.text
  return output.exitStatus.toUInt32

/-- Ask a question over the relay: `more` further exchanges may follow those that are over. -/
def converse (question : Question) (transfers : List Transfer) : (more : Nat) → IO UInt32
  | 0 => report (.ofOutcome (question.attempts (transfers.getD · .silent) none).outcome)
  | more + 1 => do
      match question.standAfter transfers with
      | .done output => report output
      | .next request => do
          if !transfers.isEmpty then IO.sleep question.policy.backoffMs.toUInt32
          IO.eprintln (request.line question.client)
          let line ← (← IO.getStdin).getLine
          converse question (transfers ++ [.ofLine line]) more

/-- Carry out an invocation. -/
def carryOut (invocation : Invocation) : IO UInt32 := do
  match TutorSettings.load invocation (← readEntry invocation.configFile) with
  | .error fault => refuse (.config fault)
  | .ok settings => do
      let key ← IO.getEnv settings.desk.inference.apiKeyEnv
      let entries ← collect readEntry (fixtureNames settings.dataDir)
      let around : Surroundings := ⟨fun _ => key, fun name => (entries.lookup name).getD .missing⟩
      match Task.ofCommand around settings invocation.command with
      | .error fault => refuse fault
      | .ok (.print output) => report output
      | .ok (.ask question) => converse question [] (question.policy.maxAttempts + 1)

end StudyDesk.Main

/-- Read the command line and carry it out. -/
def main (args : List String) : IO UInt32 := do
  let values ← StudyDesk.Main.collect StudyDesk.Main.readVariable StudyDesk.Invocation.variableNames
  match StudyDesk.Invocation.ofArguments (fun name => (values.lookup name).join) args with
  | .error fault => StudyDesk.Main.refuse (.usage fault)
  | .ok invocation => StudyDesk.Main.carryOut invocation
