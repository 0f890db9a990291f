/-
Module: StudyDesk.Config.Fault
Purpose: What can be wrong with a configuration or with the files of the program.
Main exports:
  FileFault, ConfigFault, ConfigFault.message
-/
import StudyDesk.Decimal.Layout
import StudyDesk.Url.Host

namespace StudyDesk

/-- Why a file cannot be read as text. -/
inductive FileFault where
  | missing
  | directory
  | notText
deriving DecidableEq, Repr

/-- The wording of a file fault. -/
def FileFault.message : FileFault → String
  | .missing => "No such file or directory (os error 2)"
  | .directory => "Is a directory (os error 21)"
  | .notText => "stream did not contain valid UTF-8"

/-- A setting that the desk cannot run with, or a configuration file that cannot be read. -/
inductive ConfigFault where
  | temperature (value : Floating)
  | maxOutputTokens
  | timeout
  | maxAttempts
  | registryVersion (version : Nat)
  | emptyTerm
  | badAddress (text : String) (fault : UrlFault)
  | badScheme (scheme : String)
  | file (fault : FileFault)
  /-- A configuration file that is no document of the right shape. -/
  | document
deriving DecidableEq, Repr

namespace ConfigFault

/-- What is wrong, without the category. -/
def detail : ConfigFault → String
  | .temperature value =>
      "inference.temperature must be within [0, 2], got " ++
        String.ofList (Layout.message.write .single value)
  | .maxOutputTokens => "inference.max_output_tokens must be positive"
  | .timeout => "inference.timeout_secs must be positive"
  | .maxAttempts => "retry.max_attempts must be at least 1"
  | .registryVersion version =>
      "Unknown topic registry version " ++ String.ofList (Layout.digitsOf version) ++
        " (supported: 1, 2)"
  | .emptyTerm => "Safety deny-list contains an empty term"
  | .badAddress text fault => "Invalid inference base URL '" ++ text ++ "': " ++ fault.message
  | .badScheme scheme => "Inference base URL scheme '" ++ scheme ++ "' is not supported"
  | .file fault => fault.message
  | .document => "Failed to parse the configuration file"

/-- The wording of a fault. -/
def message : ConfigFault → String
  | .file fault => "io error: " ++ fault.message
  | fault => "configuration error: " ++ fault.detail

end ConfigFault

end StudyDesk
