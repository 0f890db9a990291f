/-
Module: StudyDesk.Inference.Endpoint
Purpose: The address to which completions are posted.
Main exports:
  Endpoint.ofBase
-/
import StudyDesk.Config.Fault
import StudyDesk.Url.Parser

namespace StudyDesk.Endpoint

/-- The path of completions below the base. -/
def completionsPath : List Char := "/chat/completions".toList

/-- A path without the slashes at its end. -/
def withoutTrailingSlashes (path : List Char) : List Char :=
  (path.reverse.dropWhile (· = '/')).reverse

/-- An address with another path, brought into normal form. -/
def withPath (url : Url) (path : List Char) : Url :=
  { url with path := Url.normalizePath path }

/-- The address below the base of a web service; everything but the path stays. -/
def ofUrl (base : Url) : Url :=
  withPath base (withoutTrailingSlashes base.path ++ completionsPath)

/-- The address below the base that a text spells. -/
def ofBase (naming : Naming) (base : String) : Except ConfigFault Url :=
  match Url.parse naming base.toList with
  | .error fault => .error (.badAddress base fault)
  | .ok (.foreign scheme) => .error (.badScheme scheme)
  | .ok (.web url) => .ok (ofUrl url)

end StudyDesk.Endpoint
