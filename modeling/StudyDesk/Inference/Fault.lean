/-
Module: StudyDesk.Inference.Fault
Purpose: The ways in which one exchange with the inference service can fail.
Main exports:
  InferenceFault, InferenceFault.message, InferenceFault.isTransient
-/
import StudyDesk.Decimal.Layout

namespace StudyDesk

/-- The failure of one exchange. -/
inductive InferenceFault where
  | timeout
  | authentication (detail : String)
  | rateLimited (detail : String)
  | status (code : Nat) (body : String)
  | transport (detail : String)
  | malformedResponse (detail : String)
  | cancelled
deriving DecidableEq, Repr, Inhabited

namespace InferenceFault

/-- The wording of a failure. -/
def message : InferenceFault → String
  | .timeout => "inference request timed out"
  | .authentication detail => "authentication with the inference service failed: " ++ detail
  | .rateLimited detail => "inference service rate limit exceeded: " ++ detail
  | .status code body =>
      "inference service returned status " ++ String.ofList (Layout.digitsOf code) ++ ": " ++ body
  | .transport detail => "transport error: " ++ detail
  | .malformedResponse detail => "malformed inference response: " ++ detail
  | .cancelled => "inference request cancelled"

/-- Whether asking again could help: the service was slow, busy, unreachable or broken. -/
def isTransient : InferenceFault → Bool
  | .timeout => true
  | .rateLimited _ => true
  | .transport _ => true
  | .status code _ => 500 ≤ code && code ≤ 599
  | _ => false

end InferenceFault

end StudyDesk
