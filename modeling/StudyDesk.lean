import StudyDesk.Answer.Decoding
import StudyDesk.Main
import StudyDesk.Proofs.Json.Members
import StudyDesk.Proofs.Text.Trimming
import StudyDesk.Proofs.Answer.Body
import StudyDesk.Proofs.Answer.Acceptance
import StudyDesk.Proofs.Json.RoundTrip
import StudyDesk.Proofs.Answer.RoundTrip
import StudyDesk.Proofs.Session.Exchange
import StudyDesk.Proofs.Session.Trace
import StudyDesk.Proofs.Session.Attempts
import StudyDesk.Proofs.Text.LowerCase
import StudyDesk.Proofs.Gate.Search
import StudyDesk.Proofs.Gate.Matching
import StudyDesk.Proofs.Gate.Composition
import StudyDesk.Proofs.Session.TurnedAway
import StudyDesk.Proofs.Session.Cancellation
import StudyDesk.Proofs.Session.Steps
import StudyDesk.Proofs.Session.Alone
import StudyDesk.Proofs.Session.Interleaving
import StudyDesk.Proofs.Config.Checking
import StudyDesk.Proofs.Json.Canonical
import StudyDesk.Proofs.Program.Printing
import StudyDesk.Proofs.Inference.Verdict
import StudyDesk.Proofs.Program.Asking
import StudyDesk.Proofs.Gate.Trimming
import StudyDesk.Proofs.Program.Screening
import StudyDesk.Proofs.Answer.Fencing
import StudyDesk.Proofs.Json.Numerals
import StudyDesk.Proofs.Json.Extent
import StudyDesk.Proofs.Json.Skipping
import StudyDesk.Proofs.Answer.OpeningLine
import StudyDesk.Proofs.Record.Agreement
import StudyDesk.Proofs.Record.Fieldwise
import StudyDesk.Proofs.Answer.Decoding
import StudyDesk.Proofs.Url.Paths
import StudyDesk.Proofs.Url.Slashes
import StudyDesk.Proofs.Inference.Joining
import StudyDesk.Proofs.Practice.Fixtures
import StudyDesk.Proofs.Decimal.Rounding
import StudyDesk.Proofs.Decimal.Shortest
import StudyDesk.Proofs.Json.Reals
import StudyDesk.Proofs.Inference.Requesting
import StudyDesk.Proofs.Json.Grammar
import StudyDesk.Proofs.Json.Lexical
import StudyDesk.Proofs.Json.Outline
import StudyDesk.Proofs.Json.Unambiguous
import StudyDesk.Proofs.Record.Spelling
import StudyDesk.Proofs.Record.Stepping
import StudyDesk.Proofs.Record.OneField
import StudyDesk.Proofs.Record.Uniform
import StudyDesk.Proofs.Inference.Envelope
import StudyDesk.Proofs.Practice.TopicSearch
import StudyDesk.Proofs.Arguments.Environment
import StudyDesk.Proofs.Arguments.Spelling
import StudyDesk.Proofs.Config.Overlay
import StudyDesk.Proofs.Text.Order
import StudyDesk.Proofs.Json.Sorted
import StudyDesk.Proofs.Record.Exact
import StudyDesk.Proofs.Record.Canonical
import StudyDesk.Proofs.Practice.PassThrough
import StudyDesk.Proofs.Config.Meaning
import StudyDesk.Proofs.Config.Decoding
import StudyDesk.Proofs.Config.Writing
import StudyDesk.Proofs.Record.Kept
import StudyDesk.Proofs.Answer.Migration
import StudyDesk.Proofs.Arguments.Precedence
import StudyDesk.Proofs.Practice.Scaffolds
