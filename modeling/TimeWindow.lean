import TimeWindow.Main
import TimeWindow.Proofs.Text.Numeral
import TimeWindow.Proofs.Key.Grammar
import TimeWindow.Proofs.Key.RoundTrip
import TimeWindow.Proofs.Key.Spelled
import TimeWindow.Proofs.Failing
import TimeWindow.Proofs.Key.Faithful
import TimeWindow.Proofs.Key.Produced
import TimeWindow.Proofs.Key.Respelled
import TimeWindow.Proofs.Calendar.Gregorian
import TimeWindow.Proofs.Calendar.Carry
import TimeWindow.Proofs.Calendar.Exact
import TimeWindow.Proofs.Calendar.Back
import TimeWindow.Proofs.Resolve.Offset
import TimeWindow.Proofs.Number.Rounding
import TimeWindow.Proofs.Number.Nearest
import TimeWindow.Proofs.Calendar.Season
import TimeWindow.Proofs.Calendar.Instant
import TimeWindow.Proofs.Resolve.WindowLaw
import TimeWindow.Proofs.Resolve.Standstill
import TimeWindow.Proofs.Resolve.Nesting
import TimeWindow.Proofs.Calendar.Northern
import TimeWindow.Proofs.Calendar.Passing
import TimeWindow.Proofs.Calendar.Period
import TimeWindow.Proofs.Calendar.Refusal
import TimeWindow.Proofs.Calendar.Floating
import TimeWindow.Proofs.Resolve.Reference
import TimeWindow.Proofs.Resolve.Snapping
import TimeWindow.Proofs.Resolve.Failure
import TimeWindow.Proofs.Resolve.Rendering
import TimeWindow.Proofs.Calendar.Midnight
import TimeWindow.Proofs.Calendar.View
import TimeWindow.Proofs.Calendar.Stamped
import TimeWindow.Proofs.Resolve.RangeView
import TimeWindow.Proofs.Resolve.FirstInstant
import TimeWindow.Proofs.Resolve.UnitChange
import TimeWindow.Proofs.Phrase.Scanning
import TimeWindow.Proofs.Phrase.Standing
import TimeWindow.Proofs.Phrase.Fault
import TimeWindow.Proofs.Phrase.Reading
import TimeWindow.Proofs.Phrase.Label
import TimeWindow.Proofs.Phrase.Normalizing
import TimeWindow.Proofs.Json.Whole
import TimeWindow.Proofs.Json.Shown
import TimeWindow.Proofs.Json.ReadBack
import TimeWindow.Proofs.Settings
import TimeWindow.Proofs.Completion.Acceptable
import TimeWindow.Proofs.Completion.Asking
import TimeWindow.Proofs.ChatModel.Question
import TimeWindow.Proofs.Completion.PromptInput
import TimeWindow.Proofs.Session.Running
import TimeWindow.Proofs.Session.Snapshot
import TimeWindow.Proofs.Session.Stored
import TimeWindow.Proofs.Console.Command
import TimeWindow.Proofs.Console.Dialogue
import TimeWindow.Proofs.Resolve.Floating
