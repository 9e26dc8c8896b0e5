import Recurrence.Calendar.Span
import Recurrence.Phrase.Basic
import Recurrence.Rule.Validity
import Recurrence.Rule.Description
import Recurrence.Series.Expansion
import Recurrence.Settings.File
import Recurrence.Journal
import Recurrence.Store.Series
import Recurrence.Store.File
import Recurrence.CommandLine.Call
import Recurrence.Main
import Recurrence.Proofs.Calendar.Clock
import Recurrence.Proofs.Override.Lookup
import Recurrence.Proofs.Calendar.DayRange
import Recurrence.Proofs.Series.Listing
import Recurrence.Proofs.Text.Cut
import Recurrence.Proofs.Text.Numeral
import Recurrence.Proofs.DateText.Compact
import Recurrence.Proofs.Rule.RoundTrip
import Recurrence.Proofs.DateText.Digits
import Recurrence.Proofs.Store.Run
import Recurrence.Proofs.Store.StoredMoment
import Recurrence.Proofs.Store.Writes
import Recurrence.Proofs.Store.Calls
import Recurrence.Proofs.Fault
import Recurrence.Proofs.Store.Soundness
import Recurrence.Proofs.Rule.Validity
import Recurrence.Proofs.Store.Outcome
import Recurrence.Proofs.Series.Window
import Recurrence.Proofs.Store.Storage
import Recurrence.Proofs.Store.Split
import Recurrence.Proofs.Store.Nesting
import Recurrence.Proofs.Store.Overriding
import Recurrence.Proofs.Store.StandIn
import Recurrence.Proofs.Store.Attached
import Recurrence.Proofs.Series.Truncation
import Recurrence.Proofs.Store.Legible
import Recurrence.Proofs.Store.Ending
import Recurrence.Proofs.Calendar.Stepping
import Recurrence.Proofs.Series.Presence
import Recurrence.Proofs.Series.Rebasing
import Recurrence.Proofs.Store.OnDay
import Recurrence.Proofs.Store.Continuing
import Recurrence.Proofs.Store.Dangling
import Recurrence.Proofs.DateText.Ordering
import Recurrence.Proofs.Store.Unlooped
import Recurrence.Proofs.Store.Telling
import Recurrence.Proofs.Store.Editing
import Recurrence.Proofs.Store.Written
import Recurrence.Proofs.Store.Readback
import Recurrence.Proofs.Series.Ceiling
import Recurrence.Proofs.Store.Fetching
import Recurrence.Proofs.Store.Agreement
import Recurrence.Proofs.Pattern.Captured
import Recurrence.Proofs.Phrase.Numeral
import Recurrence.Proofs.Series.Staying
import Recurrence.Proofs.Phrase.Recognition
import Recurrence.Proofs.Document.Quoted
import Recurrence.Proofs.Document.Lines
import Recurrence.Proofs.Settings.Readback
import Recurrence.Proofs.Document.Kept
import Recurrence.Proofs.Settings.Reloading
import Recurrence.Proofs.Store.Subtree
import Recurrence.Proofs.Store.Restoring
import Recurrence.Proofs.Series.SingleDay
import Recurrence.Proofs.Store.DayChange
import Recurrence.Proofs.Store.SingleDay
import Recurrence.Proofs.Pattern.First
import Recurrence.Proofs.Pattern.Outline
import Recurrence.Proofs.Rule.Canonical
import Recurrence.Proofs.Store.Atomic
import Recurrence.Proofs.Phrase.Described
import Recurrence.Proofs.Series.Leading
import Recurrence.Proofs.Place.Disk
import Recurrence.Proofs.Terminal.Markup
import Recurrence.Proofs.Place.Journal
import Recurrence.Proofs.CommandLine.Activity
import Recurrence.Proofs.CommandLine.Request
import Recurrence.Proofs.CommandLine.Opening
import Recurrence.Proofs.CommandLine.Adding
import Recurrence.Proofs.Store.Forward
import Recurrence.Proofs.CommandLine.Storing
import Recurrence.Proofs.CommandLine.Forward
import Recurrence.Proofs.Series.Rewording
import Recurrence.Proofs.Series.Loosening
import Recurrence.Proofs.Series.WeekBlock
import Recurrence.Proofs.Rule.Order
import Recurrence.Proofs.Override.Changes
import Recurrence.Proofs.Series.EndDay
import Recurrence.Proofs.Rule.Unusable
import Recurrence.Proofs.Pattern.Only
import Recurrence.Proofs.Phrase.Times
import Recurrence.Proofs.Series.Cycle
import Recurrence.Proofs.Store.DayKey
import Recurrence.Proofs.Text.Caseless
import Recurrence.Proofs.Phrase.Token
import Recurrence.Proofs.Phrase.Worth
import Recurrence.Proofs.Pattern.Padding
import Recurrence.Proofs.Phrase.Padding
import Recurrence.Proofs.Calendar.WholeMinutes
