import Enrollment.Audit.Form
import Enrollment.Config.Environment
import Enrollment.Config.Form
import Enrollment.Course.Form
import Enrollment.Registrar.Plan
import Enrollment.Registrar.Request
import Enrollment.Sequence.CappedList
import Enrollment.Sequence.Stack
import Enrollment.Sequence.SwapList
import Enrollment.Proofs.Sequence.Lawful
import Enrollment.Proofs.Sequence.Chain
import Enrollment.Proofs.Sequence.SlotList
import Enrollment.Proofs.Run
import Enrollment.Proofs.Sequence.ChainList
import Enrollment.Proofs.Sequence.Agreement
import Enrollment.Proofs.Sequence.Guarded
import Enrollment.Proofs.Sequence.Growth
import Enrollment.Proofs.Answers
import Enrollment.Proofs.Sequence.Storing
import Enrollment.Proofs.Roster.Moves
import Enrollment.Proofs.Roster.Invariant
import Enrollment.Proofs.Roster.Steps
import Enrollment.Proofs.Roster.Placing
import Enrollment.Proofs.Roster.Releasing
import Enrollment.Proofs.Schedule
import Enrollment.Proofs.Students
import Enrollment.Proofs.Students.Attaching
import Enrollment.Proofs.Sequence.SortedList
import Enrollment.Proofs.Sequence.Sorting
import Enrollment.Proofs.Sequence.Queue
import Enrollment.Proofs.Sequence.QueueHistory
import Enrollment.Proofs.Sequence.Stack
import Enrollment.Proofs.Sequence.StackHistory
import Enrollment.Proofs.Sequence.SwapList
import Enrollment.Proofs.Registrar.View
import Enrollment.Proofs.Registrar.Changes
import Enrollment.Proofs.Registrar.Moves
import Enrollment.Proofs.Registrar.Calls
import Enrollment.Proofs.Registrar.Events
import Enrollment.Proofs.Registrar.Requests
import Enrollment.Proofs.Registrar.Atomicity
import Enrollment.Proofs.Registrar.Ledger
import Enrollment.Proofs.Registrar.Seats
import Enrollment.Proofs.Roster.Decision
import Enrollment.Proofs.Roster.History
import Enrollment.Proofs.Roster.Saturation
import Enrollment.Proofs.Sequence.ChainHistory
import Enrollment.Proofs.Registrar.Catalog
import Enrollment.Proofs.Audit
import Enrollment.Proofs.Registrar.Filing
import Enrollment.Proofs.Texts
import Enrollment.Proofs.Registrar.Trail
import Enrollment.Proofs.Registrar.Promotions
import Enrollment.Proofs.Mirror
import Enrollment.Proofs.Local
import Enrollment.Proofs.Roster.Storages
import Enrollment.Proofs.Roster.Telling
import Enrollment.Proofs.Roster.Reporting
import Enrollment.Proofs.Meeting
import Enrollment.Proofs.Meeting.Reading
import Enrollment.Proofs.Meeting.Letters
import Enrollment.Proofs.Meeting.Conflict
import Enrollment.Proofs.Meeting.Mask
import Enrollment.Proofs.Schedule.History
import Enrollment.Proofs.Schedule.Adding
import Enrollment.Proofs.Course
import Enrollment.Proofs.Credits
import Enrollment.Proofs.Students.Ceiling
import Enrollment.Proofs.Json.Tokens
import Enrollment.Proofs.Json.Document
import Enrollment.Proofs.Json.Record
import Enrollment.Proofs.Forms
import Enrollment.Proofs.Registrar.Admission
import Enrollment.Proofs.Registrar.Credits
import Enrollment.Proofs.Registrar.Calm
import Enrollment.Proofs.Registrar.Commuting
import Enrollment.Proofs.Configurations
import Enrollment.Proofs.Numbers
import Enrollment.Proofs.SettingsFile
import Enrollment.Proofs.Environment
import Enrollment.Proofs.Registrar.Building
import Enrollment.Proofs.Registrar.Enrolling
import Enrollment.Proofs.Registrar.Dropping
import Enrollment.Proofs.Registrar.Undoing
import Enrollment.Proofs.Registrar.Removing
import Enrollment.Proofs.Registrar.Beside
import Enrollment.Proofs.Registrar.Resetting
