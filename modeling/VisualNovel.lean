import VisualNovel.Demo
import VisualNovel.Main
import VisualNovel.Proofs.Run
import VisualNovel.Proofs.Performance.Run
import VisualNovel.Proofs.Performance.Advance
import VisualNovel.Proofs.Performance.Steps
import VisualNovel.Proofs.Performance.ScrolledText
import VisualNovel.Proofs.EventTable.Index
import VisualNovel.Proofs.Session.Run
import VisualNovel.Proofs.Session.Completion
import VisualNovel.Proofs.Integer
import VisualNovel.Proofs.Text.Escape
import VisualNovel.Proofs.Datum.Tokens
import VisualNovel.Proofs.Datum.RoundTrip
import VisualNovel.Proofs.Event.RoundTrip
import VisualNovel.Proofs.EventTable.Progress
import VisualNovel.Proofs.EventTable.Run
import VisualNovel.Proofs.Session.Offers
import VisualNovel.Proofs.History
import VisualNovel.Proofs.Performance.Timeless
import VisualNovel.Proofs.Session.Timeless
import VisualNovel.Proofs.Binary64.Representation
import VisualNovel.Proofs.Binary64.Arithmetic
import VisualNovel.Proofs.Stage.Sampling
import VisualNovel.Proofs.Stage.Ticks
import VisualNovel.Proofs.EventTable.Load
import VisualNovel.Proofs.Performance.DeadLines
import VisualNovel.Proofs.Performance.FreshStart
import VisualNovel.Proofs.Binary64.Fields
import VisualNovel.Proofs.Command.Keywords
import VisualNovel.Proofs.Command.Written
import VisualNovel.Proofs.Command.Classified
import VisualNovel.Proofs.Scroll.Window
import VisualNovel.Proofs.EventTable.Restore
import VisualNovel.Proofs.Session.FailedSave
import VisualNovel.Proofs.Binary64.Ring
import VisualNovel.Proofs.Binary64.Special
import VisualNovel.Proofs.Stage.Run
import VisualNovel.Proofs.Stage.Zoom
import VisualNovel.Proofs.Performance.Halting
import VisualNovel.Proofs.Stage.Company
import VisualNovel.Proofs.Performance.Casting
import VisualNovel.Proofs.Performance.OnePlace
import VisualNovel.Proofs.Stage.Arrival
import VisualNovel.Proofs.Stage.PanRange
import VisualNovel.Proofs.EventTable.Available
import VisualNovel.Proofs.Board.Listing
import VisualNovel.Proofs.Calendar.Marker
import VisualNovel.Proofs.Numeral
import VisualNovel.Proofs.Calendar.Grammar
import VisualNovel.Proofs.Stage.Targets
import VisualNovel.Proofs.Stage.Attendance
import VisualNovel.Proofs.Performance.Expressions
import VisualNovel.Proofs.Datum.Loose
import VisualNovel.Proofs.Event.CorruptRows
import VisualNovel.Proofs.Session.Sources
import VisualNovel.Proofs.Demo.FailedCalls
import VisualNovel.Proofs.Player.Clock
import VisualNovel.Proofs.Player.Settle
import VisualNovel.Proofs.Event.SlotList
import VisualNovel.Proofs.Calendar.Date
