import Colloquy.Main
import Colloquy.Json.Printer
import Colloquy.Tree.Edit
import Colloquy.Proofs.Tree.Passage
import Colloquy.Proofs.Tree.Clean
import Colloquy.Proofs.Tree.Pruned
import Colloquy.Proofs.Script.Record
import Colloquy.Proofs.Script.FreeName
import Colloquy.Proofs.Script.Outcome
import Colloquy.Proofs.Script.Possession
import Colloquy.Proofs.Session.Onward
import Colloquy.Proofs.Session.Run
import Colloquy.Proofs.Session.Standing
import Colloquy.Proofs.Session.Stuck
import Colloquy.Proofs.Session.Trail
import Colloquy.Proofs.Session.Replay
import Colloquy.Proofs.Session.Alike
import Colloquy.Proofs.Session.Coherence
import Colloquy.Proofs.Preview.Lines
import Colloquy.Proofs.Preview.Variables
import Colloquy.Proofs.Command.Reading
import Colloquy.Proofs.Preview.Reply
import Colloquy.Proofs.Number.Reading
import Colloquy.Proofs.Failure
import Colloquy.Proofs.Script.Reading
import Colloquy.Proofs.Tree.Advice
import Colloquy.Proofs.Document.Laws
import Colloquy.Proofs.Document.Standard
import Colloquy.Proofs.Document.Breakdown
import Colloquy.Proofs.Document.LoadError
import Colloquy.Proofs.Number.Written
import Colloquy.Proofs.Script.Comparison
import Colloquy.Proofs.Number.Rounding
import Colloquy.Proofs.Preview.Answer
import Colloquy.Proofs.Session.Settled
import Colloquy.Proofs.Tree.Built
import Colloquy.Proofs.Success
import Colloquy.Proofs.Script.Lines
import Colloquy.Proofs.Script.Kept
import Colloquy.Proofs.Tree.Forecast
import Colloquy.Proofs.Json.Lookup
import Colloquy.Proofs.Roster
import Colloquy.Proofs.Document.Items
import Colloquy.Proofs.Document.Entries
import Colloquy.Proofs.Json.Kept
import Colloquy.Proofs.Json.Written
import Colloquy.Proofs.Document.Merge
import Colloquy.Proofs.Document.RoundTrip
import Colloquy.Proofs.Document.Shapes
import Colloquy.Proofs.Number.Share
import Colloquy.Proofs.Session.Departure
import Colloquy.Proofs.Session.Staging
import Colloquy.Proofs.Session.Progress
import Colloquy.Proofs.Session.Closing
import Colloquy.Proofs.Json.Rewrite
import Colloquy.Proofs.Document.Readings
import Colloquy.Proofs.Document.Rewritten
import Colloquy.Proofs.Script.Grammar
import Colloquy.Proofs.Script.Numeral
import Colloquy.Proofs.Script.ConditionForms
import Colloquy.Proofs.Script.StatementForms
import Colloquy.Proofs.Script.RecordSeries
import Colloquy.Proofs.Tree.Reports
import Colloquy.Proofs.Session.Unvisited
import Colloquy.Proofs.Tree.Branches
import Colloquy.Proofs.Session.Branching
import Colloquy.Proofs.Preview.Speakers
import Colloquy.Proofs.Preview.Picking
import Colloquy.Proofs.Script.Health
import Colloquy.Proofs.Number.Place
import Colloquy.Proofs.Script.Values
import Colloquy.Proofs.Script.Ordered
import Colloquy.Proofs.Number.Exact
import Colloquy.Proofs.Script.NumericText
import Colloquy.Proofs.Session.Entry
import Colloquy.Proofs.Preview.Assignment
import Colloquy.Proofs.Script.Layout
import Colloquy.Proofs.Script.Search
