import Framecast.Capture.Channel
import Framecast.Capture.Frame
import Framecast.Capture.Source
import Framecast.Container.Basic
import Framecast.Container.Drain
import Framecast.Container.Memory
import Framecast.Container.Publish
import Framecast.Decimal.Binary
import Framecast.Decimal.Numeral
import Framecast.Device.Basic
import Framecast.Device.Context
import Framecast.Encoder.Basic
import Framecast.Encoder.Bound
import Framecast.Encoder.Plan
import Framecast.Engine.Basic
import Framecast.Engine.CaptureLoop
import Framecast.Engine.Launcher
import Framecast.Engine.Metrics
import Framecast.Engine.Pipeline
import Framecast.Engine.Run
import Framecast.Fault
import Framecast.Journal
import Framecast.Json.Basic
import Framecast.Json.Parser
import Framecast.Json.Printer
import Framecast.Json.Reading
import Framecast.Log.Line
import Framecast.Message.Basic
import Framecast.Message.Config
import Framecast.Message.Document
import Framecast.Message.Phase
import Framecast.Message.Rate
import Framecast.Overflow
import Framecast.Proofs.Calls
import Framecast.Proofs.Capture.Channel
import Framecast.Proofs.Capture.Rows
import Framecast.Proofs.Container.Handles
import Framecast.Proofs.Container.Memory
import Framecast.Proofs.Decimal.Numeral
import Framecast.Proofs.Drain.Climb
import Framecast.Proofs.Drain.Degenerate
import Framecast.Proofs.Drain.Delivery
import Framecast.Proofs.Drain.Drift
import Framecast.Proofs.Drain.Pulled
import Framecast.Proofs.Drain.Stamp
import Framecast.Proofs.Drain.Timely
import Framecast.Proofs.Encoder.Bound
import Framecast.Proofs.Encoder.Dialogue
import Framecast.Proofs.Encoder.Plan
import Framecast.Proofs.Engine.Acts
import Framecast.Proofs.Engine.Afresh
import Framecast.Proofs.Engine.Alike
import Framecast.Proofs.Engine.Counters
import Framecast.Proofs.Engine.Course
import Framecast.Proofs.Engine.Figures
import Framecast.Proofs.Engine.LiveSession
import Framecast.Proofs.Engine.Lives
import Framecast.Proofs.Engine.Outputs
import Framecast.Proofs.Engine.Quiet
import Framecast.Proofs.Engine.Reporting
import Framecast.Proofs.Engine.Rest
import Framecast.Proofs.Engine.Rows
import Framecast.Proofs.Engine.Starts
import Framecast.Proofs.Engine.Told
import Framecast.Proofs.Engine.Trail
import Framecast.Proofs.Engine.Turned
import Framecast.Proofs.Engine.Unlaunched
import Framecast.Proofs.Engine.Unnoticed
import Framecast.Proofs.Engine.Verdict
import Framecast.Proofs.Json.Reading
import Framecast.Proofs.Json.Rendering
import Framecast.Proofs.Json.Spelling
import Framecast.Proofs.Message.Document
import Framecast.Proofs.Message.Members
import Framecast.Proofs.Session.Accounts
import Framecast.Proofs.Session.Custody
import Framecast.Proofs.Session.Dialogue
import Framecast.Proofs.Session.Finished
import Framecast.Proofs.Session.Geometry
import Framecast.Proofs.Session.Moments
import Framecast.Proofs.Session.Order
import Framecast.Proofs.Session.Output
import Framecast.Proofs.Session.Phases
import Framecast.Proofs.Session.Punctual
import Framecast.Proofs.Session.Range
import Framecast.Proofs.Session.Refused
import Framecast.Proofs.Session.Run
import Framecast.Proofs.Session.Sample
import Framecast.Proofs.Session.Shutdown
import Framecast.Proofs.Session.Started
import Framecast.Proofs.Session.Submitted
import Framecast.Proofs.Session.Terminated
import Framecast.Proofs.Session.Timestamps
import Framecast.Proofs.Tidings
import Framecast.Proofs.Time.Nearest
import Framecast.Proofs.Time.Rational
import Framecast.Proofs.Time.Rescaling
import Framecast.Proofs.Time.Ticks
import Framecast.Proofs.Time.Wide
import Framecast.Script.Cast
import Framecast.Script.Container
import Framecast.Script.Encoder
import Framecast.Script.Field
import Framecast.Script.Pipeline
import Framecast.Script.Rehearsal
import Framecast.Script.Source
import Framecast.Script.Transcript
import Framecast.Session.Basic
import Framecast.Session.Error
import Framecast.Session.Finish
import Framecast.Session.Start
import Framecast.Text.Blank
import Framecast.Text.Quoted
import Framecast.Text.Unprintable
import Framecast.Time.Duration
import Framecast.Time.Rational
