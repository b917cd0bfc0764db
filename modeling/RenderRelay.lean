import RenderRelay.Access.Secret
import RenderRelay.Access.Session
import RenderRelay.Api.History
import RenderRelay.Api.Message
import RenderRelay.Api.Route
import RenderRelay.Api.Runs
import RenderRelay.Api.Serve
import RenderRelay.Api.Service
import RenderRelay.Api.Workflows
import RenderRelay.Backend.Basic
import RenderRelay.Backend.Body
import RenderRelay.Backend.Client
import RenderRelay.Backend.Pool
import RenderRelay.Bytes.Base64
import RenderRelay.Bytes.Invalid
import RenderRelay.Bytes.Sha256
import RenderRelay.Bytes.Utf8
import RenderRelay.Check.Body
import RenderRelay.Check.Issue
import RenderRelay.Check.Params
import RenderRelay.Check.Value
import RenderRelay.CommandLine.Outcome
import RenderRelay.CommandLine.Switch
import RenderRelay.Entries
import RenderRelay.Failure
import RenderRelay.Fault
import RenderRelay.Fault.Arguments
import RenderRelay.Features
import RenderRelay.Graph.Basic
import RenderRelay.Graph.Inject
import RenderRelay.Graph.Normal
import RenderRelay.Graph.Raw
import RenderRelay.Image.Basic
import RenderRelay.Image.Extract
import RenderRelay.Job.Basic
import RenderRelay.Job.Compile
import RenderRelay.Job.Cycle
import RenderRelay.Job.Fingerprint
import RenderRelay.Job.WidgetTable
import RenderRelay.Job.Widgets
import RenderRelay.Json.Basic
import RenderRelay.Json.Display
import RenderRelay.Json.Printer
import RenderRelay.Json.Reader
import RenderRelay.Log.Context
import RenderRelay.Log.Record
import RenderRelay.Log.Severity
import RenderRelay.Log.Template
import RenderRelay.Log.Timing
import RenderRelay.Main
import RenderRelay.Number.Double
import RenderRelay.Number.Places
import RenderRelay.Number.Read
import RenderRelay.Number.Rounding
import RenderRelay.Number.Shortest
import RenderRelay.Path.Join
import RenderRelay.Path.MediaType
import RenderRelay.Path.Name
import RenderRelay.Path.Place
import RenderRelay.Path.Stored
import RenderRelay.Proofs.Api.Gate
import RenderRelay.Proofs.Api.StatusCall
import RenderRelay.Proofs.Api.WorkflowCall
import RenderRelay.Proofs.Backend.Body
import RenderRelay.Proofs.Bytes.Utf8
import RenderRelay.Proofs.Entries
import RenderRelay.Proofs.Except
import RenderRelay.Proofs.Graph.Canonical
import RenderRelay.Proofs.Graph.Identity
import RenderRelay.Proofs.Graph.Inject
import RenderRelay.Proofs.Graph.Lenient
import RenderRelay.Proofs.Graph.Normal
import RenderRelay.Proofs.Image.First
import RenderRelay.Proofs.Image.Foreign
import RenderRelay.Proofs.Image.Proxy
import RenderRelay.Proofs.Job.Claims
import RenderRelay.Proofs.Job.Cycle
import RenderRelay.Proofs.Job.Declared
import RenderRelay.Proofs.Job.Links
import RenderRelay.Proofs.Job.Local
import RenderRelay.Proofs.Job.Order
import RenderRelay.Proofs.Job.Origin
import RenderRelay.Proofs.Job.PerNode
import RenderRelay.Proofs.Job.Prompt
import RenderRelay.Proofs.Job.Rewritten
import RenderRelay.Proofs.Job.Sampler
import RenderRelay.Proofs.Job.Seeds
import RenderRelay.Proofs.Job.Shifted
import RenderRelay.Proofs.Job.Widgets
import RenderRelay.Proofs.Job.Wire
import RenderRelay.Proofs.Json.Canonical
import RenderRelay.Proofs.Json.Display
import RenderRelay.Proofs.Json.KeyOrder
import RenderRelay.Proofs.Json.Number
import RenderRelay.Proofs.Json.RoundTrip
import RenderRelay.Proofs.Json.Spelled
import RenderRelay.Proofs.Json.Text
import RenderRelay.Proofs.Json.Unambiguous
import RenderRelay.Proofs.Number.Digits
import RenderRelay.Proofs.Number.Integer
import RenderRelay.Proofs.Number.Rounding
import RenderRelay.Proofs.Number.Shortest
import RenderRelay.Proofs.Path.Bare
import RenderRelay.Proofs.Path.Place
import RenderRelay.Proofs.Path.Stored
import RenderRelay.Proofs.Run.BestEffort
import RenderRelay.Proofs.Run.Checkpoint
import RenderRelay.Proofs.Run.Interleaved
import RenderRelay.Proofs.Run.Once
import RenderRelay.Proofs.Run.Poll
import RenderRelay.Proofs.Run.Record
import RenderRelay.Proofs.Run.Repeated
import RenderRelay.Proofs.Run.Replies
import RenderRelay.Proofs.Run.Saved
import RenderRelay.Proofs.Run.Submit
import RenderRelay.Proofs.Run.Transient
import RenderRelay.Proofs.Run.Wait
import RenderRelay.Proofs.Store.Atomic
import RenderRelay.Proofs.Store.Built
import RenderRelay.Proofs.Store.Damaged
import RenderRelay.Proofs.Store.Disk
import RenderRelay.Proofs.Store.History
import RenderRelay.Proofs.Store.ImageNames
import RenderRelay.Proofs.Store.Import
import RenderRelay.Proofs.Store.Ledger
import RenderRelay.Proofs.Store.Leftover
import RenderRelay.Proofs.Store.Replace
import RenderRelay.Proofs.Store.Reread
import RenderRelay.Proofs.Store.Restore
import RenderRelay.Proofs.Store.Served
import RenderRelay.Proofs.Store.Summary
import RenderRelay.Proofs.Store.Workflow
import RenderRelay.Proofs.Store.Workflows
import RenderRelay.Proofs.Text.Blank
import RenderRelay.Proofs.Text.Split
import RenderRelay.Proofs.Time.Exact
import RenderRelay.Proofs.Url.Address
import RenderRelay.Proofs.Url.Form
import RenderRelay.Retry
import RenderRelay.Run.Poll
import RenderRelay.Run.Status
import RenderRelay.Run.Submit
import RenderRelay.Run.Ticket
import RenderRelay.Run.World
import RenderRelay.Settings.Environment
import RenderRelay.Settings.Read
import RenderRelay.Settings.Sections
import RenderRelay.Store.Disk
import RenderRelay.Store.History
import RenderRelay.Store.Record
import RenderRelay.Store.Summary
import RenderRelay.Store.Workflow
import RenderRelay.Store.Workflows
import RenderRelay.Text.Blank
import RenderRelay.Text.Digit
import RenderRelay.Text.Lowercase
import RenderRelay.Text.Printable
import RenderRelay.Text.Quoted
import RenderRelay.Text.Ranges
import RenderRelay.Text.Search
import RenderRelay.Time.Calendar
import RenderRelay.Time.Scale
import RenderRelay.Url.Address
import RenderRelay.Url.Base
import RenderRelay.Url.Form
import RenderRelay.Url.Mask
import RenderRelay.Proofs.Api.BaseUrl
import RenderRelay.Proofs.Number.Order
import RenderRelay.Proofs.Retry.Waits
import RenderRelay.Proofs.Store.Frame
import RenderRelay.Proofs.Url.Mask
