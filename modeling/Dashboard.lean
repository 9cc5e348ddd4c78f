import Dashboard.Main
import Dashboard.Net.Endpoint
import Dashboard.Proofs.Hub.View
import Dashboard.Web.Server
import Dashboard.Proofs.Hub.FanOut
import Dashboard.Proofs.RateLimit.Independence
import Dashboard.Proofs.Cache.Lookup
import Dashboard.Proofs.Web.WidgetName
import Dashboard.Proofs.Web.DataEffect
import Dashboard.Proofs.Web.WidgetStore
import Dashboard.Proofs.Hub.Submission
import Dashboard.Proofs.Hub.Protocol
import Dashboard.Proofs.Hub.Order
import Dashboard.Proofs.Hub.Closing
import Dashboard.Proofs.Hub.Stopping
import Dashboard.Proofs.Hub.Sequential
import Dashboard.Proofs.RateLimit.Window
import Dashboard.Proofs.Cache.Ledger
import Dashboard.Proofs.Hub.Lifecycle
import Dashboard.Proofs.Hub.Arrival
import Dashboard.Proofs.Json.RoundTrip
import Dashboard.Proofs.Event.RoundTrip
import Dashboard.Proofs.Hub.Counting
import Dashboard.Proofs.Hub.Standing
import Dashboard.Proofs.Live.Progress
import Dashboard.Proofs.Live.Visit
import Dashboard.Proofs.Live.Bridge
import Dashboard.Proofs.Web.ChangeEffect
import Dashboard.Proofs.Web.ChangeReports
import Dashboard.Proofs.Web.ChangeDelivery
import Dashboard.Proofs.Web.Rejection
import Dashboard.Proofs.Web.Accounting
import Dashboard.Proofs.Files.Writing
import Dashboard.Proofs.Text.Utf8
import Dashboard.Proofs.Config.Publication
import Dashboard.Proofs.Decimal.Special
import Dashboard.Proofs.Toml.Quoted
import Dashboard.Proofs.Toml.Scalar
import Dashboard.Proofs.Toml.Float
import Dashboard.Proofs.Toml.Document
import Dashboard.Proofs.Config.RoundTrip
import Dashboard.Proofs.Metrics.Window
import Dashboard.Proofs.Metrics.Reports
import Dashboard.Proofs.CommandLine.Switches
import Dashboard.Proofs.Log.Arguments
import Dashboard.Proofs.Background.Lifetime
import Dashboard.Proofs.RateLimit.Readmission
import Dashboard.Proofs.RateLimit.Thinning
import Dashboard.Proofs.RateLimit.Sweeping
import Dashboard.Proofs.Live.Silence
import Dashboard.Proofs.Json.Decode
import Dashboard.Proofs.Event.Schema
import Dashboard.Proofs.Json.Skipping
import Dashboard.Proofs.Json.Record
import Dashboard.Proofs.Event.Wire
import Dashboard.Proofs.Cache.Conservation
import Dashboard.Proofs.Cache.Lifespan
import Dashboard.Proofs.Hub.Enumeration
import Dashboard.Proofs.Net.Spelling
import Dashboard.Proofs.Net.Canonical
import Dashboard.Proofs.RateLimit.Origin
import Dashboard.Proofs.Text.Words
import Dashboard.Proofs.Text.Wrap
import Dashboard.Proofs.Log.Colour
import Dashboard.Proofs.Toml.Reading
import Dashboard.Proofs.Config.Choice
import Dashboard.Proofs.Config.Overlay
import Dashboard.Proofs.Background.Course
