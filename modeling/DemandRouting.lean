import DemandRouting.Assoc
import DemandRouting.CommandLine
import DemandRouting.Draws.ChaCha
import DemandRouting.Draws.Generator
import DemandRouting.Draws.Sample
import DemandRouting.Draws.Stream
import DemandRouting.Json.Codec
import DemandRouting.Json.Printer
import DemandRouting.Json.Reader
import DemandRouting.Json.Shape
import DemandRouting.Json.Value
import DemandRouting.Main
import DemandRouting.Money.Basic
import DemandRouting.Money.Double
import DemandRouting.Money.Text
import DemandRouting.Number.Binary
import DemandRouting.Number.Power
import DemandRouting.Number.Shortest
import DemandRouting.OpenRtb.Codec
import DemandRouting.OpenRtb.Request
import DemandRouting.Opportunity.Basic
import DemandRouting.Opportunity.Classify
import DemandRouting.Opportunity.Codec
import DemandRouting.Opportunity.Consent
import DemandRouting.Opportunity.Device
import DemandRouting.Opportunity.Identity
import DemandRouting.Opportunity.Ids
import DemandRouting.Opportunity.Inventory
import DemandRouting.Opportunity.Page
import DemandRouting.Performance.Blend
import DemandRouting.Performance.Counters
import DemandRouting.Performance.Ledger
import DemandRouting.Performance.Outcome
import DemandRouting.Performance.Percentile
import DemandRouting.Performance.Snapshot
import DemandRouting.Proofs.Draws.Sample
import DemandRouting.Proofs.Json.Overlay
import DemandRouting.Proofs.Json.Proper
import DemandRouting.Proofs.Json.Shape
import DemandRouting.Proofs.Lists
import DemandRouting.Proofs.Money.Sum
import DemandRouting.Proofs.Number.Exact
import DemandRouting.Proofs.Number.Finite
import DemandRouting.Proofs.Number.Order
import DemandRouting.Proofs.Number.Quotient
import DemandRouting.Proofs.Number.Rank
import DemandRouting.Proofs.Number.Rounding
import DemandRouting.Proofs.Number.Sign
import DemandRouting.Proofs.OpenRtb.RoundTrip
import DemandRouting.Proofs.Opportunity.Consent
import DemandRouting.Proofs.Opportunity.FreshIds
import DemandRouting.Proofs.Opportunity.Identity
import DemandRouting.Proofs.Opportunity.WellFormed
import DemandRouting.Proofs.Performance.Buckets
import DemandRouting.Proofs.Performance.Headroom
import DemandRouting.Proofs.Performance.History
import DemandRouting.Proofs.Performance.Latencies
import DemandRouting.Proofs.Performance.Percentile
import DemandRouting.Proofs.Performance.Revenue
import DemandRouting.Proofs.Performance.RollUp
import DemandRouting.Proofs.Performance.Settlement
import DemandRouting.Proofs.Performance.Tally
import DemandRouting.Proofs.Performance.Trimming
import DemandRouting.Proofs.Performance.Window
import DemandRouting.Proofs.Rehearsal
import DemandRouting.Proofs.Routing.Overlay
import DemandRouting.Proofs.Scoring.Agreement
import DemandRouting.Proofs.Scoring.Range
import DemandRouting.Proofs.Selection.Anchors
import DemandRouting.Proofs.Selection.Completeness
import DemandRouting.Proofs.Selection.Draws
import DemandRouting.Proofs.Selection.Growth
import DemandRouting.Proofs.Selection.Improvement
import DemandRouting.Proofs.Selection.Partition
import DemandRouting.Proofs.Selection.Ranking
import DemandRouting.Proofs.Selection.Reasons
import DemandRouting.Proofs.Selection.Reordering
import DemandRouting.Proofs.Selection.Repeats
import DemandRouting.Proofs.Selection.Shadow
import DemandRouting.Proofs.Selection.Truncation
import DemandRouting.Proofs.Slice.Broadening
import DemandRouting.Proofs.Slice.Naming
import DemandRouting.Proofs.Sources.Broadest
import DemandRouting.Proofs.Sources.Cancellation
import DemandRouting.Proofs.Sources.Degradation
import DemandRouting.Proofs.Sources.Freshness
import DemandRouting.Proofs.Sources.Levels
import DemandRouting.Proofs.Text.Blank
import DemandRouting.Proofs.Url.Form
import DemandRouting.Rehearsal
import DemandRouting.Remote.Client
import DemandRouting.Remote.Status
import DemandRouting.Routing.Router
import DemandRouting.Routing.Settings
import DemandRouting.Scoring.Component
import DemandRouting.Scoring.Scorer
import DemandRouting.Scoring.Settings
import DemandRouting.Scoring.Weights
import DemandRouting.Selection.Anchors
import DemandRouting.Selection.Basic
import DemandRouting.Selection.Categories
import DemandRouting.Selection.Choice
import DemandRouting.Selection.Settings
import DemandRouting.Slice
import DemandRouting.Sources.Cache
import DemandRouting.Sources.Fault
import DemandRouting.Sources.Gather
import DemandRouting.Sources.Reading
import DemandRouting.Sources.Recorded
import DemandRouting.Table
import DemandRouting.Text.Blank
import DemandRouting.Text.Combining
import DemandRouting.Text.Composition
import DemandRouting.Text.Digest
import DemandRouting.Text.Direction
import DemandRouting.Text.Joining
import DemandRouting.Text.Ranges
import DemandRouting.Time.Calendar
import DemandRouting.Time.Rfc3339
import DemandRouting.Time.Timestamp
import DemandRouting.Url.Address
import DemandRouting.Url.Basic
import DemandRouting.Url.Domain
import DemandRouting.Url.Folding
import DemandRouting.Url.Label
import DemandRouting.Url.Parse
import DemandRouting.Url.Path
import DemandRouting.Url.Percent
import DemandRouting.Url.Punycode
