import SeriesQuery.Cell.Access
import SeriesQuery.Execution
import SeriesQuery.Instant
import SeriesQuery.Main
import SeriesQuery.Proofs.Builder.Call
import SeriesQuery.Proofs.Text.Utf8
import SeriesQuery.Proofs.Builder.Operation
import SeriesQuery.Proofs.Builder.Session
import SeriesQuery.Proofs.Builder.Log
import SeriesQuery.Proofs.Builder.Representation
import SeriesQuery.Proofs.Builder.Freeze
import SeriesQuery.Proofs.Json.Lexical
import SeriesQuery.Proofs.Json.Brackets
import SeriesQuery.Proofs.Json.Tree
import SeriesQuery.Proofs.Cell.Json
import SeriesQuery.Proofs.Query.Body
import SeriesQuery.Proofs.Placeholder.Scan
import SeriesQuery.Proofs.Placeholder.Join
import SeriesQuery.Proofs.Cell.Text
import SeriesQuery.Proofs.Result.Text
import SeriesQuery.Proofs.CommandLine.Output
import SeriesQuery.Proofs.Params.Entry
import SeriesQuery.Proofs.Params.Integer
import SeriesQuery.Proofs.Json.Skip
import SeriesQuery.Proofs.Remote.Exchange
import SeriesQuery.Proofs.Remote.Refusal
import SeriesQuery.Proofs.Error.Report
import SeriesQuery.Proofs.Settings.Layers
import SeriesQuery.Proofs.CommandLine.Environment
import SeriesQuery.Proofs.Params.Order
import SeriesQuery.Proofs.CommandLine.Construction
import SeriesQuery.Proofs.Json.Extent
import SeriesQuery.Proofs.Json.Agreement
import SeriesQuery.Proofs.Cell.Agreement
import SeriesQuery.Proofs.CommandLine.Line
import SeriesQuery.Proofs.Json.Line
import SeriesQuery.Proofs.CommandLine.Sending
import SeriesQuery.Proofs.Builder.Batch
import SeriesQuery.Proofs.Builder.Order
import SeriesQuery.Proofs.Builder.Hint
import SeriesQuery.Proofs.Instant.Calendar
import SeriesQuery.Proofs.Instant.Floor
import SeriesQuery.Proofs.Instant.Grammar
import SeriesQuery.Proofs.Instant.Rfc3339
import SeriesQuery.Proofs.Number.Integer
import SeriesQuery.Proofs.BindSpec.Form
import SeriesQuery.Proofs.BindSpec.Timestamp
import SeriesQuery.Proofs.Text.Decoding
import SeriesQuery.Proofs.Cell.Access
import SeriesQuery.Proofs.Cell.Number
import SeriesQuery.Proofs.Text.Hex
import SeriesQuery.Proofs.Text.Slice
import SeriesQuery.Proofs.Bytes.Pairs
import SeriesQuery.Proofs.BindSpec.Value
import SeriesQuery.Proofs.BindSpec.Expression
import SeriesQuery.Proofs.Number.Binary
import SeriesQuery.Proofs.Number.Rounding
import SeriesQuery.Proofs.Number.Decimal
import SeriesQuery.Proofs.BindSpec.Reading
import SeriesQuery.Proofs.BindSpec.Refusal
import SeriesQuery.Proofs.BindSpec.Raw
import SeriesQuery.Proofs.Number.Double
import SeriesQuery.Proofs.Json.Fraction
import SeriesQuery.Proofs.Json.Scaling
import SeriesQuery.Proofs.Params.Decimal
import SeriesQuery.Proofs.Params.Value
import SeriesQuery.Proofs.Json.Grammar
import SeriesQuery.Proofs.Json.Nesting
import SeriesQuery.Proofs.Json.Member
import SeriesQuery.Proofs.Json.Denotation
import SeriesQuery.Proofs.Json.Spoiled
import SeriesQuery.Proofs.Params.Listing
import SeriesQuery.Proofs.Error.Envelope
import SeriesQuery.Proofs.Remote.Rejection
import SeriesQuery.Proofs.Text.Split
import SeriesQuery.Proofs.Unicode.Upper
import SeriesQuery.Proofs.Url.Domain.Mapping
import SeriesQuery.Proofs.Url.Domain.Label
import SeriesQuery.Proofs.Url.Ipv4
import SeriesQuery.Proofs.Url.Ipv6
import SeriesQuery.Proofs.Url.Host
import SeriesQuery.Proofs.Url.UserInfo
import SeriesQuery.Proofs.Url.Authority
import SeriesQuery.Proofs.Url.Address
import SeriesQuery.Proofs.Remote.BaseUrl
