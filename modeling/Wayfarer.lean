import Wayfarer.Command.Invocation
import Wayfarer.Command.Line
import Wayfarer.Command.Run
import Wayfarer.Config.Load
import Wayfarer.Config.Overrides
import Wayfarer.Config.Path
import Wayfarer.Config.Reading
import Wayfarer.Config.Settings
import Wayfarer.Datum.Basic
import Wayfarer.Datum.Json
import Wayfarer.Hop.Chain
import Wayfarer.Hop.Failure
import Wayfarer.Hop.Fetch
import Wayfarer.Hop.Follow
import Wayfarer.Hop.Policy
import Wayfarer.Hop.Report
import Wayfarer.Hop.Request
import Wayfarer.Hop.Sniff
import Wayfarer.Hop.Target
import Wayfarer.Hop.Trail
import Wayfarer.Html.Builder
import Wayfarer.Html.CharacterName
import Wayfarer.Html.Doctype
import Wayfarer.Html.Document
import Wayfarer.Html.Formatting
import Wayfarer.Html.Mode.Body
import Wayfarer.Html.Mode.Head
import Wayfarer.Html.Mode.Select
import Wayfarer.Html.Mode.Table
import Wayfarer.Html.Parse
import Wayfarer.Html.Reference
import Wayfarer.Html.Token
import Wayfarer.Html.Vocabulary
import Wayfarer.Http.Field
import Wayfarer.Http.Headers
import Wayfarer.Http.Message
import Wayfarer.Idna.Mapping
import Wayfarer.Idna.Name
import Wayfarer.Idna.Punycode
import Wayfarer.Main
import Wayfarer.Number.Binary64
import Wayfarer.Number.Decimal
import Wayfarer.Number.Width
import Wayfarer.Proofs.Config.Agreement
import Wayfarer.Proofs.Fetch.Bound
import Wayfarer.Proofs.Fetch.Record
import Wayfarer.Proofs.Fetch.Round
import Wayfarer.Proofs.Fetch.Skip
import Wayfarer.Proofs.Fetch.Unready
import Wayfarer.Proofs.Hop.Allowance
import Wayfarer.Proofs.Hop.Continuation
import Wayfarer.Proofs.Hop.Course
import Wayfarer.Proofs.Hop.Ends
import Wayfarer.Proofs.Hop.Escaped
import Wayfarer.Proofs.Hop.Frame
import Wayfarer.Proofs.Hop.Growth
import Wayfarer.Proofs.Hop.Hostless
import Wayfarer.Proofs.Hop.OriginBound
import Wayfarer.Proofs.Hop.Payload
import Wayfarer.Proofs.Hop.Priority
import Wayfarer.Proofs.Hop.Sniff
import Wayfarer.Proofs.Hop.Spelling
import Wayfarer.Proofs.Hop.Verdict
import Wayfarer.Proofs.Hop.Within
import Wayfarer.Proofs.Html.Selection
import Wayfarer.Proofs.Http.Change
import Wayfarer.Proofs.Idna.Ascii
import Wayfarer.Proofs.Idna.Visible
import Wayfarer.Proofs.Number.Decimal
import Wayfarer.Proofs.Proxy.Address
import Wayfarer.Proofs.Proxy.Again
import Wayfarer.Proofs.Proxy.Credentials
import Wayfarer.Proofs.Proxy.Environment
import Wayfarer.Proofs.Proxy.EnvironmentOrder
import Wayfarer.Proofs.Proxy.Exempt
import Wayfarer.Proofs.Proxy.History
import Wayfarer.Proofs.Proxy.OptOut
import Wayfarer.Proofs.Proxy.Ownership
import Wayfarer.Proofs.Proxy.Pinned
import Wayfarer.Proofs.Proxy.Prepare
import Wayfarer.Proofs.Refresh.Grammar
import Wayfarer.Proofs.Refresh.Ignored
import Wayfarer.Proofs.Refresh.Rendering
import Wayfarer.Proofs.Refresh.Report
import Wayfarer.Proofs.Text.Base64
import Wayfarer.Proofs.Text.Ends
import Wayfarer.Proofs.Text.Normal
import Wayfarer.Proofs.Text.Percent
import Wayfarer.Proofs.Text.Pieces
import Wayfarer.Proofs.Text.Visible
import Wayfarer.Proofs.Url.Host
import Wayfarer.Proofs.Url.Located
import Wayfarer.Proofs.Url.Origin
import Wayfarer.Proofs.Url.Place
import Wayfarer.Proofs.Url.Refused
import Wayfarer.Proofs.Url.Written
import Wayfarer.Proxy.Endpoint
import Wayfarer.Proxy.Rules
import Wayfarer.Refresh.Content
import Wayfarer.Refresh.Directive
import Wayfarer.Text.Base64
import Wayfarer.Text.Class.Bidi
import Wayfarer.Text.Class.Canonical
import Wayfarer.Text.Class.Combining
import Wayfarer.Text.Class.Joining
import Wayfarer.Text.Letters
import Wayfarer.Text.Normal
import Wayfarer.Text.Percent
import Wayfarer.Text.RangeTable
import Wayfarer.Text.Utf8
import Wayfarer.Toml.Document
import Wayfarer.Toml.Quoted
import Wayfarer.Toml.Scalar
import Wayfarer.Toml.Tree
import Wayfarer.Url.Address
import Wayfarer.Url.Basic
import Wayfarer.Url.Escape
import Wayfarer.Url.Host
import Wayfarer.Url.Origin
import Wayfarer.Url.Parse
