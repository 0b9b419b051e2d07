import Interception.Text.Blank
import Interception.Text.Split
import Interception.Text.Hidden
import Interception.Text.Quoted
import Interception.Text.Utf8
import Interception.Base64
import Interception.Decimal.Shortest
import Interception.Json.Basic
import Interception.Json.Printer
import Interception.Json.Reader
import Interception.Json.Known
import Interception.Uuid
import Interception.Wire.Failure
import Interception.Wire.Decoder
import Interception.Wire.Record
import Interception.Wire.Union
import Interception.Url.Fault
import Interception.Url.Percent
import Interception.Url.Address
import Interception.Url.Punycode
import Interception.Url.Domain.MappingTable
import Interception.Url.Domain.Mapping
import Interception.Url.Domain.NormalTable
import Interception.Url.Domain.Normal
import Interception.Url.Domain.ClassTable
import Interception.Url.Domain.Rules
import Interception.Url.Domain
import Interception.Url.Basic
import Interception.Url.Path
import Interception.Url.Parser
import Interception.Event.Kind
import Interception.Pattern.Fault
import Interception.Error
import Interception.Message.Token
import Interception.Message.WireBytes
import Interception.Message.Header
import Interception.Message.Cookie
import Interception.Message.Challenge
import Interception.Pattern.Basic
import Interception.Pattern.Escape
import Interception.Pattern.Glob
import Interception.Pattern.Compiled
import Interception.Event.Timings
import Interception.Event.Report
import Interception.Event.Basic
import Interception.Session.Config
import Interception.Command.Parameters
import Interception.Table
import Interception.Text.Sorted
import Interception.Exchange.Request
import Interception.Exchange.Response
import Interception.Exchange.Prompt
import Interception.Exchange.Transport
import Interception.Session.Contexts
import Interception.Session.Intercepts
import Interception.Session.Subscriptions
import Interception.Session.Redirects
import Interception.Session.Warning
import Interception.Session.Suspensions
import Interception.Session.Basic
import Interception.Session.Engine
import Interception.Session.Process
import Interception.Command.Changes
import Interception.Session.Continue
import Interception.Command.Basic
import Interception.Cli
import Interception.Main
import Interception.Proofs.Suspensions.Account
import Interception.Proofs.Suspensions.Outcome
import Interception.Proofs.Suspensions.Claims
import Interception.Proofs.Session.Processing
import Interception.Proofs.Session.Plan
import Interception.Proofs.Session.Calls
import Interception.Proofs.Session.Reachable
import Interception.Proofs.Session.Release
import Interception.Proofs.Session.Prompts
import Interception.Proofs.Session.Pauses
import Interception.Proofs.Session.Replays
import Interception.Proofs.Subscriptions.Counting
import Interception.Proofs.Session.Independence
import Interception.Proofs.Message.Unbroken
import Interception.Proofs.Session.CleanCalls
import Interception.Proofs.Json.Canonical
import Interception.Proofs.Wire.Reads
import Interception.Proofs.UuidText
import Interception.Proofs.Wire.Values
import Interception.Proofs.Wire.Events
import Interception.Proofs.Wire.RoundTrip
import Interception.Proofs.Contexts.Rooted
import Interception.Proofs.Session.Cache
import Interception.Proofs.FreshIds
import Interception.Proofs.Intercepts.Standing
import Interception.Proofs.Session.ClientErrors
import Interception.Proofs.Message.Grouping
import Interception.Proofs.Session.ResponseHeaders
import Interception.Proofs.Session.RequestHeaders
import Interception.Proofs.Pattern.Escapes
import Interception.Proofs.Pattern.Globs
import Interception.Proofs.Url.Hosts
import Interception.Proofs.Url.Parsed
import Interception.Proofs.Pattern.Slots
import Interception.Proofs.Pattern.Literals
import Interception.Proofs.Message.Checks
import Interception.Proofs.Text.Cuts
import Interception.Proofs.Message.Lexemes
import Interception.Proofs.Message.ChallengeLists
import Interception.Proofs.Message.CookiePairs
import Interception.Proofs.Session.ReportedCookies
import Interception.Proofs.Message.SetCookieLines
import Interception.Proofs.Message.ValueBytes
import Interception.Proofs.Text.Utf8
import Interception.Proofs.Base64.Bits
import Interception.Proofs.Base64.Canonical
import Interception.Proofs.Message.WireForms
import Interception.Proofs.Message.ComposedValues
import Interception.Proofs.Session.Acceptance
import Interception.Proofs.Session.Dropped
import Interception.Proofs.Contexts.Forest
import Interception.Proofs.Session.Issuers
import Interception.Proofs.Session.Teardown
import Interception.Proofs.Session.StrayMarks
import Interception.Proofs.Session.ContextChanges
import Interception.Proofs.Session.Orphans
import Interception.Proofs.Session.FrameFlags
import Interception.Proofs.Subscriptions.Audience
import Interception.Proofs.Pattern.Scanners
import Interception.Proofs.Message.Splitting
