import Rolebook.Text.Blank
import Rolebook.Text.Case
import Rolebook.Ordered.Rank
import Rolebook.Ordered.Set
import Rolebook.Ordered.Map
import Rolebook.Text.Hex
import Rolebook.Uuid.Basic
import Rolebook.Uuid.Reader
import Rolebook.Text.Decimal
import Rolebook.Instant.Date
import Rolebook.Instant.Basic
import Rolebook.Instant.Reader
import Rolebook.Text.Utf8
import Rolebook.Text.Body
import Rolebook.Json.Basic
import Rolebook.Json.Token
import Rolebook.Json.Reader
import Rolebook.Json.Record
import Rolebook.Id
import Rolebook.Assignment
import Rolebook.Membership.Operation
import Rolebook.Fault
import Rolebook.Permission.Action
import Rolebook.Permission.Category
import Rolebook.Permission.Basic
import Rolebook.User
import Rolebook.Role.Basic
import Rolebook.Role.Json
import Rolebook.Membership.Plan
import Rolebook.Membership.Report
import Rolebook.Text.Order
import Rolebook.Gateway
import Rolebook.Administrator.Roles
import Rolebook.Administrator.Members
import Rolebook.Routine
import Rolebook.Store.Basic
import Rolebook.Store.Calls
import Rolebook.Membership.FanOut
import Rolebook.Rehearsal.Basic
import Rolebook.Rehearsal.Calls
import Rolebook.Command.Basic
import Rolebook.Command.Output
import Rolebook.Command.Run
import Rolebook.Command.Usage
import Rolebook.Text.Split
import Rolebook.Text.Percent
import Rolebook.Url.Ipv4
import Rolebook.Url.Ipv6
import Rolebook.Text.Chart
import Rolebook.Text.Mark
import Rolebook.Text.Combining
import Rolebook.Text.Joining
import Rolebook.Text.Direction
import Rolebook.Text.Composition
import Rolebook.Text.Normal
import Rolebook.Text.Punycode
import Rolebook.Url.Domain.Excluded
import Rolebook.Url.Domain.Letters
import Rolebook.Url.Domain.Words
import Rolebook.Url.Domain.Forms
import Rolebook.Url.Domain.Mapping
import Rolebook.Url.Domain.Label
import Rolebook.Url.Domain.Basic
import Rolebook.Url.Host
import Rolebook.Url.Basic
import Rolebook.Url.Reader
import Rolebook.Text.Unsigned
import Rolebook.Settings.Basic
import Rolebook.Settings.EnvFile
import Rolebook.Text.Base64
import Rolebook.Http.Message
import Rolebook.Http.Payload
import Rolebook.Http.Backend
import Rolebook.Http.Calls
import Rolebook.Http.Script
import Rolebook.Text.Graphic
import Rolebook.Text.Quoted
import Rolebook.Program
import Rolebook.Json.Printer
import Rolebook.Http.Exchange
import Rolebook.Main
import Rolebook.Proofs.Fallible
import Rolebook.Proofs.Ordered.Map
import Rolebook.Proofs.Role.Normal
import Rolebook.Proofs.Store.Calls
import Rolebook.Proofs.Store.Run
import Rolebook.Proofs.Membership.Plan
import Rolebook.Proofs.Membership.Report
import Rolebook.Proofs.Store.Batch
import Rolebook.Proofs.Administrator.Members
import Rolebook.Proofs.Alike
import Rolebook.Proofs.Administrator.Alike
import Rolebook.Proofs.Store.Order
import Rolebook.Proofs.Store.Save
import Rolebook.Proofs.Store.Retry
import Rolebook.Proofs.Store.Invocations
import Rolebook.Proofs.Store.Counts
import Rolebook.Proofs.Store.Integrity
import Rolebook.Proofs.Text.Order
import Rolebook.Proofs.Store.Names
import Rolebook.Proofs.Administrator.Harmless
import Rolebook.Proofs.Store.Failure
import Rolebook.Proofs.Store.System
import Rolebook.Proofs.Membership.FanOut
import Rolebook.Proofs.Membership.Watched
import Rolebook.Proofs.Membership.Record
import Rolebook.Proofs.Administrator.Watched
import Rolebook.Proofs.Gateway.Normal
import Rolebook.Proofs.Administrator.Roles
import Rolebook.Proofs.Administrator.Guarded
import Rolebook.Proofs.Uuid.Spelling
import Rolebook.Proofs.Store.Writes
import Rolebook.Proofs.Store.Reference
import Rolebook.Proofs.Command.Lines
import Rolebook.Proofs.Store.DryRun
import Rolebook.Proofs.Text.Decimal
import Rolebook.Proofs.Instant.Text
import Rolebook.Proofs.Json.Respelled
import Rolebook.Proofs.Permission.Key
import Rolebook.Proofs.Json.RoundTrip
import Rolebook.Proofs.Json.Kept
import Rolebook.Proofs.Http.Calls
import Rolebook.Proofs.Http.Payload
import Rolebook.Proofs.Http.Requests
import Rolebook.Proofs.Http.Sendable
import Rolebook.Proofs.Membership.Roster
import Rolebook.Proofs.Store.Roster
import Rolebook.Proofs.Http.Roster
import Rolebook.Proofs.Store.Direct
import Rolebook.Proofs.Membership.Turns
import Rolebook.Proofs.Administrator.Bounded
import Rolebook.Proofs.Sends
import Rolebook.Proofs.Command.Exit
import Rolebook.Proofs.Traffic
import Rolebook.Proofs.Store.Traffic
import Rolebook.Proofs.Store.Overtaken
import Rolebook.Proofs.Membership.Exact
import Rolebook.Proofs.Store.Search
import Rolebook.Proofs.Store.Commit
import Rolebook.Proofs.Store.ConcurrentCalls
import Rolebook.Proofs.Command.Grammar
import Rolebook.Proofs.Role.Construction
import Rolebook.Proofs.Command.Account
import Rolebook.Proofs.Http.Dialogue
import Rolebook.Proofs.Membership.Talk
import Rolebook.Proofs.Http.Outcomes
import Rolebook.Proofs.Text.Blank
import Rolebook.Proofs.Uuid.Canonical
import Rolebook.Proofs.Settings.Reading
import Rolebook.Proofs.Administrator.Listings
import Rolebook.Proofs.Store.Listings
import Rolebook.Proofs.Http.Refusals
