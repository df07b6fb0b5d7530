import RouteSync.Act
import RouteSync.Catalogue.Client
import RouteSync.Catalogue.Error
import RouteSync.Clock.Duration
import RouteSync.Clock.Ticker
import RouteSync.Command.Options
import RouteSync.Command.Startup
import RouteSync.Credential.Keeper
import RouteSync.Credential.Source
import RouteSync.Credential.Token
import RouteSync.Decimal.Binary64
import RouteSync.Decimal.Power
import RouteSync.Decimal.Shortest
import RouteSync.Decimal.Text
import RouteSync.Decode.Mismatch
import RouteSync.Disk.Basic
import RouteSync.Disk.Path
import RouteSync.Disk.Replace
import RouteSync.Http.Call
import RouteSync.Http.MediaType
import RouteSync.Http.Message
import RouteSync.Http.Offline
import RouteSync.Http.Status
import RouteSync.Http.Url
import RouteSync.Http.Url.Host
import RouteSync.Json.Fault
import RouteSync.Json.Number
import RouteSync.Json.Skip
import RouteSync.Json.Text
import RouteSync.Json.Value
import RouteSync.Json.Writer
import RouteSync.Log
import RouteSync.Log.Filter
import RouteSync.Main
import RouteSync.Net.Address
import RouteSync.Net.Endpoint
import RouteSync.Net.Host
import RouteSync.Net.Ip
import RouteSync.Net.Listen
import RouteSync.Proofs.Clock.Ticker
import RouteSync.Proofs.Credential.Reuse
import RouteSync.Proofs.Disk.Locate
import RouteSync.Proofs.Disk.Path
import RouteSync.Proofs.Disk.Replace
import RouteSync.Proofs.Disk.Room
import RouteSync.Proofs.Json.Number
import RouteSync.Proofs.Json.Object
import RouteSync.Proofs.Json.Text
import RouteSync.Proofs.Net.Characters
import RouteSync.Proofs.Proxy.Grammar
import RouteSync.Proofs.Proxy.Order
import RouteSync.Proofs.Proxy.Outline
import RouteSync.Proofs.Proxy.Render
import RouteSync.Proofs.Proxy.Rendered
import RouteSync.Proofs.Proxy.Served
import RouteSync.Proofs.Proxy.ServerName
import RouteSync.Proofs.Publish.Failures
import RouteSync.Proofs.Publish.History
import RouteSync.Proofs.Publish.Steps
import RouteSync.Proofs.Reconcile.Admitted
import RouteSync.Proofs.Reconcile.Alone
import RouteSync.Proofs.Reconcile.Caching
import RouteSync.Proofs.Reconcile.Configured
import RouteSync.Proofs.Reconcile.Convergence
import RouteSync.Proofs.Reconcile.Course
import RouteSync.Proofs.Reconcile.Listings
import RouteSync.Proofs.Reconcile.Moves
import RouteSync.Proofs.Reconcile.Refresh
import RouteSync.Proofs.Reconcile.Refused
import RouteSync.Proofs.Reconcile.Session
import RouteSync.Proofs.Reservation.Answers
import RouteSync.Proofs.Reservation.Ports
import RouteSync.Proofs.Reservation.Replacement
import RouteSync.Proofs.Reservation.Routes
import RouteSync.Proofs.Route.Map
import RouteSync.Proofs.Route.Wire
import RouteSync.Proofs.Stream.Body
import RouteSync.Proofs.Stream.Decoder
import RouteSync.Proofs.Stream.Encoding
import RouteSync.Proofs.Stream.Limit
import RouteSync.Proofs.Stream.Line
import RouteSync.Proofs.Stream.Subscription
import RouteSync.Proofs.Table.Confirmed
import RouteSync.Proofs.Table.Duplicates
import RouteSync.Proofs.Table.Entry
import RouteSync.Proofs.Table.Exact
import RouteSync.Proofs.Table.Follow
import RouteSync.Proofs.Table.InPlace
import RouteSync.Proofs.Table.Interleaving
import RouteSync.Proofs.Table.Listing
import RouteSync.Proofs.Table.Merged
import RouteSync.Proofs.Table.Newest
import RouteSync.Proofs.Table.Order
import RouteSync.Proofs.Table.Pruned
import RouteSync.Proofs.Table.Replaced
import RouteSync.Proofs.Table.Sound
import RouteSync.Proofs.Table.Truth
import RouteSync.Proofs.Text.Blank
import RouteSync.Proofs.Text.Digits
import RouteSync.Proofs.Text.Reader
import RouteSync.Proofs.Text.Split
import RouteSync.Proofs.Text.Utf8
import RouteSync.Proofs.Watch.Delivery
import RouteSync.Proofs.Watch.Requests
import RouteSync.Proofs.Watch.Run
import RouteSync.Proofs.Watch.Staleness
import RouteSync.Proofs.Watch.Streams
import RouteSync.Proxy.Render
import RouteSync.Proxy.Stanza
import RouteSync.Publish.Publisher
import RouteSync.Publish.Script
import RouteSync.Reconcile.Basic
import RouteSync.Reconcile.Sync
import RouteSync.Regex.Basic
import RouteSync.Regex.CharSet
import RouteSync.Regex.Parser
import RouteSync.Rehearsal.Network
import RouteSync.Rehearsal.Publishing
import RouteSync.Rehearsal.Shell.Builtins
import RouteSync.Rehearsal.Shell.Command
import RouteSync.Rehearsal.Shell.Condition
import RouteSync.Rehearsal.Shell.Expand
import RouteSync.Rehearsal.Shell.Glob
import RouteSync.Rehearsal.Shell.Grammar
import RouteSync.Rehearsal.Shell.Launch
import RouteSync.Rehearsal.Shell.Lookup
import RouteSync.Rehearsal.Shell.Print
import RouteSync.Rehearsal.Shell.Process
import RouteSync.Rehearsal.Shell.Reading
import RouteSync.Rehearsal.Shell.Redirect
import RouteSync.Rehearsal.Shell.Run
import RouteSync.Rehearsal.Shell.Runner
import RouteSync.Rehearsal.Shell.Signals
import RouteSync.Rehearsal.Shell.State
import RouteSync.Rehearsal.Shell.Sum
import RouteSync.Rehearsal.Shell.Tools
import RouteSync.Rehearsal.Shell.Tools.Files
import RouteSync.Rehearsal.Shell.Tools.Lines
import RouteSync.Rehearsal.Shell.Tools.Options
import RouteSync.Rehearsal.Shell.Tools.Search
import RouteSync.Rehearsal.Shell.Tools.System
import RouteSync.Rehearsal.Stage
import RouteSync.Rehearsal.Ticking
import RouteSync.Rehearsal.Watching
import RouteSync.Rehearsal.Workplace
import RouteSync.Reservation.Endpoint
import RouteSync.Reservation.Ports
import RouteSync.Reservation.Request
import RouteSync.Route.Event
import RouteSync.Route.Key
import RouteSync.Route.Map
import RouteSync.Route.Mapping
import RouteSync.Route.Server
import RouteSync.Route.Wire
import RouteSync.Settings.Basic
import RouteSync.Settings.Fields
import RouteSync.Settings.Load
import RouteSync.Stream.Decoder
import RouteSync.Stream.Line
import RouteSync.Stream.Subscription
import RouteSync.Table.Basic
import RouteSync.Table.Entry
import RouteSync.Table.Follow
import RouteSync.Text.Base64
import RouteSync.Text.Blank
import RouteSync.Text.Digits
import RouteSync.Text.Punycode
import RouteSync.Text.Quoted
import RouteSync.Text.Split
import RouteSync.Text.Utf8
import RouteSync.Text.Visible
import RouteSync.Text.Words
import RouteSync.Toml.Document
import RouteSync.Toml.Fault
import RouteSync.Toml.Lexeme
import RouteSync.Toml.Number
import RouteSync.Toml.Record
import RouteSync.Toml.Tables
import RouteSync.Toml.Value
import RouteSync.Watch.Outside
import RouteSync.Watch.Pruner
import RouteSync.Watch.Requests
import RouteSync.Watch.Stage
import RouteSync.Watch.Syncer
import RouteSync.Watch.Watcher
import RouteSync.Watch.Worker
