import Roster.Api.Endpoint
import Roster.Api.Libraries
import Roster.Api.Payload
import Roster.Api.Refusal
import Roster.Api.Serve
import Roster.Api.View
import Roster.Calendar
import Roster.Caller
import Roster.Decimal.Binary64
import Roster.Decimal.Shortest
import Roster.Decimal.Word
import Roster.Document.Address
import Roster.Document.Address.Host
import Roster.Document.Address.Options
import Roster.Document.Basic
import Roster.Document.Collection
import Roster.Document.Command
import Roster.Document.Server
import Roster.Fault
import Roster.Field
import Roster.Http.Coding
import Roster.Http.MediaType
import Roster.Http.Message
import Roster.Http.Path
import Roster.Http.Query
import Roster.Identity
import Roster.Json.Basic
import Roster.Json.Decode
import Roster.Json.Position
import Roster.Json.Printer
import Roster.Json.Reader
import Roster.Json.Token
import Roster.Page
import Roster.Pick
import Roster.Plan
import Roster.Proofs.Alone
import Roster.Proofs.Api.Anonymity
import Roster.Proofs.Api.Bases
import Roster.Proofs.Api.Envelope
import Roster.Proofs.Api.Handling
import Roster.Proofs.Api.Registration
import Roster.Proofs.Api.Responses
import Roster.Proofs.Api.Texts
import Roster.Proofs.Api.Users
import Roster.Proofs.Document.Hosts
import Roster.Proofs.Document.Values
import Roster.Proofs.Ends
import Roster.Proofs.Http.Headers
import Roster.Proofs.Http.Target
import Roster.Proofs.Identity
import Roster.Proofs.Page
import Roster.Proofs.Schedule
import Roster.Proofs.Service.Attempts
import Roster.Proofs.Service.Availability
import Roster.Proofs.Service.Callers
import Roster.Proofs.Service.Changes
import Roster.Proofs.Service.Deletion
import Roster.Proofs.Service.Effects
import Roster.Proofs.Service.Failures
import Roster.Proofs.Service.Groups
import Roster.Proofs.Service.Hosted
import Roster.Proofs.Service.Listing
import Roster.Proofs.Service.Members
import Roster.Proofs.Service.Patches
import Roster.Proofs.Service.Profiles
import Roster.Proofs.Service.Registration
import Roster.Proofs.Service.Removal
import Roster.Proofs.Service.Requests
import Roster.Proofs.Service.Resolution
import Roster.Proofs.Service.Rights
import Roster.Proofs.Service.Texts
import Roster.Proofs.Service.Writing
import Roster.Proofs.Slug
import Roster.Proofs.Slug.Numbered
import Roster.Proofs.Slug.OfText
import Roster.Proofs.Slug.Runs
import Roster.Proofs.Store.Exchanges
import Roster.Proofs.Store.Groups
import Roster.Proofs.Store.Ids
import Roster.Proofs.Store.Keyed
import Roster.Proofs.Store.Lookups
import Roster.Proofs.Store.Mirror
import Roster.Proofs.Store.Orders
import Roster.Proofs.Store.Parties
import Roster.Proofs.Store.Refinement
import Roster.Proofs.Store.Rows
import Roster.Proofs.Store.Slugs
import Roster.Proofs.Store.Sorted
import Roster.Proofs.Store.Transactions
import Roster.Proofs.Store.Users
import Roster.Proofs.Store.Writes
import Roster.Proofs.Text.Percent
import Roster.Proofs.Traffic
import Roster.Record
import Roster.Record.Shape
import Roster.Record.Stored
import Roster.Rehearsal.Link
import Roster.Rehearsal.Stage
import Roster.Report
import Roster.Role
import Roster.Service.Access
import Roster.Service.Groups
import Roster.Service.Members
import Roster.Service.Namespaces
import Roster.Service.Users
import Roster.Settings.Basic
import Roster.Settings.Load
import Roster.Settings.Place
import Roster.Settings.Tree
import Roster.Slug
import Roster.Store.Call
import Roster.Store.Documents
import Roster.Store.Memory
import Roster.Store.Order
import Roster.Store.Table
import Roster.Text.Blank
import Roster.Text.Digit
import Roster.Text.Lossy
import Roster.Text.Lowercase
import Roster.Text.Percent
import Roster.Text.Pieces
import Roster.Text.Printable
import Roster.Text.Quoted
import Roster.Toml.Plain
import Roster.Toml.Quote
import Roster.Toml.Reader
import Roster.Toml.Tables
import Roster.Ulid
