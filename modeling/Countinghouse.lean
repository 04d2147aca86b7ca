import Countinghouse.Bank.Accounts
import Countinghouse.Bank.Basic
import Countinghouse.Bank.Sessions
import Countinghouse.Bank.Transfers
import Countinghouse.Bank.Users
import Countinghouse.Configuration.Basic
import Countinghouse.Configuration.Read
import Countinghouse.Currency
import Countinghouse.Decimal.Shortest
import Countinghouse.Event
import Countinghouse.Failure
import Countinghouse.Gateway.Description.Component
import Countinghouse.Gateway.Description.Document
import Countinghouse.Gateway.Description.Endpoint
import Countinghouse.Gateway.Handler
import Countinghouse.Gateway.Reply
import Countinghouse.Gateway.Request
import Countinghouse.Gateway.Route
import Countinghouse.Hash.Argon2
import Countinghouse.Hash.Blake2
import Countinghouse.Hash.Sha256
import Countinghouse.Idna
import Countinghouse.Idna.Label
import Countinghouse.Idna.Mapping
import Countinghouse.Idna.Punycode
import Countinghouse.Json.Document
import Countinghouse.Json.Fault
import Countinghouse.Json.Number
import Countinghouse.Json.Pointer
import Countinghouse.Json.Reader
import Countinghouse.Json.Record
import Countinghouse.Json.Value
import Countinghouse.Ledger.Account
import Countinghouse.Ledger.Page
import Countinghouse.Ledger.Transfer
import Countinghouse.Log.Filter
import Countinghouse.Log.Line
import Countinghouse.Net.Address
import Countinghouse.Net.Url
import Countinghouse.Operation
import Countinghouse.Password.Argon
import Countinghouse.Password.Record
import Countinghouse.Proofs.Bank.Atomicity
import Countinghouse.Proofs.Bank.Errand
import Countinghouse.Proofs.Bank.Funds
import Countinghouse.Proofs.Bank.Lifetime
import Countinghouse.Proofs.Bank.Order
import Countinghouse.Proofs.Bank.Ownership
import Countinghouse.Proofs.Bank.Permission
import Countinghouse.Proofs.Bank.Renewal
import Countinghouse.Proofs.Bank.Revocation
import Countinghouse.Proofs.Concurrency.Service
import Countinghouse.Proofs.Json.Number
import Countinghouse.Proofs.Json.Reading
import Countinghouse.Proofs.Json.RoundTrip
import Countinghouse.Proofs.Operation.Guarded
import Countinghouse.Proofs.Operation.Trial
import Countinghouse.Proofs.Operation.Undisturbed
import Countinghouse.Proofs.Sql.Transcript
import Countinghouse.Proofs.Sql.Transfer
import Countinghouse.Proofs.Store.Conservation
import Countinghouse.Proofs.Store.Effect
import Countinghouse.Proofs.Store.History
import Countinghouse.Proofs.Store.Journal
import Countinghouse.Proofs.Store.Keeping
import Countinghouse.Proofs.Store.Numbering
import Countinghouse.Proofs.Store.Range
import Countinghouse.Proofs.Store.Sessions
import Countinghouse.Proofs.Text.Utf8
import Countinghouse.Proofs.Text.Uuid
import Countinghouse.Proofs.Token.Acceptance
import Countinghouse.Proofs.Token.Authority
import Countinghouse.Proofs.Token.Base64
import Countinghouse.Proofs.Token.RoundTrip
import Countinghouse.Request.Email
import Countinghouse.Request.Form
import Countinghouse.Request.Query
import Countinghouse.Request.Rule
import Countinghouse.Session
import Countinghouse.Simulation
import Countinghouse.Simulation.Files
import Countinghouse.Simulation.Machine
import Countinghouse.Sql.Dialog
import Countinghouse.Sql.Failure
import Countinghouse.Sql.Row
import Countinghouse.Sql.Schema
import Countinghouse.Sql.Script
import Countinghouse.Sql.Settings
import Countinghouse.Sql.Statement
import Countinghouse.Sql.Store
import Countinghouse.Startup.Arguments
import Countinghouse.Startup.Fault
import Countinghouse.Startup.Platform
import Countinghouse.Store.Call
import Countinghouse.Store.Fault
import Countinghouse.Store.Tables
import Countinghouse.Text.Debug
import Countinghouse.Text.Hex
import Countinghouse.Text.Integer
import Countinghouse.Text.Percent
import Countinghouse.Text.Utf8
import Countinghouse.Time.Instant
import Countinghouse.Token.Authority
import Countinghouse.Token.Base64
import Countinghouse.Token.Claims
import Countinghouse.Token.Header
import Countinghouse.Unicode.CodeTable
import Countinghouse.Unicode.Composition
import Countinghouse.Unicode.Direction
import Countinghouse.Unicode.Joining
import Countinghouse.Unicode.Mark
import Countinghouse.Unicode.Normal
import Countinghouse.Unicode.Visible
import Countinghouse.User
import Countinghouse.Uuid
import Countinghouse.Yaml.Event
import Countinghouse.Yaml.Fault
import Countinghouse.Yaml.Reader
import Countinghouse.Yaml.Scalar
import Countinghouse.Yaml.Token.Basic
import Countinghouse.Yaml.Token.Scalar
import Countinghouse.Yaml.Token.Scan
import Countinghouse.Yaml.Token.Tag
import Countinghouse.Proofs.Gateway.Authentication
import Countinghouse.Proofs.Gateway.Gate
import Countinghouse.Proofs.Gateway.Handling
import Countinghouse.Proofs.Store.Users
import Countinghouse.Proofs.Bank.Passwords
import Countinghouse.Proofs.Store.Constraints
import Countinghouse.Proofs.Sql.Locking
import Countinghouse.Proofs.Time.Instant
import Countinghouse.Proofs.Sql.Query
import Countinghouse.Sql.Database
import Countinghouse.Proofs.Sql.Database
import Countinghouse.Proofs.Sql.Agreement
import Countinghouse.Proofs.Operation.CallsOnly
import Countinghouse.Proofs.Bank.UserWrites
import Countinghouse.Proofs.Bank.Credentials
import Countinghouse.Proofs.Gateway.Plan
import Countinghouse.Proofs.Gateway.Envelope
import Countinghouse.Proofs.Operation.Alike
import Countinghouse.Proofs.Gateway.Discretion
import Countinghouse.Proofs.Operation.Report
import Countinghouse.Proofs.Bank.Reports
import Countinghouse.Proofs.Store.Support
import Countinghouse.Proofs.Operation.Harmless
import Countinghouse.Proofs.Bank.Founded
import Countinghouse.Proofs.Gateway.Honesty
import Countinghouse.Proofs.Gateway.Anonymity
import Countinghouse.Proofs.Store.Share
import Countinghouse.Proofs.Bank.Privacy
import Countinghouse.Proofs.Store.Regularity
import Countinghouse.Proofs.Gateway.Regularity
import Countinghouse.Proofs.Store.Redaction
import Countinghouse.Proofs.Operation.InStep
import Countinghouse.Proofs.Bank.Secrecy
import Countinghouse.Proofs.Decision
import Countinghouse.Proofs.Store.Booking
import Countinghouse.Proofs.Operation.Decisive
import Countinghouse.Proofs.Bank.Payment
import Countinghouse.Proofs.Bank.RenewalDecision
import Countinghouse.Proofs.Sql.Availability
import Countinghouse.Sql.Users
import Countinghouse.Proofs.Store.Paging
import Countinghouse.Proofs.Operation.Amid
import Countinghouse.Proofs.Bank.Paging
import Countinghouse.Proofs.Store.UserUpdates
import Countinghouse.Proofs.Sql.UserUpdates
import Countinghouse.Proofs.Store.Reordering
import Countinghouse.Proofs.Token.Lifetime
