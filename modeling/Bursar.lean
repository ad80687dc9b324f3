import Bursar.Access.Capability
import Bursar.Access.Credentials
import Bursar.Access.Principal
import Bursar.Binary64.Shortest
import Bursar.Catalog.Cache
import Bursar.Catalog.Content
import Bursar.Catalog.Error
import Bursar.Catalog.Lookup
import Bursar.Catalog.Metadata
import Bursar.Console.Arguments
import Bursar.Console.Client
import Bursar.Console.Error
import Bursar.Console.Grammar
import Bursar.Console.Output
import Bursar.Console.Provision
import Bursar.Console.Run
import Bursar.Console.Usage
import Bursar.Decimal.Basic
import Bursar.Decimal.Reading
import Bursar.Denomination
import Bursar.Enrollment
import Bursar.Http.Form
import Bursar.Http.MediaType
import Bursar.Http.Message
import Bursar.Http.Status
import Bursar.Http.Wire
import Bursar.Json.Basic
import Bursar.Json.Decode
import Bursar.Json.Raw
import Bursar.Ledger.Debit
import Bursar.Ledger.Error
import Bursar.Ledger.Key
import Bursar.Ledger.Store
import Bursar.Ledger.Subsidy
import Bursar.Ledger.Transaction
import Bursar.Main
import Bursar.Network.Connection
import Bursar.Network.Server
import Bursar.Proofs.Access.Grants
import Bursar.Proofs.Access.Pieces
import Bursar.Proofs.Access.Tokens
import Bursar.Proofs.Catalog.Expiry
import Bursar.Proofs.Catalog.Lookups
import Bursar.Proofs.Catalog.Pricing
import Bursar.Proofs.Catalog.Quotes
import Bursar.Proofs.Catalog.Sections
import Bursar.Proofs.Console.Refusals
import Bursar.Proofs.Console.Requests
import Bursar.Proofs.Decimal.Amount
import Bursar.Proofs.Decimal.Product
import Bursar.Proofs.Decimal.Reading
import Bursar.Proofs.Http.Form
import Bursar.Proofs.Json.ReadBack
import Bursar.Proofs.Json.Record
import Bursar.Proofs.Json.Scalar
import Bursar.Proofs.Json.Value
import Bursar.Proofs.Ledger.AppendOnly
import Bursar.Proofs.Ledger.Balance
import Bursar.Proofs.Ledger.Change
import Bursar.Proofs.Ledger.Coherence
import Bursar.Proofs.Ledger.Debit
import Bursar.Proofs.Ledger.DerivedKey
import Bursar.Proofs.Ledger.Guard
import Bursar.Proofs.Ledger.History
import Bursar.Proofs.Ledger.Lifecycle
import Bursar.Proofs.Ledger.Posting
import Bursar.Proofs.Ledger.Provision
import Bursar.Proofs.Ledger.Provisioning
import Bursar.Proofs.Ledger.Refused
import Bursar.Proofs.Ledger.Writers
import Bursar.Proofs.Remote.Addresses
import Bursar.Proofs.Service.Acts
import Bursar.Proofs.Service.Answers
import Bursar.Proofs.Service.Authority
import Bursar.Proofs.Service.Calls
import Bursar.Proofs.Service.Complaints
import Bursar.Proofs.Service.Confinement
import Bursar.Proofs.Service.Labels
import Bursar.Proofs.Service.Paging
import Bursar.Proofs.Service.Partition
import Bursar.Proofs.Service.Secrecy
import Bursar.Proofs.Service.Statuses
import Bursar.Proofs.Service.Tally
import Bursar.Proofs.Service.Visibility
import Bursar.Proofs.Service.Wire
import Bursar.Proofs.Service.Wishes
import Bursar.Proofs.Spend.Accounting
import Bursar.Proofs.Spend.Alone
import Bursar.Proofs.Spend.Conservation
import Bursar.Proofs.Spend.Conversation
import Bursar.Proofs.Spend.Decision
import Bursar.Proofs.Spend.Enrollments
import Bursar.Proofs.Spend.Exclusion
import Bursar.Proofs.Spend.Founding
import Bursar.Proofs.Spend.Guards
import Bursar.Proofs.Spend.Moves
import Bursar.Proofs.Spend.OncePerKey
import Bursar.Proofs.Spend.Readiness
import Bursar.Proofs.Spend.Recording
import Bursar.Proofs.Spend.Replay
import Bursar.Proofs.Spend.Soundness
import Bursar.Proofs.Spend.System
import Bursar.Proofs.Text.Cutting
import Bursar.Proofs.Text.Encoding
import Bursar.Proofs.Text.Identifier
import Bursar.Proofs.Text.IdentifierSpelling
import Bursar.Proofs.Text.LetterCase
import Bursar.Proofs.Text.Numeral
import Bursar.Proofs.Text.Spelling
import Bursar.Proofs.Text.Utf8
import Bursar.Proofs.Time.Calendar
import Bursar.Proofs.Time.Timestamp
import Bursar.Proofs.Url.Places
import Bursar.Proofs.Url.Segments
import Bursar.Remote.Call
import Bursar.Remote.Catalog
import Bursar.Remote.Enrollment
import Bursar.Service.Admission
import Bursar.Service.Counters
import Bursar.Service.Disclosure
import Bursar.Service.Error
import Bursar.Service.Exposition
import Bursar.Service.Health
import Bursar.Service.Listing
import Bursar.Service.Page
import Bursar.Service.Rehearsal
import Bursar.Service.Request
import Bursar.Service.Respond
import Bursar.Service.Round
import Bursar.Service.Route
import Bursar.Service.Settings
import Bursar.Service.View
import Bursar.Service.World
import Bursar.Sha256
import Bursar.Spend.Command
import Bursar.Spend.Locks
import Bursar.Spend.Run
import Bursar.Table
import Bursar.Text.Blank
import Bursar.Text.Hexadecimal
import Bursar.Text.Numeral
import Bursar.Text.Quoted
import Bursar.Text.Split
import Bursar.Text.Utf8
import Bursar.Time.Calendar
import Bursar.Time.Timestamp
import Bursar.Unicode.CombiningClass
import Bursar.Unicode.Decomposition
import Bursar.Unicode.Direction
import Bursar.Unicode.Joining
import Bursar.Unicode.NameMapping
import Bursar.Unicode.NameTexts
import Bursar.Unicode.Normalization
import Bursar.Unicode.Ranges
import Bursar.Unicode.Shapeless
import Bursar.Url.Basic
import Bursar.Url.DomainName
import Bursar.Url.Host
import Bursar.Url.Punycode
import Bursar.Url.Reading
import Bursar.Uuid
