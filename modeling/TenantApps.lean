import TenantApps.Base64
import TenantApps.Decimal.Binary64
import TenantApps.Decimal.Shortest
import TenantApps.Duration
import TenantApps.Error
import TenantApps.Form
import TenantApps.Http.Exchange
import TenantApps.Http.Target
import TenantApps.Idna.Domain
import TenantApps.Idna.Mapping
import TenantApps.Idna.Punycode
import TenantApps.Json.Decoder
import TenantApps.Json.Fault
import TenantApps.Json.Node
import TenantApps.Json.Number
import TenantApps.Json.Reader
import TenantApps.Json.Schema
import TenantApps.Json.Text
import TenantApps.Json.Token
import TenantApps.Name
import TenantApps.Procedure
import TenantApps.Proofs.Addresses.Cache
import TenantApps.Proofs.Addresses.LookupInvariant
import TenantApps.Proofs.Addresses.LookupState
import TenantApps.Proofs.Creation.Replay
import TenantApps.Proofs.Creation.Sequence
import TenantApps.Proofs.Discipline
import TenantApps.Proofs.Failures.Attribution
import TenantApps.Proofs.Failures.Path
import TenantApps.Proofs.Failures.Stageless
import TenantApps.Proofs.Names.Entry
import TenantApps.Proofs.Names.Exclusion
import TenantApps.Proofs.Names.Guard
import TenantApps.Proofs.Names.Table
import TenantApps.Proofs.Progress.Budget
import TenantApps.Proofs.Progress.Effort
import TenantApps.Proofs.Progress.Liveness
import TenantApps.Proofs.Records.Demand
import TenantApps.Proofs.Records.KnowledgeState
import TenantApps.Proofs.Records.Tenant
import TenantApps.Proofs.Records.Uniqueness
import TenantApps.Proofs.Records.World
import TenantApps.Proofs.Requests.Authorization
import TenantApps.Proofs.Requests.Confinement
import TenantApps.Proofs.Requests.Deletion
import TenantApps.Proofs.Requests.Filter
import TenantApps.Proofs.Requests.Kind
import TenantApps.Proofs.Requests.Lookup
import TenantApps.Proofs.Requests.Payload
import TenantApps.Proofs.Requests.Removal
import TenantApps.Proofs.Secrecy.Bisimulation
import TenantApps.Proofs.Secrecy.Calls
import TenantApps.Proofs.Secrecy.Redaction
import TenantApps.Proofs.Signals.Balance
import TenantApps.Proofs.Signals.LogState
import TenantApps.Proofs.Signals.OperationTrace
import TenantApps.Proofs.Signals.Tally
import TenantApps.Proofs.Solo.Plain
import TenantApps.Proofs.Solo.Service
import TenantApps.Proofs.Tasks.Cancellation
import TenantApps.Proofs.Tasks.Course
import TenantApps.Proofs.Tasks.Holding
import TenantApps.Proofs.Tasks.Line
import TenantApps.Proofs.Tasks.Queue
import TenantApps.Proofs.Tasks.QueueInvariant
import TenantApps.Proofs.Tasks.Trail
import TenantApps.Proofs.Tasks.Turn
import TenantApps.Proofs.Tenant.Endpoints
import TenantApps.Proofs.Tenant.Location
import TenantApps.Proofs.Tenant.Operations
import TenantApps.Proofs.Tenant.Places
import TenantApps.Proofs.Tenant.Verdict
import TenantApps.Proofs.Url.Folder
import TenantApps.Proofs.Url.Web
import TenantApps.Proofs.Wire.Base64
import TenantApps.Proofs.Wire.Derivation
import TenantApps.Proofs.Wire.Extent
import TenantApps.Proofs.Wire.Form
import TenantApps.Proofs.Wire.Lexeme
import TenantApps.Proofs.Wire.Members
import TenantApps.Proofs.Wire.Page
import TenantApps.Proofs.Wire.Phrase
import TenantApps.Proofs.Wire.Rearrangement
import TenantApps.Proofs.Wire.RoundTrip
import TenantApps.Proofs.Wire.Text
import TenantApps.Proofs.Wire.Uuid
import TenantApps.Proofs.Wire.Value
import TenantApps.Record.Application
import TenantApps.Record.Discovery
import TenantApps.Record.Payload
import TenantApps.Record.SsoType
import TenantApps.Record.TokenClient
import TenantApps.Secret
import TenantApps.Session
import TenantApps.Settings
import TenantApps.Stage
import TenantApps.Tasks.Locks
import TenantApps.Tasks.Machine
import TenantApps.Telemetry
import TenantApps.Tenant.Client
import TenantApps.Tenant.Directory
import TenantApps.Tenant.Discovery
import TenantApps.Tenant.Template
import TenantApps.Text.Blank
import TenantApps.Text.Hex
import TenantApps.Text.Percent
import TenantApps.Text.Quoted
import TenantApps.Text.Split
import TenantApps.Text.Utf8
import TenantApps.Unicode.Normalization
import TenantApps.Unicode.Ranges
import TenantApps.Unicode.Script
import TenantApps.Unicode.Table
import TenantApps.Unicode.Unprintable
import TenantApps.Url.Basic
import TenantApps.Url.Host
import TenantApps.Url.Ipv4
import TenantApps.Url.Ipv6
import TenantApps.Url.Parse
import TenantApps.Uuid
