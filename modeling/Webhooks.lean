import Webhooks.Library.Table
import Webhooks.Library.Lockstep
import Webhooks.Library.Interleaving
import Webhooks.Library.Assoc
import Webhooks.Library.Text
import Webhooks.Library.Loops
import Webhooks.Library.Tracing
import Webhooks.Library.Rounds
import Webhooks.Library.Savepoints
import Webhooks.Environment
import Webhooks.Filters
import Webhooks.Matching
import Webhooks.Grammar
import Webhooks.TypedEquality
import Webhooks.PythonText
import Webhooks.Registry
import Webhooks.Signing
import Webhooks.Authenticity
import Webhooks.VerifierErrors
import Webhooks.Rewriting
import Webhooks.Deliveries
import Webhooks.Urls
import Webhooks.Transport
import Webhooks.UrlPolicy
import Webhooks.TransportRuns
import Webhooks.TransportGuard
import Webhooks.TransportErrors
import Webhooks.RequestUri
import Webhooks.Deadline
import Webhooks.Views
import Webhooks.Serializers
import Webhooks.Errors
import Webhooks.Catalog
import Webhooks.CatalogScan
import Webhooks.Services.Authoring
import Webhooks.Dialable
import Webhooks.Actions
import Webhooks.Listening
import Webhooks.Vocabulary
import Webhooks.Events
import Webhooks.Services.Attempts
import Webhooks.Services.Drain
import Webhooks.Services.Planning
import Webhooks.Store
import Webhooks.System
import Webhooks.System.Runs
import Webhooks.System.Copies
import Webhooks.System.Facts
import Webhooks.System.PayloadCap
import Webhooks.System.Requests
import Webhooks.System.Shape
import Webhooks.System.Validity
import Webhooks.System.Schedule
import Webhooks.System.Absorbing
import Webhooks.Sequential.Attempt
import Webhooks.Sequential.Progress
import Webhooks.Backoff
import Webhooks.Sequential.Draining
import Webhooks.Sequential.Isolation
import Webhooks.Sequential.Responses
import Webhooks.System.Claims
import Webhooks.System.Planning
import Webhooks.System.Redelivery
import Webhooks.Library.CircuitBreaker
import Webhooks.Library.Custody
import Webhooks.Services.Strikes
import Webhooks.Sequential.Strikes
import Webhooks.System.Columns
import Webhooks.System.SwitchedOff
import Webhooks.System.Strikes
import Webhooks.Sequential.Secrets
import Webhooks.Sequential.Scoping
import Webhooks.Sequential.Refusals
import Webhooks.Sequential.SameRules
import Webhooks.System.AfterCommit
import Webhooks.LostRace
import Webhooks.Silenced
import Webhooks.Conflation
import Webhooks.Sequential.Operations
import Webhooks.Sequential.Veil
import Webhooks.Sequential.InStep
import Webhooks.Sequential.Leaks
import Webhooks.Sequential.Echo
import Webhooks.DeliveryTypes
import Webhooks.System.Cap
import Webhooks.Library.Codes
import Webhooks.Encoding
import Webhooks.Library.Rank
import Webhooks.Sequential.Writes
import Webhooks.Sequential.Waiting
import Webhooks.Sequential.Ending
import Webhooks.Sequential.Modes
import Webhooks.System.Checks
import Webhooks.System.Unwatched
import Webhooks.System.Retention
import Webhooks.System.CustomPaths
import Webhooks.Schemas
import Webhooks.System.Conforming
import Webhooks.Sequential.NamedPaths
import Webhooks.Library.Solo
import Webhooks.Sequential.Refinement
import Webhooks.Sequential.Representations
import Webhooks.Sequential.Books
import Webhooks.Sequential.Idempotence
