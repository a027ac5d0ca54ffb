import Payroute.Data.Decimal
import Payroute.Data.Rounding
import Payroute.Data.Table
import Payroute.Effects.Machine
import Payroute.Effects.Program
import Payroute.Effects.Rely
import Payroute.Model.Database
import Payroute.Model.Entities
import Payroute.Model.Statement
import Payroute.Model.World
import Payroute.Services.Support
import Payroute.Services.Ledger
import Payroute.Services.Fx
import Payroute.Services.Payments
import Payroute.Services.Webhooks
import Payroute.Services.Queue
import Payroute.Services.Idempotency
import Payroute.Books.Changes
import Payroute.Isolation.Protection
import Payroute.Isolation.Numbering
import Payroute.Isolation.Discipline
import Payroute.Isolation.Steps
import Payroute.Isolation.Contract
import Payroute.Isolation.Draft
import Payroute.Isolation.Rules
import Payroute.Books.Postings
import Payroute.Isolation.Outside
import Payroute.Books.Settlement
import Payroute.Commits.Relations
import Payroute.Commits.Ledger
import Payroute.Commits.Payments
import Payroute.Commits.Webhooks
import Payroute.Isolation.Autocommit
import Payroute.Commits.Requests
import Payroute.Commits.Queue
import Payroute.Commits.Commands
import Payroute.Runs.Calls
import Payroute.Runs.Concurrent
import Payroute.Books.Balances
import Payroute.Guarantees.Balances
import Payroute.Books.Dossier
import Payroute.Books.Lifecycle
import Payroute.Books.Evolution
import Payroute.Commits.Refinement
import Payroute.Guarantees.ExactlyOnce
import Payroute.Runs.Serial
import Payroute.Guarantees.Agreement
import Payroute.Guarantees.Finality
import Payroute.Guarantees.Redelivery
import Payroute.Guarantees.Overtaking
import Payroute.Runs.Transitions
import Payroute.Guarantees.Trail
import Payroute.Guarantees.Completion
import Payroute.Guarantees.Marker
import Payroute.Guarantees.WellFormed
import Payroute.Books.Limits
import Payroute.Commits.Counting
import Payroute.Guarantees.Limits
import Payroute.Guarantees.DailyLimits
import Payroute.Effects.Solo
import Payroute.Runs.Solo
import Payroute.Runs.Emissions
import Payroute.Guarantees.Events
import Payroute.Runs.References
import Payroute.Runs.Attempts
import Payroute.Guarantees.Submission
import Payroute.Guarantees.DeadLetters
import Payroute.Runs.Creation
import Payroute.Runs.Requests
import Payroute.Runs.Responses
import Payroute.Guarantees.Atomicity
import Payroute.Services.PaymentForm
import Payroute.Guarantees.Forms
import Payroute.Effects.Protocol
import Payroute.Runs.Interceptor
import Payroute.Runs.Keys
import Payroute.Runs.Traffic
import Payroute.Guarantees.Idempotency
import Payroute.Data.Relational
import Payroute.Services.Reconciliation
import Payroute.Guarantees.Reconciliation
import Payroute.Services.Listings
import Payroute.Guarantees.DayQueries
import Payroute.Runs.Pricing
import Payroute.Guarantees.Conversion
import Payroute.Effects.Completes
import Payroute.Runs.Success
import Payroute.Guarantees.Compensation
import Payroute.Runs.Reversal
import Payroute.Runs.Accounts
import Payroute.Guarantees.Refunds
import Payroute.Guarantees.Chargebacks
import Payroute.Guarantees.Rollback
import Payroute.Model.Migrations
import Payroute.Guarantees.History
import Payroute.Isolation.Stamping
import Payroute.Effects.Waiting
import Payroute.Runs.Locking
import Payroute.Runs.Holding
import Payroute.Guarantees.Deadlocks
import Payroute.Runs.Caches
import Payroute.Guarantees.Caching
import Payroute.Guarantees.Cycles
import Payroute.Runs.Tokens
import Payroute.Guarantees.Locks
import Payroute.Runs.Delivery
import Payroute.Guarantees.Retry
import Payroute.Effects.Unwinding
import Payroute.Runs.Schedules
import Payroute.Runs.Ties
import Payroute.Runs.Twins
import Payroute.Guarantees.Interference
import Payroute.Data.Bytes
import Payroute.Data.Json
import Payroute.Services.Intake
import Payroute.Guarantees.Intake
import Payroute.Runs.Knowledge
import Payroute.Runs.Publishing
import Payroute.Runs.Publications
import Payroute.Runs.Processes
import Payroute.Guarantees.Publishing
import Payroute.Data.Positions
import Payroute.Books.AccountBook
import Payroute.Guarantees.Bookkeeping
import Payroute.Guarantees.Discrepancies
import Payroute.Effects.Monitor
import Payroute.Runs.Steady
import Payroute.Runs.Quotes
import Payroute.Guarantees.Quotes
import Payroute.Runs.Attribution
import Payroute.Guarantees.Attribution
import Payroute.Data.Paging
import Payroute.Runs.Recovery
import Payroute.Guarantees.Paging
import Payroute.Guarantees.Recovery
import Payroute.Runs.Records
import Payroute.Guarantees.Details
import Payroute.Effects.Lives
import Payroute.Runs.Refusals
import Payroute.Guarantees.Refusals
import Payroute.Runs.Attempts
