import Payroute.Data.Decimal
import Payroute.Data.Table

/-! # Entities

The rows of the payment database and the values the services exchange. Random
identifiers are numbers, since the code only compares them. Monetary columns are
`NUMERIC(20,8)`: an integer count of units of `10⁻⁸`, printed and read by
`FixedPoint` where the code handles an amount as a string. Timestamps count
microseconds.
-/

namespace Payroute

open KeyedTable

abbrev AccountId := Nat
abbrev TransactionId := Nat
abbrev ProviderReference := Nat

/-- A string of characters the code builds or takes apart. -/
abbrev Text := List Char

/-- The scale of the monetary columns. -/
def scale : Nat := 8

/-- `NUMERIC(20,8)` holds at most twelve digits before the point. -/
def Fits (amount : Int) : Prop := amount.natAbs < 10 ^ 20

instance (amount : Int) : Decidable (Fits amount) := inferInstanceAs (Decidable (_ < _))

/-- The text the database returns for a monetary column. -/
def amountText (amount : Int) : Text := FixedPoint.columnText scale amount

/-- `$1::NUMERIC`. -/
def numericOfText (text : Text) : Option Int := FixedPoint.read? scale text

/-- `amount.toString()` of a number with at most eight decimals. -/
def numberText (units : Nat) : Text := FixedPoint.numberText scale units

/-! ## Transactions -/

inductive TransactionStatus where
  | initiated | processing | completed | failed | reversed | disputed
  deriving DecidableEq, Repr

namespace TransactionStatus

/-- The value of the enumeration as stored and transmitted. -/
def text : TransactionStatus → String
  | initiated => "initiated"
  | processing => "processing"
  | completed => "completed"
  | failed => "failed"
  | reversed => "reversed"
  | disputed => "disputed"

/-- No two statuses have the same text. -/
theorem text_injective {first second : TransactionStatus} (same : first.text = second.text) :
    first = second := by
  cases first <;> cases second <;> first | rfl | exact absurd same (by decide)

/-- `VALID_TRANSITIONS`. -/
def validTransitions : TransactionStatus → List TransactionStatus
  | initiated => [processing, failed]
  | processing => [completed, failed]
  | failed => [reversed]
  | completed => [reversed, disputed]
  | disputed => [reversed, completed]
  | reversed => []

/-- The transition table lists the status whose text is `next`. -/
def Allows (current : TransactionStatus) (next : String) : Prop :=
  next ∈ current.validTransitions.map text

instance (current : TransactionStatus) (next : String) : Decidable (current.Allows next) :=
  inferInstanceAs (Decidable (_ ∈ _))

/-- Asked for a status, the table answers for the status. -/
theorem allows_text_iff (current next : TransactionStatus) :
    current.Allows next.text ↔ next ∈ current.validTransitions := by
  unfold Allows
  rw [List.mem_map]
  constructor
  · rintro ⟨listed, member, same⟩
    rwa [← text_injective same]
  · exact fun member => ⟨next, member, rfl⟩

end TransactionStatus

/-- A row of `transactions`. -/
structure Transaction where
  id : TransactionId
  providerReference : Option ProviderReference
  senderAccountId : AccountId
  recipientAccountId : AccountId
  sourceCurrency : String
  sourceAmount : Int
  destinationCurrency : String
  destinationAmount : Int
  fxRate : Nat
  fxQuoteId : Nat
  status : TransactionStatus
  createdAt : Nat
  completedAt : Option Nat
  deriving DecidableEq, Repr

instance : Keyed Transaction TransactionId := ⟨Transaction.id⟩

/-- The columns an update of a transaction sets. -/
structure TransactionPatch where
  status : Option TransactionStatus := none
  providerReference : Option ProviderReference := none
  completedAt : Option Nat := none
  deriving DecidableEq, Repr

/-- The row version an update writes. -/
def TransactionPatch.apply (patch : TransactionPatch) (row : Transaction) : Transaction :=
  { row with
    status := patch.status.getD row.status
    providerReference := patch.providerReference <|> row.providerReference
    completedAt := patch.completedAt <|> row.completedAt }

/-- A row of `transaction_state_history`; its two states are plain strings. -/
structure TransactionStateHistory where
  transactionId : TransactionId
  fromState : Option String
  toState : String
  timestamp : Nat
  deriving DecidableEq, Repr

/-! ## Accounts and ledger -/

/-- A row of `accounts`. -/
structure Account where
  id : AccountId
  currency : String
  balance : Int
  version : Nat
  deriving DecidableEq, Repr

instance : Keyed Account AccountId := ⟨Account.id⟩

inductive EntryType where
  | debit | credit
  deriving DecidableEq, Repr

/-- A row of `ledger_entries`. -/
structure LedgerEntry where
  id : Nat
  transactionId : TransactionId
  accountId : AccountId
  currency : String
  amount : Int
  entryType : EntryType
  isReversal : Bool
  createdAt : Nat
  deriving DecidableEq, Repr

/-- A row of `fx_quotes`. -/
structure FxQuote where
  id : Nat
  fromCurrency : String
  toCurrency : String
  rate : Nat
  sourceAmount : Int
  destinationAmount : Int
  expiresAt : Nat
  createdAt : Nat
  deriving DecidableEq, Repr

/-! ## Webhooks and idempotency keys -/

/-- A row of `webhook_events`. -/
structure WebhookEvent where
  id : Nat
  providerReference : ProviderReference
  eventType : String
  signatureValid : Bool
  receivedAt : Nat
  processed : Bool
  processedAt : Option Nat
  error : Option String
  deriving DecidableEq, Repr

/-- `UQ_webhook_events_ref_type`: one row for each reference and event type. -/
instance : Keyed WebhookEvent (ProviderReference × String) :=
  ⟨fun event => (event.providerReference, event.eventType)⟩

/-- The columns an update of an event sets. -/
structure WebhookEventPatch where
  error : Option String := none
  processedAt : Option Nat := none
  deriving DecidableEq, Repr

/-- The row version an update writes; a processing time marks the event processed. -/
def WebhookEventPatch.apply (patch : WebhookEventPatch) (row : WebhookEvent) : WebhookEvent :=
  { row with
    error := patch.error <|> row.error
    processed := patch.processedAt.isSome || row.processed
    processedAt := patch.processedAt <|> row.processedAt }

/-- A row of `idempotency_keys`. -/
structure IdempotencyKey where
  key : String
  responseBody : Option Transaction
  statusCode : Option Nat
  expiresAt : Nat
  deriving DecidableEq, Repr

instance : Keyed IdempotencyKey String := ⟨IdempotencyKey.key⟩

/-! ## Requests -/

/-- `CreatePaymentDto` after validation. The amount is a whole number of `10⁻⁸`; the DTO also
admits numbers such as `1.5e-8`, which have more than eight decimals although the part after
the point is short. The two accounts differ; `NotSelfPaymentConstraint` compares their
identifiers as strings, so it takes one account spelled in two letter cases for two. -/
structure CreatePaymentDto where
  senderAccountId : AccountId
  recipientAccountId : AccountId
  sourceCurrency : String
  destinationCurrency : String
  amount : Nat
  isPositive : 0 < amount
  notSelfPayment : senderAccountId ≠ recipientAccountId

structure RefundPaymentDto where
  reason : String

structure DisputePaymentDto where
  reason : String

inductive ResolveAction where
  | reverse | reject
  deriving DecidableEq, Repr

structure ResolveDisputeDto where
  action : ResolveAction

structure WebhookPayloadDto where
  reference : ProviderReference
  status : String
  deriving DecidableEq, Repr

/-- `@IsIn(['completed', 'failed', 'processing'])`. -/
def WebhookPayloadDto.Admitted (payload : WebhookPayloadDto) : Prop :=
  payload.status ∈ ["completed", "failed", "processing"]

/-- A date string of a request: a calendar date, counted from 1 January 1970, or a date
with a time and a zone, in milliseconds since then. -/
inductive DateString where
  | date (day : Int)
  | dateTime (ms : Int)
  deriving DecidableEq, Repr

/-- The query string of a listing, with its defaults. -/
structure ListPaymentsDto where
  status : Option TransactionStatus := none
  startDate : Option DateString := none
  endDate : Option DateString := none
  page : Nat := 1
  limit : Nat := 20
  deriving DecidableEq, Repr

/-! ## Listings and statistics -/

/-- A listed payment with the accounts it is joined with. -/
structure ListedPayment where
  payment : Transaction
  senderAccount : Option Account
  recipientAccount : Option Account
  deriving DecidableEq, Repr

structure Pagination where
  total : Nat
  page : Nat
  limit : Nat
  totalPages : Nat
  deriving DecidableEq, Repr

/-- What `findAll` returns. -/
structure PaymentsPage where
  data : List ListedPayment
  pagination : Pagination
  deriving DecidableEq, Repr

/-- What `getStats` returns. -/
structure StatsResult where
  counts : List (TransactionStatus × Nat)
  totalVolumeByStatus : List (TransactionStatus × Text)
  stuckCount : Nat
  stuckThresholdMinutes : Nat
  deriving DecidableEq, Repr

/-! ## Queue jobs and events -/

/-- What a job of the provider queue carries. -/
structure ProviderJobData where
  transactionId : TransactionId
  sourceAmount : Text
  sourceCurrency : String
  destinationCurrency : String
  senderAccountId : AccountId
  idempotencyKey : String
  deriving DecidableEq, Repr

/-- A job's identifier: the queue's own number, or the one of a retry sweep. -/
inductive JobId where
  | serial (n : Nat)
  | retry (transactionId : TransactionId)
  deriving DecidableEq, Repr

inductive JobState where
  | waiting | active | delayed | completed | failed
  deriving DecidableEq, Repr

/-- A job of the provider queue. -/
structure ProviderJob where
  id : JobId
  data : ProviderJobData
  attempts : Nat
  attemptsMade : Nat
  state : JobState
  deriving DecidableEq, Repr

instance : Keyed ProviderJob JobId := ⟨ProviderJob.id⟩

/-- What the event emitter is given. The failure of a payment that was never submitted has the
empty string for a reference, here `none`. -/
inductive PaymentEvent where
  | initiated (transactionId : TransactionId) (senderAccountId : AccountId) (sourceAmount : Text)
      (sourceCurrency destinationCurrency idempotencyKey : String)
  | completed (transactionId : TransactionId) (recipientAccountId : AccountId)
      (destinationAmount : Text) (destinationCurrency : String)
      (providerReference : ProviderReference)
  | failed (transactionId : TransactionId) (providerReference : Option ProviderReference)
      (reason : String)
  | refunded (transactionId : TransactionId) (reason : String)
  deriving DecidableEq, Repr

/-- The provider's scheduled callback; its status is always `completed`. -/
structure ProviderCallback where
  reference : ProviderReference
  amount : Text
  currency : String
  deriving DecidableEq, Repr

/-- Errors thrown by the services, the database and the connections. -/
inductive Failure where
  | badRequest (text : String)
  | notFound (text : String)
  | conflict (text : String)
  | lockNotAvailable
  | serialization
  | checkViolation
  | numericOverflow
  | invalidNumeric
  | foreignKey
  | unavailable
  deriving DecidableEq, Repr

namespace Failure

/-- `err.message`. -/
def message : Failure → String
  | badRequest text => text
  | notFound text => text
  | conflict text => text
  | lockNotAvailable => "could not obtain lock on row"
  | serialization => "could not serialize access due to concurrent update"
  | checkViolation => "new row violates check constraint"
  | numericOverflow => "numeric field overflow"
  | invalidNumeric => "invalid input syntax for type numeric"
  | foreignKey => "insert or update violates foreign key constraint"
  | unavailable => "connection terminated"

/-- `err.message?.includes('could not obtain lock')`; only the database's own
message for a refused `NOWAIT` contains it. -/
def couldNotObtainLock : Failure → Bool
  | lockNotAvailable => true
  | _ => false

end Failure
end Payroute
