import Payroute.Commits.Commands
import Payroute.Services.Idempotency

/-! # What the operations call

Most code of the backend neither submits payments nor stores provider references
nor touches webhook events, idempotency keys or cached statistics.
-/

namespace Payroute

open EffectSystem Program

namespace Operation

/-- The statement stores no reference and leaves webhook events and idempotency
keys alone. -/
def OrdinaryStatement : Statement → Prop
  | .updateTransaction _ patch => patch.providerReference = none
  | .insertEvent _ | .updateEvent _ _ | .purgeEvents _ => False
  | .insertKey _ _ | .updateKey _ _ _ | .purgeKeys _ | .select (.idempotencyKey _) => False
  | _ => True

/-- A call of ordinary code. -/
def Ordinary : Operation → Prop
  | .sql statement => OrdinaryStatement statement
  | .acquireLock (.idempotency _) _ | .releaseLock (.idempotency _) _ => False
  | .cacheGet (.rate _ _) | .cacheSet (.rate _ _) _ _ => True
  | .cacheGet _ | .cacheSet _ _ _ => False
  | .cacheDelete key => key = .stats
  | .observe _ | .scheduleCallback _ _ => False
  | _ => True

/-- A call of the code inside the database transactions. -/
def Inner : Operation → Prop
  | .sql statement => OrdinaryStatement statement
  | .cacheGet (.rate _ _) | .cacheSet (.rate _ _) _ _ | .now => True
  | _ => False

/-- Code inside the transactions is ordinary code. -/
theorem Inner.ordinary {op : Operation} (inner : op.Inner) : op.Ordinary := by
  cases op with
  | sql statement => exact inner
  | cacheGet key =>
      cases key with
      | rate => trivial
      | _ => exact inner.elim
  | cacheSet key value ttlMs =>
      cases key with
      | rate => trivial
      | _ => exact inner.elim
  | now => trivial
  | _ => exact inner.elim

/-- A call of the code inside the database transactions that opens no payment. -/
def Booking : Operation → Prop
  | .sql (.insertTransaction _) | .sql (.insertQuote _) => False
  | .sql statement => OrdinaryStatement statement
  | .now => True
  | _ => False

/-- An ordinary call of an operation that opens no payment. -/
def Serving : Operation → Prop
  | .sql (.insertTransaction _) | .sql (.insertQuote _) => False
  | .cacheGet _ | .cacheSet _ _ _ => False
  | op => op.Ordinary

/-- Booking calls are calls of the code inside the transactions. -/
theorem Booking.inner {op : Operation} (booking : op.Booking) : op.Inner := by
  cases op with
  | sql statement =>
      cases statement with
      | insertTransaction _ | insertQuote _ => exact booking.elim
      | _ => exact booking
  | now => trivial
  | _ => exact booking.elim

/-- They are calls of operations that open no payment. -/
theorem Booking.serving {op : Operation} (booking : op.Booking) : op.Serving := by
  cases op with
  | sql statement =>
      cases statement with
      | insertTransaction _ | insertQuote _ => exact booking.elim
      | _ => exact booking
  | now => trivial
  | _ => exact booking.elim

/-- An operation that opens no payment is ordinary code. -/
theorem Serving.ordinary {op : Operation} (serving : op.Serving) : op.Ordinary := by
  cases op with
  | sql statement =>
      cases statement with
      | insertTransaction _ | insertQuote _ => exact serving.elim
      | _ => exact serving
  | cacheGet _ | cacheSet _ _ _ => exact serving.elim
  | _ => exact serving

/-- A call of the code that handles a delivery. -/
def Delivering : Operation → Prop
  | .sql (.insertEvent _) | .sql (.updateEvent _ _) => True
  | op => op.Serving

/-- It does nothing that the handling of a delivery may not do. -/
theorem Serving.delivering {op : Operation} (serving : op.Serving) : op.Delivering := by
  cases op with
  | sql statement =>
      cases statement with
      | insertEvent _ | updateEvent _ _ => trivial
      | _ => exact serving
  | _ => exact serving

/-- A call of the code inside the transaction of a delivery. -/
def Handling (op : Operation) : Prop :=
  op.Inner ∨ ∃ id patch, op = .sql (.updateEvent id patch)

/-- A call of that code, which creates no payment. -/
def Recording (op : Operation) : Prop :=
  op.Booking ∨ ∃ id patch, op = .sql (.updateEvent id patch)

/-- What is recorded of a delivery is done by the code that handles it inside its transaction. -/
theorem Recording.handling {op : Operation} (recording : op.Recording) : op.Handling :=
  recording.imp_left Booking.inner

/-- It is a call of the code that handles the delivery. -/
theorem Recording.delivering {op : Operation} (recording : op.Recording) : op.Delivering := by
  rcases recording with booking | ⟨id, patch, rfl⟩
  · exact booking.serving.delivering
  · trivial

/-- A call that stays inside an open transaction and only touches the database and the
cache. -/
def Inside : Operation → Prop
  | .sql _ | .cacheGet _ | .cacheSet _ _ _ | .now => True
  | _ => False

/-- Code inside the transactions touches nothing but the database and the cache. -/
theorem Inner.inside {op : Operation} (inner : op.Inner) : op.Inside := by
  cases op with
  | sql _ | cacheGet _ | cacheSet _ _ _ | now => trivial
  | _ => exact inner.elim

/-- Nor does the code that handles a delivery inside its transaction. -/
theorem Handling.inside {op : Operation} (handling : op.Handling) : op.Inside := by
  rcases handling with inner | ⟨id, patch, rfl⟩
  · exact inner.inside
  · trivial

end Operation

section Programs

variable {α : Type}

/-- Programs that make ordinary calls only. -/
abbrev Plain (body : Service α) : Prop := body.OnlyCalls Operation.Ordinary

/-- Programs for the inside of a database transaction. -/
abbrev Inner (body : Service α) : Prop := body.OnlyCalls Operation.Inner

/-- Programs for the inside of a database transaction that open no payment. -/
abbrev Booking (body : Service α) : Prop := body.OnlyCalls Operation.Booking

/-- Programs of the operations that open no payment. -/
abbrev Serving (body : Service α) : Prop := body.OnlyCalls Operation.Serving

/-- Code that may run inside a transaction may run outside of one. -/
theorem Inner.plain {body : Service α} (inner : Inner body) : Plain body :=
  inner.mono fun _ => Operation.Inner.ordinary

/-- Code that only books may run where quotes and payments are inserted. -/
theorem Booking.inner {body : Service α} (booking : Booking body) : Inner body :=
  booking.mono fun _ => Operation.Booking.inner

/-- Code that opens no payment is ordinary. -/
theorem Serving.plain {body : Service α} (serving : Serving body) : Plain body :=
  serving.mono fun _ => Operation.Serving.ordinary

/-- A single ordinary call. -/
theorem plain_call {op : Operation} (ordinary : op.Ordinary) : Plain (call op) :=
  onlyCalls_perform ordinary

/-- A single call of the code inside the transactions. -/
theorem inner_call {op : Operation} (inner : op.Inner) : Inner (call op) := onlyCalls_perform inner

/-- A single booking call. -/
theorem booking_call {op : Operation} (booking : op.Booking) : Booking (call op) :=
  onlyCalls_perform booking

/-- A single call of an operation that opens no payment. -/
theorem serving_call {op : Operation} (serving : op.Serving) : Serving (call op) :=
  onlyCalls_perform serving

variable {allowed : Operation → Prop}

/-- A check calls nothing. -/
theorem onlyCalls_require (condition : Prop) [Decidable condition] (failure : Failure) :
    (require condition failure).OnlyCalls allowed := by
  unfold require
  by_cases met : condition
  · rw [if_pos met]
    trivial
  · rw [if_neg met]
    trivial

/-- Nor does the error for a row that was not found. -/
theorem onlyCalls_orThrow (failure : Failure) (found : Option α) :
    (orThrow failure found).OnlyCalls allowed := by
  cases found with
  | none => trivial
  | some value => trivial

/-- A transaction calls what its body calls, and begins and ends. -/
theorem onlyCalls_transaction {isolation : Isolation} {body : Service α}
    (begins : allowed (.begin isolation)) (commits : allowed .commit) (ends : allowed .rollback)
    (only : body.OnlyCalls allowed) : (transaction isolation body).OnlyCalls allowed := by
  refine .tryCatch ?_ fun error => ?_
  · exact .bind (onlyCalls_perform begins) fun _ => only.bind fun _ =>
      .bind (onlyCalls_perform commits) fun _ => trivial
  · exact .bind (onlyCalls_perform ends) fun _ => trivial

/-- A transaction around ordinary inner code is ordinary. -/
theorem plain_transaction {isolation : Isolation} {body : Service α} (inner : Inner body) :
    Plain (transaction isolation body) :=
  onlyCalls_transaction trivial trivial trivial inner.plain

/-- A transaction around booking code opens no payment. -/
theorem serving_transaction {isolation : Isolation} {body : Service α} (booking : Booking body) :
    Serving (transaction isolation body) :=
  onlyCalls_transaction trivial trivial trivial (booking.mono fun _ => Operation.Booking.serving)

end Programs

namespace AccountsService

/-- The lock of an account row books nothing else. -/
theorem booking_lockForUpdate (id : AccountId) : Booking (lockForUpdate id) :=
  .bind (booking_call trivial) fun _ => onlyCalls_orThrow _ _

end AccountsService

namespace LedgerService

/-- A debit updates one balance and inserts one entry. -/
theorem booking_debit (accountId : AccountId) (amount : Text) (transactionId : TransactionId) :
    Booking (debit accountId amount transactionId) :=
  .bind (booking_call trivial) fun _ => .bind (onlyCalls_orThrow _ _) fun _ =>
    .bind (booking_call trivial) fun _ => .bind (onlyCalls_require _ _) fun _ =>
      booking_call trivial

/-- So does a credit. -/
theorem booking_credit (accountId : AccountId) (amount : Text) (transactionId : TransactionId) :
    Booking (credit accountId amount transactionId) :=
  .bind (booking_call trivial) fun _ => .bind (onlyCalls_orThrow _ _) fun _ =>
    .bind (booking_call trivial) fun _ => .bind (booking_call trivial) fun _ => trivial

/-- The compensation loop inserts entries and updates balances, nothing else. -/
theorem onlyCalls_compensateAll {allowed : Operation → Prop}
    (entries : ∀ draft, allowed (.sql (.insertEntry draft)))
    (balances : ∀ direction amount id, allowed (.sql (.updateBalance direction amount id)))
    (transactionId : TransactionId) (debits : List LedgerEntry) :
    (compensateAll transactionId debits).OnlyCalls allowed := by
  induction debits with
  | nil => trivial
  | cons debit rest ih =>
      have once : (compensate transactionId debit).OnlyCalls allowed :=
        .bind (onlyCalls_perform (entries _)) fun _ =>
          .bind (onlyCalls_perform (balances _ _ _)) fun _ => trivial
      exact .bind once fun _ => .bind ih fun _ => trivial

/-- A compensation books. -/
theorem booking_createCompensatingEntries (transactionId : TransactionId) :
    Booking (createCompensatingEntries transactionId) :=
  .bind (booking_call trivial) fun _ =>
    onlyCalls_compensateAll (fun _ => trivial) (fun _ _ _ => trivial) _ _

/-- The look for a reversal reads entries only. -/
theorem booking_hasBeenReversed (transactionId : TransactionId) :
    Booking (hasBeenReversed transactionId) :=
  .bind (booking_call trivial) fun _ => trivial

end LedgerService

namespace FxService

/-- A rate comes from the cache or the table of rates. -/
theorem inner_getRate (fromCurrency toCurrency : String) :
    Inner (getRate fromCurrency toCurrency) := by
  unfold getRate
  by_cases same : fromCurrency = toCurrency
  · rw [if_pos same]
    trivial
  · rw [if_neg same]
    refine .bind (inner_call trivial) fun cached => ?_
    have computes : Inner (do
        let rate ← orThrow
          (.badRequest s!"Unsupported currency pair: {fromCurrency} → {toCurrency}")
          (simulatedRates fromCurrency toCurrency)
        call (.cacheSet (.rate fromCurrency toCurrency) (.rate rate) rateCacheTtlMs)
        return rate) :=
      .bind (onlyCalls_orThrow _ _) fun _ => .bind (inner_call trivial) fun _ => trivial
    cases cached with
    | none => exact computes
    | some value =>
        cases value with
        | rate units => trivial
        | response _ _ | page _ | stats _ => exact computes

/-- A quote is made inside the transaction of its payment. -/
theorem inner_createQuote (fromCurrency toCurrency : String) (sourceAmount : Text) :
    Inner (createQuote fromCurrency toCurrency sourceAmount) :=
  .bind (inner_getRate _ _) fun _ => .bind (inner_call trivial) fun _ =>
    inner_call trivial

end FxService

namespace PaymentsService

/-- The invalidation drops the cached statistics only. -/
theorem serving_invalidatePaymentCaches : Serving invalidatePaymentCaches :=
  .bind (.swallow (serving_call rfl)) fun _ =>
    .swallow (serving_call trivial)

/-- It is ordinary code. -/
theorem plain_invalidatePaymentCaches : Plain invalidatePaymentCaches :=
  serving_invalidatePaymentCaches.plain

/-- The sender's row is locked without further calls. -/
theorem booking_lockSender (id : AccountId) : Booking (lockSender id) := by
  refine .tryCatch (AccountsService.booking_lockForUpdate id) fun error => ?_
  by_cases refused : error.couldNotObtainLock = true
  · rw [if_pos refused]
    trivial
  · rw [if_neg refused]
    trivial

/-- The limits are checked by reading. -/
theorem booking_checkLimits (deployment : Deployment) (dto : CreatePaymentDto) :
    Booking (checkLimits deployment dto) :=
  .bind (onlyCalls_require _ _) fun _ => .bind (booking_call trivial) fun _ =>
    .bind (booking_call trivial) fun _ => .bind (onlyCalls_require _ _) fun _ =>
      .bind (booking_call trivial) fun _ => onlyCalls_require _ _

/-- The recipient is checked by reading. -/
theorem booking_checkRecipient (dto : CreatePaymentDto) : Booking (checkRecipient dto) :=
  .bind (booking_call trivial) fun _ => .bind (onlyCalls_orThrow _ _) fun _ =>
    onlyCalls_require _ _

/-- The body of `createPayment` runs inside its transaction. -/
theorem inner_reserveFunds (deployment : Deployment) (dto : CreatePaymentDto) :
    Inner (reserveFunds deployment dto) :=
  .bind (booking_lockSender _).inner fun _ => .bind (onlyCalls_require _ _) fun _ =>
    .bind (booking_checkRecipient dto).inner fun _ =>
      .bind (booking_checkLimits deployment dto).inner fun _ =>
      .bind (FxService.inner_createQuote _ _ _) fun _ => .bind (inner_call trivial) fun _ =>
        .bind (onlyCalls_require _ _) fun _ => .bind (inner_call trivial) fun _ =>
          .bind (inner_call trivial) fun _ =>
            .bind (LedgerService.booking_debit _ _ _).inner fun _ =>
            .bind (inner_call rfl) fun _ => .bind (inner_call trivial) fun _ => trivial

/-- The whole transaction of `createPayment` is ordinary code. -/
theorem plain_commitPayment (deployment : Deployment) (dto : CreatePaymentDto) :
    Plain (commitPayment deployment dto) := by
  refine .bind (plain_call trivial) fun _ => .bind (onlyCalls_orThrow _ _) fun _ => ?_
  refine .tryFinally ?_ (.swallow (plain_call trivial))
  exact plain_transaction (inner_reserveFunds deployment dto)

/-- `createPayment` makes ordinary calls only. -/
theorem plain_createPayment (deployment : Deployment) (dto : CreatePaymentDto)
    (idempotencyKey : String) : Plain (createPayment deployment dto idempotencyKey) :=
  .bind (plain_commitPayment deployment dto) fun _ => .bind (plain_call trivial) fun _ =>
    .bind plain_invalidatePaymentCaches fun _ => trivial

/-- The payment of a request is read by one query. -/
theorem serving_findTransaction (id : TransactionId) : Serving (findTransaction id) :=
  .bind (serving_call trivial) fun _ => onlyCalls_orThrow _ _

/-- A charge back takes the amount from the recipient and returns it to the sender. -/
theorem booking_chargeBack (current : Transaction) : Booking (chargeBack current) := by
  refine .bind (LedgerService.booking_hasBeenReversed _) fun alreadyReversed => ?_
  cases alreadyReversed with
  | true => trivial
  | false =>
      exact .bind (LedgerService.booking_debit _ _ _) fun _ =>
        .bind (LedgerService.booking_credit _ _ _) fun _ => trivial

/-- What returning the funds of a payment reads and writes. -/
theorem onlyCalls_returnFunds {allowed : Operation → Prop} (id : TransactionId)
    (counts : allowed (.sql (.select (.reversalCount id))))
    (debits : allowed (.sql (.select (.originalDebits id))))
    (entries : ∀ draft, allowed (.sql (.insertEntry draft)))
    (balances : ∀ direction amount id, allowed (.sql (.updateBalance direction amount id))) :
    (returnFunds id).OnlyCalls allowed := by
  refine .bind (.bind (onlyCalls_perform counts) fun _ => trivial) fun alreadyReversed => ?_
  cases alreadyReversed with
  | true => trivial
  | false =>
      exact .bind (.bind (onlyCalls_perform debits) fun _ =>
        LedgerService.onlyCalls_compensateAll entries balances _ _) fun _ => trivial

/-- The guarded return of the funds books. -/
theorem booking_returnFunds (id : TransactionId) : Booking (returnFunds id) :=
  onlyCalls_returnFunds id trivial trivial (fun _ => trivial) fun _ _ _ => trivial

/-- The row and its history say that the payment is reversed. -/
theorem booking_markReversed (id : TransactionId) (current : Transaction) :
    Booking (markReversed id current) :=
  .bind (booking_call rfl) fun _ => booking_call trivial

/-- The body of the refund books. -/
theorem booking_refundBody (id : TransactionId) : Booking (refundBody id) := by
  have locks : Booking (lockForRefund id) := by
    refine .tryCatch (booking_call trivial) fun error => ?_
    by_cases refused : error.couldNotObtainLock = true
    · rw [if_pos refused]
      trivial
    · rw [if_neg refused]
      trivial
  refine .bind locks fun _ => .bind (onlyCalls_orThrow _ _) fun current =>
    .bind (onlyCalls_require _ _) fun _ => .bind ?_ fun _ => booking_markReversed _ _
  unfold refundLedger
  by_cases completed : current.status = .completed
  · rw [if_pos completed]
    exact booking_chargeBack current
  · rw [if_neg completed]
    exact booking_returnFunds id

/-- A refund opens no payment. -/
theorem serving_refundPayment (id : TransactionId) (dto : RefundPaymentDto) :
    Serving (refundPayment id dto) := by
  refine .bind (serving_findTransaction id) fun _ => .bind (onlyCalls_require _ _) fun _ =>
    .bind (serving_call trivial) fun _ => .bind (onlyCalls_orThrow _ _) fun _ =>
      .bind (.tryFinally ?_ (.swallow (serving_call trivial))) fun _ =>
        .bind (serving_call trivial) fun _ => .bind serving_invalidatePaymentCaches fun _ =>
          serving_call trivial
  exact serving_transaction (booking_refundBody id)

/-- The body of a dispute books nothing but the status. -/
theorem booking_raiseBody (id : TransactionId) (row : Transaction) : Booking (raiseBody id row) :=
  .bind (booking_call rfl) fun _ => booking_call trivial

/-- A dispute opens no payment. -/
theorem serving_raiseDispute (id : TransactionId) (dto : DisputePaymentDto) :
    Serving (raiseDispute id dto) :=
  .bind (serving_findTransaction id) fun _ => .bind (onlyCalls_require _ _) fun _ =>
    .bind (serving_transaction (booking_raiseBody _ _)) fun _ =>
      .bind serving_invalidatePaymentCaches fun _ => serving_call trivial

/-- The body of a dispute resolved with a reversal books. -/
theorem booking_reverseBody (id : TransactionId) : Booking (reverseBody id) :=
  .bind (booking_call trivial) fun _ => .bind (onlyCalls_orThrow _ _) fun _ =>
    .bind (onlyCalls_require _ _) fun _ => .bind (booking_chargeBack _) fun _ =>
      booking_markReversed _ _

/-- The body of a rejected dispute books nothing but the status. -/
theorem booking_rejectBody (id : TransactionId) : Booking (rejectBody id) :=
  .bind (booking_call rfl) fun _ => booking_call trivial

/-- The resolution of a dispute opens no payment. -/
theorem serving_resolveDispute (id : TransactionId) (dto : ResolveDisputeDto) :
    Serving (resolveDispute id dto) := by
  refine .bind (serving_findTransaction id) fun _ => .bind (onlyCalls_require _ _) fun _ =>
    .bind ?_ fun _ => .bind serving_invalidatePaymentCaches fun _ => serving_call trivial
  obtain ⟨action⟩ := dto
  cases action with
  | reverse =>
      refine .bind (serving_call trivial) fun _ => .bind (onlyCalls_orThrow _ _) fun _ =>
        .bind (.tryFinally ?_ (.swallow (serving_call trivial))) fun _ =>
          serving_call trivial
      exact serving_transaction (booking_reverseBody id)
  | reject => exact serving_transaction (booking_rejectBody id)

end PaymentsService

namespace DeadLetterHandler

/-- What failing a payment reads and writes. -/
theorem onlyCalls_exhaustedBody {allowed : Operation → Prop} (id : TransactionId)
    (locks : allowed (.sql (.lockTransaction id false)))
    (returns : (PaymentsService.returnFunds id).OnlyCalls allowed)
    (updates : allowed (.sql (.updateTransaction id { status := some .failed })))
    (records : ∀ fromState toState, allowed (.sql (.insertHistory id fromState toState))) :
    (exhaustedBody id).OnlyCalls allowed := by
  refine .bind (onlyCalls_perform locks) fun found => ?_
  cases found with
  | none => trivial
  | some txn =>
      change (if txn.status = .processing then _ else _ : Service Unit).OnlyCalls allowed
      by_cases processing : txn.status = .processing
      · rw [if_pos processing]
        exact .bind returns fun _ => .bind (onlyCalls_perform updates) fun _ =>
          onlyCalls_perform (records _ _)
      · rw [if_neg processing]
        trivial

/-- The body of the dead-letter handler books. -/
theorem booking_exhaustedBody (id : TransactionId) : Booking (exhaustedBody id) :=
  onlyCalls_exhaustedBody id trivial (PaymentsService.booking_returnFunds id) rfl
    fun _ _ => trivial

/-- The dead-letter handler opens no payment. -/
theorem serving_onProviderJobExhausted (jobId : JobId) (failedReason : String) :
    Serving (onProviderJobExhausted jobId failedReason) := by
  refine .bind (serving_call trivial) fun found => ?_
  cases found with
  | none => trivial
  | some job =>
      change Serving (if job.attemptsMade < job.attempts then _ else _)
      by_cases left : job.attemptsMade < job.attempts
      · rw [if_pos left]
        trivial
      · rw [if_neg left]
        exact .swallow (.bind (serving_transaction (booking_exhaustedBody _)) fun _ =>
          serving_call trivial)

end DeadLetterHandler

namespace WebhooksService

/-- Programs for the inside of the transaction of a delivery. -/
abbrev Recording {α : Type} (body : Service α) : Prop := body.OnlyCalls Operation.Recording

/-- Programs that handle a delivery. -/
abbrev Delivering {α : Type} (body : Service α) : Prop := body.OnlyCalls Operation.Delivering

/-- What books also records. -/
theorem recording_of_booking {α : Type} {body : Service α} (booking : Booking body) :
    Recording body :=
  booking.mono fun _ => .inl

/-- The stored event is updated when its delivery was handled. -/
theorem recording_updateEvent (id : Nat) (patch : WebhookEventPatch) :
    Recording (sql (.updateEvent id patch)) := onlyCalls_perform (.inr ⟨id, patch, rfl⟩)

/-- What an operation without a payment of its own does, a delivery may do. -/
theorem delivering_of_serving {α : Type} {body : Service α} (serving : Serving body) :
    Delivering body :=
  serving.mono fun _ => Operation.Serving.delivering

/-- A delivery settles its payment by booking. -/
theorem booking_settle (transaction : Transaction) (status : String) :
    Booking (settle transaction status) := by
  unfold settle
  by_cases completed : status = "completed"
  · rw [if_pos completed]
    exact .bind (LedgerService.booking_credit _ _ _) fun _ => .bind (booking_call trivial) fun _ =>
      booking_call rfl
  · rw [if_neg completed]
    by_cases failed : status = "failed"
    · rw [if_pos failed]
      exact .bind (LedgerService.booking_createCompensatingEntries _) fun _ => booking_call rfl
    · rw [if_neg failed]
      trivial

/-- The transaction of a delivery books and marks the event. -/
theorem recording_webhookBody (payload : WebhookPayloadDto) (eventId : Nat) :
    Recording (webhookBody payload eventId) := by
  refine .bind (recording_of_booking (booking_call trivial)) fun found => ?_
  cases found with
  | none => exact .bind (recording_updateEvent _ _) fun _ => trivial
  | some transaction =>
      refine .bind ?_ fun _ => trivial
      exact .bind (onlyCalls_require _ _) fun _ =>
        .bind (recording_of_booking (booking_settle _ _)) fun _ =>
          .bind (recording_of_booking (booking_call trivial)) fun _ =>
            .bind (recording_of_booking (booking_call trivial)) fun _ => recording_updateEvent _ _

/-- The announcement emits events and drops cached statistics. -/
theorem serving_announce (row : Transaction) (payload : WebhookPayloadDto) :
    Serving (announce row payload) := by
  unfold announce
  by_cases completed : payload.status = "completed"
  · rw [if_pos completed]
    exact serving_call trivial
  · rw [if_neg completed]
    by_cases failed : payload.status = "failed"
    · rw [if_pos failed]
      exact serving_call trivial
    · rw [if_neg failed]
      trivial

/-- A delivery stores its event and settles its payment. -/
theorem delivering_processWebhook (deployment : Deployment) (payload : WebhookPayloadDto)
    (rawBody : List UInt8) (signature : String) :
    Delivering (processWebhook deployment payload rawBody signature) := by
  have marks : ∀ id patch, Delivering (sql (.updateEvent id patch)) :=
    fun id patch => onlyCalls_perform trivial
  have applies : ∀ eventId, Delivering (applyEvent payload eventId) := by
    intro eventId
    refine .tryCatch ?_ fun error => .bind (.swallow (marks _ _)) fun _ => trivial
    exact onlyCalls_transaction trivial trivial trivial
      ((recording_webhookBody payload eventId).mono fun _ => Operation.Recording.delivering)
  refine .bind (onlyCalls_perform trivial) fun inserted => ?_
  cases inserted with
  | none => trivial
  | some event =>
      change Delivering (handleEvent payload _ event.id)
      unfold handleEvent
      split
      · refine .bind (applies _) fun processed => ?_
        cases processed with
        | none => trivial
        | some row =>
            exact .bind (delivering_of_serving PaymentsService.serving_invalidatePaymentCaches)
              fun _ => delivering_of_serving (serving_announce row payload)
      · exact marks _ _

end WebhooksService

/-! ## Whole operations -/

section Operations

variable {allowed : Operation → Prop}

/-- The provider's worker reads the payment, submits it, stores the reference and announces
it. -/
theorem ProviderProcessor.onlyCalls_process (data : ProviderJobData)
    (reads : ∀ query, allowed (.sql (.select query))) (sleeps : ∀ ms, allowed (.sleep ms))
    (submits : ∀ amount currency, allowed (.scheduleCallback amount currency))
    (stores : ∀ id patch, allowed (.sql (.updateTransaction id patch)))
    (emits : ∀ event, allowed (.emit event)) : (process data).OnlyCalls allowed := by
  refine .bind (onlyCalls_perform (reads _)) fun found => ?_
  cases found with
  | none => trivial
  | some txn =>
      change (if eligible txn then _ else _ : Service Unit).OnlyCalls allowed
      by_cases stands : eligible txn
      · rw [if_pos stands]
        exact .bind (.bind (onlyCalls_perform (sleeps _)) fun _ => onlyCalls_perform (submits _ _))
          fun _ => .bind (onlyCalls_perform (stores _ _)) fun _ => onlyCalls_perform (emits _)
      · rw [if_neg stands]
        trivial

/-- The operations besides that worker and the deliveries make ordinary calls, sweep, or
purge old rows. -/
theorem Command.onlyCalls (deployment : Deployment)
    (ordinary : ∀ op : Operation, op.Ordinary → allowed op)
    (sweeping : ∀ op : Operation, op.Sweeping → allowed op)
    (keys : ∀ now, allowed (.sql (.purgeKeys now)))
    (events : ∀ cutoff, allowed (.sql (.purgeEvents cutoff))) (command : Command)
    (process : ∀ data, command = .process data →
      (ProviderProcessor.process data).OnlyCalls allowed)
    (delivers : ∀ payload rawBody signature, command = .processWebhook payload rawBody signature →
      (WebhooksService.processWebhook deployment payload rawBody signature).OnlyCalls allowed) :
    (command.program deployment).OnlyCalls allowed := by
  cases command with
  | createPayment dto idempotencyKey =>
      exact .bind ((PaymentsService.plain_createPayment deployment dto idempotencyKey).mono
        ordinary) fun _ => trivial
  | process data => exact process data rfl
  | processWebhook payload rawBody signature => exact delivers payload rawBody signature rfl
  | onProviderJobExhausted jobId failedReason =>
      exact (DeadLetterHandler.serving_onProviderJobExhausted jobId failedReason).plain.mono
        ordinary
  | refundPayment id dto =>
      exact .bind ((PaymentsService.serving_refundPayment id dto).plain.mono ordinary)
        fun _ => trivial
  | raiseDispute id dto =>
      exact .bind ((PaymentsService.serving_raiseDispute id dto).plain.mono ordinary)
        fun _ => trivial
  | resolveDispute id dto =>
      exact .bind ((PaymentsService.serving_resolveDispute id dto).plain.mono ordinary)
        fun _ => trivial
  | retryStuckPayments =>
      exact StuckPaymentScheduler.sweeping_retryStuckPayments.mono sweeping
  | cleanupExpiredIdempotencyKeys =>
      exact .bind (onlyCalls_perform (ordinary .now trivial)) fun _ => onlyCalls_perform (keys _)
  | cleanupOldProcessedWebhookEvents =>
      exact .bind (onlyCalls_perform (ordinary .now trivial)) fun _ => onlyCalls_perform (events _)

end Operations

/-! ## The parts of a request -/

namespace IdempotencyInterceptor

variable {allowed : Operation → Prop} (key : String) {token : LockToken} {response : Response}

/-- A cached response is read from the cache. -/
theorem onlyCalls_getResponse (reads : allowed (.cacheGet (.idempotency key))) :
    (getResponse key).OnlyCalls allowed := by
  refine .bind (onlyCalls_perform reads) fun cached => ?_
  cases cached with
  | none => trivial
  | some value =>
      cases value with
      | _ => trivial

/-- A request that waits for a response sleeps and reads the cache. -/
theorem onlyCalls_poll (remaining : Nat) (reads : allowed (.cacheGet (.idempotency key)))
    (waits : allowed (.sleep 250)) : (poll key remaining).OnlyCalls allowed := by
  induction remaining with
  | zero => trivial
  | succ remaining ih =>
      refine .bind (onlyCalls_perform waits) fun _ => ?_
      refine .bind (onlyCalls_getResponse key reads) fun polled => ?_
      cases polled with
      | none => exact ih
      | some response => trivial

variable {key}

/-- The look for a recorded response goes on to cache it or to insert the key's row. -/
theorem onlyCalls_preCheck (reads : allowed (.sql (.select (.idempotencyKey key))))
    (caches : ∀ value, allowed (.cacheSet (.idempotency key) value idempotencyTtlMs))
    (releases : allowed (.releaseLock (.idempotency key) token))
    (clock : allowed .now) (inserts : ∀ expiresAt, allowed (.sql (.insertKey key expiresAt))) :
    (preCheck key token).OnlyCalls allowed := by
  refine .tryCatch (.bind (onlyCalls_perform reads) fun row => ?_) fun _ => trivial
  cases row.bind recorded with
  | none =>
      exact .bind (onlyCalls_perform clock) fun _ =>
        .bind (onlyCalls_perform (inserts _)) fun _ => trivial
  | some response =>
      exact .bind (.swallow (onlyCalls_perform (caches _))) fun _ =>
        .bind (.swallow (onlyCalls_perform releases)) fun _ => trivial

/-- Recording a response writes it to the cache and to the key's row and releases the lock,
in one of two orders. -/
theorem onlyCalls_persist (cacheFirst : Bool)
    (caches : ∀ value, allowed (.cacheSet (.idempotency key) value idempotencyTtlMs))
    (stores : allowed (.sql (.updateKey key response.body response.statusCode)))
    (releases : allowed (.releaseLock (.idempotency key) token)) :
    (persist cacheFirst key token response).OnlyCalls allowed := by
  have cached : (swallow (setResponse key response)).OnlyCalls allowed :=
    .swallow (onlyCalls_perform (caches _))
  have stored : (swallow (sql (.updateKey key response.body response.statusCode))).OnlyCalls
      allowed := .swallow (onlyCalls_perform stores)
  have released : (releaseLock (.idempotency key) token).OnlyCalls allowed :=
    .swallow (onlyCalls_perform releases)
  cases cacheFirst with
  | true => exact .bind cached fun _ => .bind stored fun _ => released
  | false => exact .bind stored fun _ => .bind cached fun _ => released

end IdempotencyInterceptor

end Payroute
