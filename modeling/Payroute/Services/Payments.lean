import Payroute.Services.Fx
import Payroute.Services.Ledger

/-! # Payments service -/

namespace Payroute

open EffectSystem Program

namespace PaymentsService

def accountLockTtlMs : Nat := 15_000
def refundLockTtlMs : Nat := 30_000

/-- `PROVIDER_JOB_OPTIONS.attempts`. -/
def providerJobAttempts : Nat := 3

/-- `setUTCHours(0, 0, 0, 0)`. -/
def startOfDay (now : Nat) : Nat := now / 86_400_000_000 * 86_400_000_000

/-- `allowed.join(', ') || 'none (terminal state)'`. -/
def allowedText (current : TransactionStatus) : String :=
  match current.validTransitions with
  | [] => "none (terminal state)"
  | allowed => ", ".intercalate (allowed.map TransactionStatus.text)

def validateTransition (current : TransactionStatus) (next : String) : Service Unit :=
  let known := current.text
  let allowed := allowedText current
  require (current.Allows next)
    (.conflict s!"Invalid state transition: {known} → {next}. Allowed: {allowed}")

def invalidatePaymentCaches : Service Unit := do
  swallow (call (.cacheDelete .stats))
  swallow (call .cacheDeleteLists)

/-! ## Creating a payment -/

/-- Lock the sender's row; a refused lock becomes a conflict. -/
def lockSender (id : AccountId) : Service Account :=
  tryCatch (AccountsService.lockForUpdate id) fun error =>
    if error.couldNotObtainLock then .fail (.conflict "Account locked by concurrent transaction.")
    else .fail error

/-- How a message prints an amount of the configuration. -/
def limitText (units : Nat) : String := String.ofList (numberText units)

/-- The checks of the payment against the configured limits. -/
def checkLimits (deployment : Deployment) (dto : CreatePaymentDto) : Service Unit := do
  let maxPerTxn := deployment.maxAmountPerTransaction
  require (dto.amount ≤ maxPerTxn)
    (.badRequest s!"Amount exceeds maximum per transaction ({limitText maxPerTxn}).")
  let now ← newDate
  let count ← sql (.select (.outgoingCount dto.senderAccountId (startOfDay now)))
  let maxPaymentsPerDay := deployment.maxPaymentsPerAccountPerDay
  require (count < maxPaymentsPerDay)
    (.badRequest s!"Daily payment count limit reached ({maxPaymentsPerDay} per account).")
  let dailyVolumeSoFar ← sql (.select (.outgoingVolume dto.senderAccountId (startOfDay now)))
  let maxDailyVolume := deployment.maxDailyVolumePerAccount
  require (¬ deployment.arithmetic.Exceeds dailyVolumeSoFar dto.amount maxDailyVolume)
    (.badRequest
      s!"Daily volume limit would be exceeded (max {limitText maxDailyVolume} per account).")

def checkSender (dto : CreatePaymentDto) (sender : Account) : Service Unit :=
  let wanted := dto.sourceCurrency
  let found := sender.currency
  require (sender.currency = dto.sourceCurrency) (.badRequest
    s!"Sender account currency ({found}) does not match source currency ({wanted})")

def checkRecipient (dto : CreatePaymentDto) : Service Unit := do
  let id := dto.recipientAccountId
  let found ← sql (.select (.account id))
  let recipient ← orThrow (.notFound s!"Recipient account {id} not found") found
  let wanted := dto.destinationCurrency
  let currency := recipient.currency
  require (recipient.currency = dto.destinationCurrency) (.badRequest
    s!"Recipient account currency ({currency}) does not match destination currency ({wanted})")

def expiredQuote : Failure :=
  .badRequest "FX quote expired before funds could be reserved — please retry to get a fresh rate"

/-- The body of the serializable transaction of `createPayment`. -/
def reserveFunds (deployment : Deployment) (dto : CreatePaymentDto) : Service Transaction := do
  let sender ← lockSender dto.senderAccountId
  checkSender dto sender
  checkRecipient dto
  checkLimits deployment dto
  let fxQuote ← FxService.createQuote dto.sourceCurrency dto.destinationCurrency
    (numberText dto.amount)
  let now ← newDate
  require (now ≤ fxQuote.expiresAt) expiredQuote
  let saved ← sql (.insertTransaction
    { senderAccountId := dto.senderAccountId
      recipientAccountId := dto.recipientAccountId
      sourceCurrency := dto.sourceCurrency
      destinationCurrency := dto.destinationCurrency
      sourceAmount := numberText dto.amount
      destinationAmount := fxQuote.destinationAmount
      fxRate := fxQuote.rate
      fxQuoteId := fxQuote.id
      status := .initiated })
  sql (.insertHistory saved.id none TransactionStatus.initiated.text)
  let _ ← LedgerService.debit dto.senderAccountId (numberText dto.amount) saved.id
  sql (.updateTransaction saved.id { status := some .processing })
  sql (.insertHistory saved.id (some TransactionStatus.initiated.text)
    TransactionStatus.processing.text)
  return { saved with status := .processing }

def accountBusy : Failure :=
  .conflict "This account has a concurrent payment in progress. Please retry in a moment."

/-- `createPayment` up to and including the release of the account lock. -/
def commitPayment (deployment : Deployment) (dto : CreatePaymentDto) : Service Transaction := do
  let token ← acquireLock (.account dto.senderAccountId) accountLockTtlMs
  let token ← orThrow accountBusy token
  tryFinally (transaction .serializable (reserveFunds deployment dto))
    (releaseLock (.account dto.senderAccountId) token)

/-- The job that submits a payment to the provider. -/
def providerJob (dto : CreatePaymentDto) (idempotencyKey : String) (saved : Transaction) :
    ProviderJobData where
  transactionId := saved.id
  sourceAmount := numberText dto.amount
  sourceCurrency := dto.sourceCurrency
  destinationCurrency := dto.destinationCurrency
  senderAccountId := dto.senderAccountId
  idempotencyKey := idempotencyKey

def createPayment (deployment : Deployment) (dto : CreatePaymentDto) (idempotencyKey : String) :
    Service Transaction := do
  let saved ← commitPayment deployment dto
  call (.queueAdd (providerJob dto idempotencyKey saved) providerJobAttempts none)
  invalidatePaymentCaches
  return saved

/-! ## Refunds -/

/-- `transactionRepo.findOne`, which must find the transaction. -/
def findTransaction (id : TransactionId) : Service Transaction := do
  let found ← sql (.select (.transaction id))
  orThrow (.notFound s!"Transaction {id} not found") found

/-- Move the money of a completed payment back, unless the ledger is marked reversed. -/
def chargeBack (current : Transaction) : Service Unit := do
  let alreadyReversed ← LedgerService.hasBeenReversed current.id
  if alreadyReversed then return ()
  else do
    let _ ← LedgerService.debit current.recipientAccountId
      (amountText current.destinationAmount) current.id
    let _ ← LedgerService.credit current.senderAccountId
      (amountText current.sourceAmount) current.id
    return ()

/-- Return the money of a payment that was not credited, unless the ledger is
marked reversed. -/
def returnFunds (id : TransactionId) : Service Unit := do
  let alreadyReversed ← LedgerService.hasBeenReversed id
  if alreadyReversed then return ()
  else do
    let _ ← LedgerService.createCompensatingEntries id
    return ()

/-- Set a transaction to `REVERSED` and record it. -/
def markReversed (id : TransactionId) (current : Transaction) : Service Unit := do
  sql (.updateTransaction id { status := some .reversed })
  sql (.insertHistory id (some current.status.text) TransactionStatus.reversed.text)

/-- The ledger branch of a refund. -/
def refundLedger (id : TransactionId) (current : Transaction) : Service Unit :=
  if current.status = .completed then chargeBack current else returnFunds id

/-- Lock the transaction of a refund; a refused lock becomes a conflict. -/
def lockForRefund (id : TransactionId) : Service (Option Transaction) :=
  tryCatch (sql (.lockTransaction id true)) fun error =>
    if error.couldNotObtainLock then
      .fail (.conflict "Transaction is being modified by a concurrent request.")
    else .fail error

/-- The body of the transaction of `refundPayment`. -/
def refundBody (id : TransactionId) : Service Unit := do
  let found ← lockForRefund id
  let current ← orThrow (.notFound s!"Transaction {id} not found") found
  validateTransition current.status TransactionStatus.reversed.text
  refundLedger id current
  markReversed id current

def refundBusy : Failure :=
  .conflict "A refund is already being processed for this transaction."

def refundPayment (id : TransactionId) (dto : RefundPaymentDto) :
    Service (Option Transaction) := do
  let transaction ← findTransaction id
  validateTransition transaction.status TransactionStatus.reversed.text
  let token ← acquireLock (.refund id) refundLockTtlMs
  let token ← orThrow refundBusy token
  tryFinally (Payroute.transaction .readCommitted (refundBody id)) (releaseLock (.refund id) token)
  call (.emit (.refunded id dto.reason))
  invalidatePaymentCaches
  sql (.select (.transaction id))

/-! ## Disputes -/

/-- The body of the transaction of `raiseDispute`. -/
def raiseBody (id : TransactionId) (transaction : Transaction) : Service Unit := do
  sql (.updateTransaction id { status := some .disputed })
  sql (.insertHistory id (some transaction.status.text) TransactionStatus.disputed.text)

def raiseDispute (id : TransactionId) (_dto : DisputePaymentDto) :
    Service (Option Transaction) := do
  let transaction ← findTransaction id
  validateTransition transaction.status TransactionStatus.disputed.text
  Payroute.transaction .readCommitted (raiseBody id transaction)
  invalidatePaymentCaches
  sql (.select (.transaction id))

/-- The body of the transaction of `resolveDispute` for `reverse`. -/
def reverseBody (id : TransactionId) : Service Unit := do
  let found ← sql (.lockTransaction id true)
  let current ← orThrow (.notFound s!"Transaction {id} not found") found
  validateTransition current.status TransactionStatus.reversed.text
  chargeBack current
  markReversed id current

/-- The body of the transaction of `resolveDispute` for `reject`. -/
def rejectBody (id : TransactionId) : Service Unit := do
  sql (.updateTransaction id { status := some .completed })
  sql (.insertHistory id (some TransactionStatus.disputed.text) TransactionStatus.completed.text)

/-- The status a resolution asks for. -/
def resolvedStatus : ResolveAction → TransactionStatus
  | .reverse => .reversed
  | .reject => .completed

/-- The branch of `resolveDispute` for its action. -/
def resolveBranch (id : TransactionId) : ResolveAction → Service Unit
  | .reverse => do
      let token ← acquireLock (.refund id) refundLockTtlMs
      let token ← orThrow refundBusy token
      tryFinally (transaction .readCommitted (reverseBody id)) (releaseLock (.refund id) token)
      call (.emit (.refunded id "Dispute resolved: chargeback"))
  | .reject => transaction .readCommitted (rejectBody id)

def resolveDispute (id : TransactionId) (dto : ResolveDisputeDto) :
    Service (Option Transaction) := do
  let transaction ← findTransaction id
  validateTransition transaction.status (resolvedStatus dto.action).text
  resolveBranch id dto.action
  invalidatePaymentCaches
  sql (.select (.transaction id))

end PaymentsService
end Payroute
