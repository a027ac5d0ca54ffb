import Payroute.Services.Payments

/-! # Provider, queue workers and schedulers -/

namespace Payroute

open EffectSystem Program

namespace ProviderService

def submitPayment (_transactionId : TransactionId) (amount : Text) (currency : String) :
    Service ProviderReference := do
  call (.sleep 50)
  call (.scheduleCallback amount currency)

end ProviderService

namespace ProviderProcessor

/-- Submit the payment of a job, store the provider's reference and announce it. -/
def submit (data : ProviderJobData) : Service Unit := do
  let providerReference ←
    ProviderService.submitPayment data.transactionId data.sourceAmount data.sourceCurrency
  sql (.updateTransaction data.transactionId { providerReference := some providerReference })
  call (.emit (.initiated data.transactionId data.senderAccountId data.sourceAmount
    data.sourceCurrency data.destinationCurrency data.idempotencyKey))

/-- Whether a payment still has to be submitted to the provider. -/
def eligible (txn : Transaction) : Prop :=
  txn.status = .processing ∧ txn.providerReference = none

instance (txn : Transaction) : Decidable (eligible txn) := inferInstanceAs (Decidable (_ ∧ _))

def process (data : ProviderJobData) : Service Unit := do
  let found ← sql (.select (.transaction data.transactionId))
  match found with
  | none => return ()
  | some txn => if eligible txn then submit data else return ()

end ProviderProcessor

namespace DeadLetterHandler

/-- The body of the transaction of `onProviderJobExhausted`. -/
def exhaustedBody (transactionId : TransactionId) : Service Unit := do
  let found ← sql (.lockTransaction transactionId false)
  match found with
  | none => return ()
  | some txn =>
      if txn.status = .processing then do
        PaymentsService.returnFunds transactionId
        sql (.updateTransaction transactionId { status := some .failed })
        sql (.insertHistory transactionId (some TransactionStatus.processing.text)
          TransactionStatus.failed.text)
      else return ()

/-- Fail the payment of a job that has used up its attempts. Errors are only logged. -/
def failPayment (transactionId : TransactionId) (failedReason : String) : Service Unit :=
  swallow (do
    transaction .readCommitted (exhaustedBody transactionId)
    call (.emit (.failed transactionId none s!"Dead letter: {failedReason}")))

def onProviderJobExhausted (jobId : JobId) (failedReason : String) : Service Unit := do
  let found ← call (.queueGet jobId)
  match found with
  | none => return ()
  | some job =>
      if job.attemptsMade < job.attempts then return ()
      else failPayment job.data.transactionId failedReason

end DeadLetterHandler

namespace StuckPaymentScheduler

/-- `STUCK_THRESHOLD_MINUTES`, in microseconds. -/
def stuckThreshold : Nat := 30 * 60 * 1_000_000

/-- `MAX_RETRY_AGE_HOURS`, in microseconds. -/
def maxRetryAge : Nat := 24 * 60 * 60 * 1_000_000

/-- Whether a job with the state is still going to run. -/
def pending (state : JobState) : Bool :=
  state == .active || state == .waiting || state == .delayed

/-- The job that submits a stuck payment again. -/
def retryJob (txn : Transaction) : ProviderJobData where
  transactionId := txn.id
  sourceAmount := amountText txn.sourceAmount
  sourceCurrency := txn.sourceCurrency
  destinationCurrency := txn.destinationCurrency
  senderAccountId := txn.senderAccountId
  idempotencyKey := s!"retry-{txn.id}"

def enqueue (txn : Transaction) : Service Unit :=
  call (.queueAdd (retryJob txn) PaymentsService.providerJobAttempts (some (.retry txn.id)))

/-- Add the retry job of a payment unless an earlier one is still going to run. -/
def retry (txn : Transaction) : Service Unit := do
  let existingJob ← call (.queueGet (.retry txn.id))
  match existingJob with
  | none => enqueue txn
  | some _ => do
      -- `existingJob.getState()` asks the queue again.
      let current ← call (.queueGet (.retry txn.id))
      if current.any (fun job => pending job.state) = true then return ()
      else do
        swallow (call (.queueRemove (.retry txn.id)))
        enqueue txn

/-- One round of the loop. `createdAt` is a JavaScript date, which has milliseconds. -/
def evaluate (cutoff : Nat) (txn : Transaction) : Service Unit :=
  if txn.createdAt / 1000 * 1000 < cutoff then return () else retry txn

def evaluateAll (cutoff : Nat) : List Transaction → Service Unit
  | [] => return ()
  | txn :: rest => do
      evaluate cutoff txn
      evaluateAll cutoff rest

/-- `paymentsService.findStuck`. -/
def findStuck : Service (List Transaction) := do
  let now ← newDate
  sql (.select (.stuck (now - stuckThreshold)))

def retryStuckPayments : Service Unit := do
  let stuckPayments ← findStuck
  if stuckPayments.length = 0 then return ()
  else do
    let now ← newDate
    evaluateAll (now - maxRetryAge) stuckPayments

end StuckPaymentScheduler

namespace RetentionScheduler

/-- A day in microseconds. -/
def day : Nat := 24 * 60 * 60 * 1_000_000

def cleanupExpiredIdempotencyKeys : Service Unit := do
  let now ← newDate
  sql (.purgeKeys now)

def cleanupOldProcessedWebhookEvents (deployment : Deployment) : Service Unit := do
  let now ← newDate
  sql (.purgeEvents (now - deployment.webhookEventsRetentionDays * day))

end RetentionScheduler
end Payroute
