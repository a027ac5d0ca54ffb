import Payroute.Commits.Queue
import Payroute.Commits.Webhooks

/-! # The operations of the backend

What a request, a webhook, a queue worker or a scheduler may run, and for each
of them the commits it makes.
-/

namespace Payroute

open EffectSystem Program

/-- An operation with its arguments. -/
inductive Command where
  | createPayment (dto : CreatePaymentDto) (idempotencyKey : String)
  | process (data : ProviderJobData)
  | processWebhook (payload : WebhookPayloadDto) (rawBody : List UInt8) (signature : String)
  | onProviderJobExhausted (jobId : JobId) (failedReason : String)
  | refundPayment (id : TransactionId) (dto : RefundPaymentDto)
  | raiseDispute (id : TransactionId) (dto : DisputePaymentDto)
  | resolveDispute (id : TransactionId) (dto : ResolveDisputeDto)
  | retryStuckPayments
  | cleanupExpiredIdempotencyKeys
  | cleanupOldProcessedWebhookEvents

namespace Command

/-- The code of an operation. -/
def program (deployment : Deployment) : Command → Service Unit
  | .createPayment dto idempotencyKey => do
      let _ ← PaymentsService.createPayment deployment dto idempotencyKey
  | .process data => ProviderProcessor.process data
  | .processWebhook payload rawBody signature =>
      WebhooksService.processWebhook deployment payload rawBody signature
  | .onProviderJobExhausted jobId failedReason =>
      DeadLetterHandler.onProviderJobExhausted jobId failedReason
  | .refundPayment id dto => do
      let _ ← PaymentsService.refundPayment id dto
  | .raiseDispute id dto => do
      let _ ← PaymentsService.raiseDispute id dto
  | .resolveDispute id dto => do
      let _ ← PaymentsService.resolveDispute id dto
  | .retryStuckPayments => StuckPaymentScheduler.retryStuckPayments
  | .cleanupExpiredIdempotencyKeys => RetentionScheduler.cleanupExpiredIdempotencyKeys
  | .cleanupOldProcessedWebhookEvents =>
      RetentionScheduler.cleanupOldProcessedWebhookEvents deployment

/-- The commits of an operation. -/
def Commits (setting : Setting) (deployment : Deployment) (first second : Database) :
    Command → Prop
  | .createPayment dto _ => ∃ row, Creates setting dto row first second ∧
      Checked setting deployment dto row first
  | .process data => Assigns setting data.transactionId first second
  | .processWebhook payload rawBody signature => Misses setting payload first second ∨
      Delivers setting deployment payload rawBody signature first second
  | .onProviderJobExhausted _ _ => ∃ id, Exhausts setting id first second
  | .refundPayment id _ => Refunds setting id first second
  | .raiseDispute id _ => Raises setting id first second
  | .resolveDispute id dto => Resolves setting id dto.action first second
  | .retryStuckPayments => False
  | .cleanupExpiredIdempotencyKeys => False
  | .cleanupOldProcessedWebhookEvents => False

/-- What is known when an operation has ended. -/
def Concludes (setting : Setting) (deployment : Deployment) :
    Command → Except Failure Unit → World → Prop
  | .processWebhook payload rawBody signature, outcome, last => outcome = .ok () →
      setting.Answered deployment payload rawBody signature last.db
  | _, _, _ => True

/-- Every operation keeps the contract and makes only its own commits. -/
theorem outside {setting : Setting} {commit : Database → Database → Prop} {who : ProcessId}
    {world : World} (deployment : Deployment) (command : Command)
    (origin : setting.origin world.db) (floor : setting.floor ≤ world.next .reference)
    (included : ∀ first second, command.Commits setting deployment first second →
      commit first second) :
    setting.Outside commit who (command.Concludes setting deployment)
      (command.program deployment) world := by
  cases command with
  | createPayment dto idempotencyKey =>
      refine Setting.Outside.andThen (Setting.Outside.createPayment origin deployment dto
        idempotencyKey ?_) fun _ _ _ => Setting.Outside.ret trivial
      exact fun row first second creates checked => included first second ⟨row, creates, checked⟩
  | process data => exact Setting.Outside.process origin floor data included
  | processWebhook payload rawBody signature =>
      exact Setting.Outside.processWebhook origin included
  | onProviderJobExhausted jobId failedReason =>
      refine Setting.Outside.onProviderJobExhausted origin jobId failedReason ?_
      exact fun id first second exhausts => included first second ⟨id, exhausts⟩
  | refundPayment id dto =>
      exact Setting.Outside.andThen (Setting.Outside.refundPayment origin dto included)
        fun _ _ _ => Setting.Outside.ret trivial
  | raiseDispute id dto =>
      exact Setting.Outside.andThen (Setting.Outside.raiseDispute origin dto included)
        fun _ _ _ => Setting.Outside.ret trivial
  | resolveDispute id dto =>
      exact Setting.Outside.andThen (Setting.Outside.resolveDispute origin dto included)
        fun _ _ _ => Setting.Outside.ret trivial
  | retryStuckPayments => exact Setting.Outside.retryStuckPayments
  | cleanupExpiredIdempotencyKeys => exact Setting.Outside.cleanupExpiredIdempotencyKeys
  | cleanupOldProcessedWebhookEvents =>
      exact Setting.Outside.cleanupOldProcessedWebhookEvents deployment

end Command
end Payroute
