import Payroute.Runs.Publishing
import Payroute.Runs.Serial

/-! # What left the system is committed

Operations, workers, requests, listings and statistics run at the same time, any of their
calls may fail before or after it took effect, and processes may die. Whatever is in the
provider queue, was handed to the provider, was emitted, is cached, is recorded under an
idempotency key or was answered to a client is about a payment that is committed, on that
payment's own terms: a transaction that is rolled back leaves nothing behind.
-/

namespace Payroute

open EffectSystem Program

section Activities

variable {deployment : Deployment}

/-- Every process keeps to the protocol of knowledge. -/
theorem Activity.telling {known : Set Transaction} {body : Service Unit}
    (activity : Activity deployment body) : Telling .outside known (fun _ _ => True) body := by
  cases activity with
  | work id => exact ProviderProcessor.telling_work id
  | request cacheFirst key dto =>
      exact IdempotencyInterceptor.telling_request cacheFirst key fun _ =>
        PaymentsService.telling_createPayment deployment dto key
  | findAll dto =>
      exact .bind (PaymentsService.telling_findAll deployment dto) fun _ _ _ _ => .ret trivial
  | getStats => exact .bind PaymentsService.telling_getStats fun _ _ _ _ => .ret trivial
  | operation command queued =>
      cases command with
      | process data => exact (queued data rfl).elim
      | createPayment dto key =>
          exact .bind (PaymentsService.telling_createPayment deployment dto key)
            fun _ _ _ _ => .ret trivial
      | processWebhook payload rawBody signature =>
          exact WebhooksService.telling_processWebhook deployment payload rawBody signature
      | onProviderJobExhausted jobId failedReason =>
          exact DeadLetterHandler.telling_onProviderJobExhausted jobId failedReason
      | refundPayment id dto =>
          exact .bind (PaymentsService.telling_refundPayment id dto) fun _ _ _ _ => .ret trivial
      | raiseDispute id dto =>
          exact .bind (PaymentsService.telling_raiseDispute id dto) fun _ _ _ _ => .ret trivial
      | resolveDispute id dto =>
          exact .bind (PaymentsService.telling_resolveDispute id dto) fun _ _ _ _ => .ret trivial
      | retryStuckPayments => exact StuckPaymentScheduler.telling_retryStuckPayments
      | cleanupExpiredIdempotencyKeys | cleanupOldProcessedWebhookEvents =>
          exact .bind (Telling.skip trivial fun _ => nofun) fun _ _ _ _ =>
            .skip trivial fun _ => nofun

/-- The pools of processes publish only about committed payments. -/
theorem Candid.of_reachable {initial : World} (rest : initial.AtRest) (backed : initial.Backed)
    {pool : Pool ProcessId Failure Operation.Reply World}
    (reached : Pool.Reachable backend (surroundings fun _ => Activity deployment) initial pool) :
    Candid pool := by
  induction reached with
  | refl => exact ⟨backed, fun _ _ absurd => by cases absurd⟩
  | tail before step ih =>
      refine ih.step (fun who body activity => ?_) (Activity.valid_reachable rest before) step
      exact Follows.mono activity.telling fun _ _ _ => trivial

end Activities

/-- **Nothing is published that is not committed.** In every state a pool of processes
reaches, each job, callback, event, cached payment, recorded response and answer is about
a payment of the committed tables and states its terms. -/
theorem published_committed {deployment : Deployment} {initial : World} (rest : initial.AtRest)
    (backed : initial.Backed) {pool : Pool ProcessId Failure Operation.Reply World}
    (reached : Pool.Reachable backend (surroundings fun _ => Activity deployment) initial pool)
    {publication : Publication} (published : pool.shared.Publishes publication) :
    ∃ row ∈ pool.shared.db.transactions.rows, publication.About row :=
  (Candid.of_reachable rest backed reached).backed publication published

/-! ## A request and its answer -/

/-- A client pays, and the process is left running until its payment is in the queue. -/
def sampleSubmission : List Turn :=
  [{ who := 0, starts := some (.createPayment samplePayment "key") }]

theorem sampleWorld_backed : sampleWorld.Backed := by
  intro publication published
  cases published with
  | job queued => cases queued
  | callback scheduled => cases scheduled
  | event emitted => cases emitted
  | cached cached _ => cases cached
  | recorded stored _ => cases stored
  | responded noted => cases noted

theorem published_committed_sample :
    let pool := takeTurns backend sampleDeployment sampleSubmission (Pool.quiet sampleWorld)
    ∃ publication, pool.shared.Publishes publication ∧
      ∃ row ∈ pool.shared.db.transactions.rows, publication.About row := by
  intro pool
  have reached : Pool.Reachable backend (surroundings fun _ => Activity sampleDeployment)
      sampleWorld pool := takeTurns_activities (by decide +kernel) (by simp [sampleSubmission])
  have queued : pool.shared.jobs.rows ≠ [] := by decide +kernel
  obtain ⟨job, member⟩ := List.exists_mem_of_ne_nil _ queued
  exact ⟨_, .job member,
    published_committed sampleWorld_atRest sampleWorld_backed reached (.job member)⟩

end Payroute
