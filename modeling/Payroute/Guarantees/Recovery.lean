import Payroute.Guarantees.Attribution
import Payroute.Guarantees.Retry
import Payroute.Runs.Recovery
import Payroute.Runs.Schedules

/-! # A lost job does not lose its payment

Whatever happened before, a payment in progress that the provider has never heard of comes to
its end: the sweep puts a job for it into the queue, the worker submits it, and the report
of the provider settles it.
-/

namespace Payroute

open EffectSystem KeyedTable Program StuckPaymentScheduler ProviderProcessor

variable {world last : World} {row : Transaction} {who : ProcessId}

/-- What holds between operations holds after one more. -/
theorem Database.Kept.solo (deployment : Deployment) (rest : world.AtRest) (kept : world.db.Kept)
    (command : Command) :
    Solo backend (fun _ _ => True) who (fun _ last => last.AtRest ∧ last.db.Kept)
      (command.program deployment) world := by
  intro choices _
  have run : SerialRun deployment (fun _ _ => True) world
      (backend.run who (command.program deployment) choices world).state :=
    .single (.command who command choices trivial)
  exact ⟨run.atRest rest, (Database.Kept.of_reachable rest kept (SerialRun.steps rest run)).2⟩

/-- What a report of the provider makes of a payment in progress. -/
def settled (status : String) : TransactionStatus :=
  if status = "completed" then .completed else .failed

theorem Database.Deliverable.settled {db : Database} {status : String} {next : TransactionStatus}
    (able : db.Deliverable row status next) : next = settled status := by
  cases able with
  | completed => exact (if_pos rfl).symm
  | failed => exact (if_neg (by decide)).symm

/-- The provider has the payment: a report is scheduled that names it by its reference and
quotes its amount, and a report of the status brings the payment to its end. -/
def Settleable (deployment : Deployment) (row : Transaction) (status : String) (world : World) :
    Prop :=
  ∃ callback ∈ world.callbacks,
    (world.db.byReference callback.reference).map Transaction.id = some row.id ∧
    numericOfText callback.amount = some row.sourceAmount ∧
    callback.currency = row.sourceCurrency ∧
    ∀ reporter rawBody signature,
      WebhooksService.verifySignature deployment rawBody signature = true →
      Succeeds reporter (fun _ last => last.db.statusOf row.id = some (settled status))
        (WebhooksService.processWebhook deployment ⟨callback.reference, status⟩ rawBody signature)
        world

/-- The payment the worker has submitted. -/
def Transaction.sentAs (row : Transaction) (reference : ProviderReference) : Transaction :=
  { row with providerReference := some reference }

/-- A submitted payment is settled by the report of its status. -/
theorem ProviderProcessor.Submitted.settleable {data : ProviderJobData} {deployment : Deployment}
    {status : String} (submitted : Submitted data row world last)
    (describes : data.Describes row) (below : world.db.Below world.next)
    (processing : row.status = .processing) (rest : last.AtRest) (kept : last.db.Kept)
    (final : status = "completed" ∨ status = "failed")
    (absent : world.db.webhookEvents.get? (world.next .reference, status) = none)
    (room : world.db.Bookable row status) : Settleable deployment row status last := by
  let sent := row.sentAs (world.next .reference)
  have stored : last.db = world.db.write (.transaction sent) := submitted.db
  have present : last.db.transactions.get? sent.id = some sent := by
    rw [stored]
    exact Table.get?_put_self world.db.transactions sent
  have looked : last.db.byReference (world.next .reference) = some sent := by
    refine Database.byReference_of_unique (Table.mem_of_get? present) rfl ?_
    intro other there names
    have written : other ∈ (world.db.transactions.put sent).rows := by
      rw [stored] at there
      exact there
    rcases (Table.mem_put_iff _ _ _).mp written with same | ⟨old, _⟩
    · rw [same]
    · exact (Nat.lt_irrefl _ (below.references other old _ names)).elim
  have given := submitted.scheduled
  refine ⟨_, given, ?_, describes.sourceAmount, describes.sourceCurrency, ?_⟩
  · rw [looked]
    rfl
  · intro reporter rawBody signature valid
    have unseen : last.db.webhookEvents.get? (world.next .reference, status) = none := by
      rw [stored]
      exact absent
    have fits : last.db.Bookable sent status := by
      rw [stored]
      exact room
    obtain ⟨next, _, allowed, able⟩ := kept.deliverable present processing final fits
    rw [able.settled] at able
    have settles : Succeeds reporter
        (fun _ after => after.db.statusOf sent.id = some (settled status))
        (WebhooksService.processWebhook deployment ⟨world.next .reference, status⟩ rawBody
          signature) last :=
      succeeds_processWebhook rest unseen valid looked allowed able
    exact settles

/-- In every reachable state in which no transaction is open, a payment whose job was lost
is found by the sweep, submitted by the worker and settled by the report. -/
theorem stuck_payment_recovered (deployment : Deployment) {initial : World}
    (rest : initial.AtRest) (empty : initial.db.transactions.rows = [])
    (constrained : initial.db.Constrained) {pool : Pool ProcessId Failure Operation.Reply World}
    (reached : Pool.Reachable backend (surroundings (Command.Starts deployment fun _ => True))
      initial pool) (closed : ∀ who, pool.shared.sessions who = none)
    (finds : Finds row pool.shared) (idle : Idle row pool.shared) {status : String}
    (final : status = "completed" ∨ status = "failed")
    (absent : pool.shared.db.webhookEvents.get? (pool.shared.next .reference, status) = none)
    (room : pool.shared.db.Bookable row status) (sweeper worker : ProcessId) :
    Succeeds sweeper (fun _ swept =>
        Succeeds worker (fun _ submitted => Settleable deployment row status submitted)
          (work (.retry row.id)) swept)
      retryStuckPayments pool.shared := by
  obtain ⟨sound, kept⟩ :=
    Database.Kept.of_reachable rest (Database.kept_of_empty constrained empty) reached
  have rested : pool.shared.AtRest := .of_sound sound closed
  have sweeps := (succeeds_retryStuckPayments (closed sweeper) finds idle).and
    (kept.solo deployment rested .retryStuckPayments)
  apply sweeps.mono
  intro _ swept left
  obtain ⟨⟨spares, job, queued, submits, _⟩, restSwept, keptSwept⟩ := left
  have describes : job.data.Describes row := by
    rw [submits]
    exact describes_retryJob row
  have found : swept.db.transactions.get? job.data.transactionId = some row := by
    rw [describes.transactionId, spares.db]
    exact Table.get?_of_mem finds.stored
  have processes : Succeeds worker _ (process job.data) swept :=
    (succeeds_process restSwept found ⟨finds.processing, finds.unreferenced⟩).and
      (keptSwept.solo deployment restSwept (.process job.data))
  apply (succeeds_work queued processes).mono
  intro _ last done
  obtain ⟨submitted, restLast, keptLast⟩ := done
  rw [← spares.db] at absent room
  rw [← spares.references] at absent
  exact submitted.settleable describes restSwept.below finds.processing restLast keptLast final
    absent room

/-- The queue has forgotten its jobs, and half an hour has passed. -/
def forgottenWorld : World :=
  createdWorld.elapse (31 * 60 * 1_000_000) (fun _ => false) (fun _ => false) .empty

theorem forgottenWorld_run :
    SerialRun sampleDeployment (fun _ _ => True) sampleWorld forgottenWorld := by
  have created : SerialRun sampleDeployment (fun _ _ => True) sampleWorld createdWorld :=
    runAll_run _ ⟨trivial, trivial⟩
  exact created.tail (.elapse (World.elapses_elapse (fun _ absurd => by cases absurd) _ _ _))

theorem stuck_payment_recovered_sample :
    ∃ row ∈ forgottenWorld.db.transactions.rows,
      Succeeds 0 (fun _ swept =>
          Succeeds 1 (fun _ submitted => Settleable sampleDeployment row "completed" submitted)
            (work (.retry row.id)) swept)
        retryStuckPayments forgottenWorld := by
  have shape : ∃ row ∈ forgottenWorld.db.transactions.rows, row.status = .processing ∧
      row.providerReference = none ∧
      row.createdAt < forgottenWorld.clock / 1000 * 1000 - stuckThreshold ∧
      forgottenWorld.clock / 1000 * 1000 - maxRetryAge ≤ row.createdAt / 1000 * 1000 ∧
      row.recipientAccountId = 1 ∧ row.destinationAmount = 100 := by
    decide +kernel
  obtain ⟨row, stored, processing, unreferenced, stuck, young, recipient, amount⟩ := shape
  have room : forgottenWorld.db.Bookable row "completed" := by
    unfold Database.Bookable
    rw [if_pos rfl, recipient, amount]
    exact ⟨_, rfl, by decide +kernel⟩
  have rested := forgottenWorld_run.atRest sampleWorld_atRest
  exact ⟨row, stored, stuck_payment_recovered sampleDeployment sampleWorld_atRest rfl
    (by decide +kernel) (SerialRun.steps sampleWorld_atRest forgottenWorld_run) rested.sessions
    ⟨stored, processing, unreferenced, stuck, young⟩ (fun _ absurd => by cases absurd) (.inl rfl)
    rfl room 0 1⟩

end Payroute
