import Payroute.Commits.Refinement
import Payroute.Runs.Serial

/-! # Status and ledger agree

In serial runs the status of a payment determines what its ledger entries move,
unless an operation meets one of three situations the services do not expect.
-/

namespace Payroute

open EffectSystem KeyedTable

/-- The status determines what the entries of a payment move. -/
structure Dossier.Agrees (dossier : Dossier) : Prop where
  sender : netOf dossier.postings dossier.row.senderAccountId = dossier.row.senderNet
  recipient : netOf dossier.postings dossier.row.recipientAccountId = dossier.row.recipientNet

instance (dossier : Dossier) : Decidable dossier.Agrees :=
  decidable_of_iff
    (netOf dossier.postings dossier.row.senderAccountId = dossier.row.senderNet ∧
      netOf dossier.postings dossier.row.recipientAccountId = dossier.row.recipientNet)
    ⟨fun both => ⟨both.1, both.2⟩, fun agrees => ⟨agrees.1, agrees.2⟩⟩

/-- The operation neither refunds a disputed payment, nor rejects a dispute of a
payment in progress, nor completes a disputed payment anew after its event row
is gone. -/
def Command.Clean (deployment : Deployment) (world : World) : Command → Prop
  | .refundPayment id _ =>
      (world.db.transactions.get? id).map Transaction.status ≠ some .disputed
  | .resolveDispute id dto => ¬ (dto.action = .reject ∧
      (world.db.transactions.get? id).map Transaction.status = some .processing)
  | .processWebhook payload rawBody signature => ¬ (
      WebhooksService.verifySignature deployment rawBody signature = true ∧
      payload.status = "completed" ∧
      world.db.webhookEvents.get? (payload.reference, payload.status) = none ∧
      (world.db.byReference payload.reference).map Transaction.status = some .disputed)
  | _ => True

instance (deployment : Deployment) (world : World) (command : Command) :
    Decidable (command.Clean deployment world) :=
  match command with
  | .refundPayment _ _ => inferInstanceAs (Decidable (_ ≠ _))
  | .resolveDispute _ _ => inferInstanceAs (Decidable (¬ _))
  | .processWebhook _ _ _ => inferInstanceAs (Decidable (¬ _))
  | .createPayment _ _ => .isTrue trivial
  | .process _ => .isTrue trivial
  | .onProviderJobExhausted _ _ => .isTrue trivial
  | .raiseDispute _ _ => .isTrue trivial
  | .retryStuckPayments => .isTrue trivial
  | .cleanupExpiredIdempotencyKeys => .isTrue trivial
  | .cleanupOldProcessedWebhookEvents => .isTrue trivial

/-- A clean operation follows the lifecycle. -/
theorem Command.Clean.evolves {deployment : Deployment} {world : World} {command : Command}
    (clean : command.Clean deployment world) {first second : Database}
    (commits : command.Commits (serial world) deployment first second)
    (each : first.Each Dossier.Lawful) : first.Evolves False (fun _ => True) second := by
  cases command with
  | createPayment dto idempotencyKey =>
      obtain ⟨row, creates, _⟩ := commits
      exact creates.evolves
  | process data => exact Assigns.evolves commits
  | processWebhook payload rawBody signature =>
      rcases commits with misses | delivers
      · exact misses.evolves
      · have delivered := delivers
        obtain ⟨valid, _, _, _, _, _, _, marks, _⟩ := delivered
        obtain ⟨absent, same⟩ := serial_marks marks
        refine delivers.evolves each False.elim (fun row looks _ completed disputed => ?_) trivial
          trivial
        refine clean ⟨valid, completed, absent, ?_⟩
        rw [serial_looksUp same looks, Option.map_some, disputed]
  | onProviderJobExhausted jobId failedReason =>
      obtain ⟨id, exhausts⟩ := commits
      exact exhausts.evolves each trivial
  | refundPayment id dto =>
      have refunds : Refunds (serial world) id first second := commits
      have refunded := refunds
      obtain ⟨_, _, _, since, _⟩ := refunded
      refine refunds.evolves each (fun row found disputed => clean ?_) trivial
      rw [serial_get? since found, Option.map_some, disputed]
  | raiseDispute id dto =>
      refine Raises.evolves commits (fun row checked found read => ?_) trivial
      have current := (serial_read read).1
      rw [found] at current
      exact (Option.some.inj current).symm
  | resolveDispute id dto =>
      obtain ⟨action⟩ := dto
      cases action with
      | reverse => exact Reverses.evolves commits each trivial
      | reject =>
          have rejects : Rejects (serial world) id first second := commits
          have rejected := rejects
          obtain ⟨current, checked, _, found, read, allowed, _⟩ := rejected
          obtain ⟨there, before⟩ := serial_read read
          refine rejects.evolves (fun row seen => ?_) trivial
          have same : checked = row := by
            rw [there] at seen
            exact Option.some.inj seen
          subst same
          rcases allows_completed allowed with processing | disputed
          · refine (clean ⟨rfl, ?_⟩).elim
            rw [before, Option.map_some, processing]
          · exact disputed
  | retryStuckPayments => exact commits.elim
  | cleanupExpiredIdempotencyKeys => exact commits.elim
  | cleanupOldProcessedWebhookEvents => exact commits.elim

/-- Clean serial runs keep the payments lawful. -/
theorem clean_lawful {deployment : Deployment} {initial world : World} (rest : initial.AtRest)
    (empty : initial.db.transactions.rows = [])
    (run : SerialRun deployment (Command.Clean deployment) initial world) :
    world.AtRest ∧ world.db.Each Dossier.Lawful := by
  have none : initial.db.Each Dossier.Lawful := by
    intro id dossier found
    have member := Table.mem_of_get? (Database.get?_of_dossier found).1
    rw [empty] at member
    cases member
  refine SerialRun.keeps (fun db => db.Each Dossier.Lawful) ?_ ?_ rest none run
  · exact fun first second beside each => each.sameBooks beside.books
  · exact fun world command first second _ clean commits each =>
      (Command.Clean.evolves clean commits each).lawful each

/-- In every clean serial run, the status of each payment determines what its
entries move. -/
theorem status_agrees (deployment : Deployment) {initial world : World} (rest : initial.AtRest)
    (empty : initial.db.transactions.rows = [])
    (run : SerialRun deployment (Command.Clean deployment) initial world) :
    world.db.Each Dossier.Agrees := by
  intro id dossier found
  have lawful := (clean_lawful rest empty run).2 id dossier found
  obtain ⟨sender, recipient⟩ := lawful.booked.net lawful.parties
  exact ⟨sender, recipient⟩

/-- A payment that is completed, disputed and charged back. -/
def sampleChargeback : List (Command × List Delivery) :=
  sampleCompletion ++ [(.raiseDispute 0 ⟨"fraud"⟩, []), (.resolveDispute 0 ⟨.reverse⟩, [])]

theorem status_agrees_sample :
    (runAll sampleDeployment sampleChargeback sampleWorld).db.Each Dossier.Agrees :=
  status_agrees sampleDeployment sampleWorld_atRest rfl
    (runAll_run sampleChargeback (by decide +kernel))

/-- A payment that is completed, disputed and refunded. -/
def sampleDisputedRefund : List (Command × List Delivery) :=
  sampleCompletion ++ [(.raiseDispute 0 ⟨"fraud"⟩, []), (.refundPayment 0 ⟨"fraud"⟩, [])]

/-- The refund of a disputed payment returns the sender's money and leaves the
recipient its credit. -/
theorem disputed_refund_disagrees :
    ¬ ∀ (deployment : Deployment) (initial world : World), initial.AtRest →
      initial.db.transactions.rows = [] →
      SerialRun deployment (fun _ _ => True) initial world → world.db.Each Dossier.Agrees := by
  intro claimed
  have run : SerialRun sampleDeployment (fun _ _ => True) sampleWorld
      (runAll sampleDeployment sampleDisputedRefund sampleWorld) :=
    runAll_run sampleDisputedRefund (by decide +kernel)
  have each := claimed sampleDeployment sampleWorld _ sampleWorld_atRest rfl run
  exact Database.not_each 0 (by decide +kernel) each

end Payroute
