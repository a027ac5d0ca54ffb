import Payroute.Commits.Refinement
import Payroute.Runs.Serial

/-! # Payments are settled exactly once

Without disputes, every payment that concurrent operations leave behind has been
settled, released, refunded or none of these, and never twice.
-/

namespace Payroute

open EffectSystem KeyedTable

/-- The operations besides the dispute endpoints, with validated payloads. -/
def Command.Undisputed : Command → Prop
  | .raiseDispute _ _ => False
  | .resolveDispute _ _ => False
  | .processWebhook payload _ _ => payload.Admitted
  | _ => True

/-- What the ledger and the history of a payment say. -/
structure Dossier.SettledOnce (dossier : Dossier) : Prop where
  /-- Status, sender net and recipient net. -/
  nets : (dossier.row.status, netOf dossier.postings dossier.row.senderAccountId,
      netOf dossier.postings dossier.row.recipientAccountId) ∈
    [(.processing, -dossier.row.sourceAmount, 0),
      (.completed, -dossier.row.sourceAmount, dossier.row.destinationAmount),
      (.failed, 0, 0), (.reversed, 0, 0)]
  /-- The history is a chain from the opening to the status. -/
  traced : Traced dossier.trace dossier.row.status
  /-- A credit of the recipient and a compensation of the sender exclude each other. -/
  exclusive : ¬ (dossier.row.settle ∈ dossier.postings ∧ dossier.row.release ∈ dossier.postings)
  /-- The sender gets its money back at most once. -/
  once : dossier.postings.count dossier.row.release +
    dossier.postings.count dossier.row.giveBack ≤ 1

/-- The invariant of undisputed payments. -/
structure Dossier.Undisputed (dossier : Dossier) : Prop where
  lawful : dossier.Lawful
  traced : Traced dossier.trace dossier.row.status
  status : dossier.row.status ≠ .disputed

theorem Dossier.Undisputed.settledOnce {dossier : Dossier} (held : dossier.Undisputed) :
    dossier.SettledOnce := by
  obtain ⟨⟨parties, nonneg, booked⟩, traced, undisputed⟩ := held
  obtain ⟨sender, recipient⟩ := booked.net parties
  refine ⟨?_, traced, booked.exclusive parties, booked.once parties⟩
  rw [sender, recipient]
  unfold Transaction.senderNet Transaction.recipientNet
  generalize dossier.row.status = status at booked undisputed
  generalize dossier.postings = postings at booked
  cases booked <;> simp at undisputed ⊢

/-- The commits of these operations follow the lifecycle without disputes. -/
theorem Command.Undisputed.evolves {deployment : Deployment} {command : Command}
    (undisputed : command.Undisputed) {setting : Setting} {first second : Database}
    (commits : command.Commits setting deployment first second)
    (each : first.Each Dossier.Undisputed) :
    first.Evolves True (fun status => status ≠ .disputed) second := by
  have lawful : first.Each Dossier.Lawful := fun id dossier found => (each id dossier found).lawful
  have calm : ∀ id row, first.transactions.get? id = some row → row.status ≠ .disputed :=
    fun id row found => (each id _ (Database.dossier_of_get? found)).status
  cases command with
  | createPayment dto idempotencyKey =>
      obtain ⟨row, creates, _⟩ := commits
      exact creates.evolves
  | process data => exact Assigns.evolves commits
  | processWebhook payload rawBody signature =>
      rcases commits with misses | delivers
      · exact misses.evolves
      · exact delivers.evolves lawful (fun _ => undisputed) (fun row _ found _ => calm _ row found)
          (by decide) (by decide)
  | onProviderJobExhausted jobId failedReason =>
      obtain ⟨id, exhausts⟩ := commits
      exact exhausts.evolves lawful (by decide)
  | refundPayment id dto => exact Refunds.evolves commits lawful (calm id) (by decide)
  | raiseDispute id dto => exact undisputed.elim
  | resolveDispute id dto => exact undisputed.elim
  | retryStuckPayments => exact commits.elim
  | cleanupExpiredIdempotencyKeys => exact commits.elim
  | cleanupOldProcessedWebhookEvents => exact commits.elim

theorem Database.Evolves.undisputed {first second : Database}
    (evolves : first.Evolves True (fun status => status ≠ .disputed) second)
    (each : first.Each Dossier.Undisputed) : second.Each Dossier.Undisputed := by
  have lawful := evolves.lawful fun id dossier found => (each id dossier found).lawful
  have traced := evolves.traced trivial fun id dossier found => (each id dossier found).traced
  have status := evolves.avoids (fun absurd => absurd rfl) (by decide)
    fun id dossier found => (each id dossier found).status
  exact fun id dossier found =>
    ⟨lawful id dossier found, traced id dossier found, status id dossier found⟩

/-- Concurrent operations without disputes leave undisputed payments behind. -/
theorem Command.pool_undisputed {deployment : Deployment} {initial : World} (rest : initial.AtRest)
    (empty : initial.db.transactions.rows = [])
    {pool : Pool ProcessId Failure Operation.Reply World}
    (reached : Pool.Reachable backend
      (surroundings (Command.Starts deployment Command.Undisputed)) initial pool) :
    pool.shared.db.Each Dossier.Undisputed := by
  have steps := Setting.steps_of_backend concurrent_unguarded reached
  have none : initial.db.Each Dossier.Undisputed := by
    intro id dossier found
    have member := Table.mem_of_get? (Database.get?_of_dossier found).1
    rw [empty] at member
    cases member
  refine Command.pool_keeps (fun db => db.Each Dossier.Undisputed) ?_ ?_
    (Setting.valid_quiet rest) none steps
  · exact fun first second beside each => each.sameBooks beside.books
  · exact fun command first second undisputed commits _ each =>
      (undisputed.evolves commits each).undisputed each

/-- Every payment that concurrent operations without disputes leave behind is
settled once. -/
theorem settled_once (deployment : Deployment) {initial : World} (rest : initial.AtRest)
    (empty : initial.db.transactions.rows = [])
    {pool : Pool ProcessId Failure Operation.Reply World}
    (reached : Pool.Reachable backend
      (surroundings (Command.Starts deployment Command.Undisputed)) initial pool) :
    pool.shared.db.Each Dossier.SettledOnce :=
  fun id dossier found => (Command.pool_undisputed rest empty reached id dossier found).settledOnce

/-- Two requests refund a payment at the same time. -/
def sampleRefunds : List Turn :=
  [{ who := 0, starts := some (.createPayment samplePayment "key") },
    { who := 1, starts := some (.process sampleJob) },
    { who := 2, starts := some (.processWebhook ⟨0, "completed"⟩ [] "secret") },
    { who := 3, starts := some (.refundPayment 0 ⟨"late"⟩), calls := 5 },
    { who := 4, starts := some (.refundPayment 0 ⟨"late"⟩) },
    { who := 3 }]

theorem settled_once_sample :
    (takeTurns backend sampleDeployment sampleRefunds
      (Pool.quiet sampleWorld)).shared.db.Each Dossier.SettledOnce := by
  refine settled_once sampleDeployment sampleWorld_atRest rfl
    (takeTurns_commands (by decide +kernel) ?_)
  simp [sampleRefunds, Command.Undisputed, WebhookPayloadDto.Admitted]

end Payroute
