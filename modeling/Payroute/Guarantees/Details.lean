import Payroute.Guarantees.History
import Payroute.Guarantees.Publishing
import Payroute.Runs.Records

/-! # The details of a payment

`findById` reads the payment, its ledger entries and its history one after another,
outside of a transaction, while other processes commit in between. The details are of no
single moment then, but the records that are read later explain the payment that was
read first.
-/

namespace Payroute

open EffectSystem KeyedTable

/-- The details of a payment whose row was read when the tables were `before` and whose
records were read by the time they were `after`. -/
structure PaymentDetails.Explained (details : PaymentDetails) (before after : Database) :
    Prop where
  status : details.transaction.payment.status.text ∈
    details.stateHistory.map TransactionStateHistory.toState
  reserved : ∃ entry ∈ details.ledgerEntries,
    entry.posting = details.transaction.payment.reserve
  entries : before.entriesOf details.transaction.payment.id ⊆ details.ledgerEntries
  history : before.historyOf details.transaction.payment.id ⊆ details.stateHistory
  committed : details.ledgerEntries ⊆ after.ledgerEntries ∧
    details.stateHistory ⊆ after.stateHistory

/-- The three queries, each on the tables it finds. -/
theorem PaymentsService.explained_findById {byCreatedAt : OrderBy LedgerEntry.createdAt}
    {byTimestamp : OrderBy TransactionStateHistory.timestamp} {first second third : Database}
    {id : TransactionId} {details : PaymentDetails} (each : first.Each Dossier.Told)
    (later : first.Grows second) (latest : second.Grows third)
    (answered : findById byCreatedAt byTimestamp first second third id = .ok details) :
    details.Explained first third := by
  unfold findById at answered
  cases found : first.transactions.get? id with
  | none =>
      rw [found] at answered
      cases answered
  | some row =>
      rw [found] at answered
      have named : row.id = id := Table.key_of_get? found
      subst named
      have shown : { transaction := first.withAccounts row
                     ledgerEntries := byCreatedAt.order (second.entriesOf row.id)
                     stateHistory := byTimestamp.order (third.historyOf row.id) } = details :=
        Except.ok.inj answered
      subst shown
      have entries : ∀ entry, entry ∈ byCreatedAt.order (second.entriesOf row.id) ↔
          entry ∈ second.entriesOf row.id := fun entry => (byCreatedAt.perm _).mem_iff
      have history : ∀ step, step ∈ byTimestamp.order (third.historyOf row.id) ↔
          step ∈ third.historyOf row.id := fun step => (byTimestamp.perm _).mem_iff
      have grown := later.trans latest
      obtain ⟨⟨entry, member, reserves⟩, status⟩ := each _ _ (Database.dossier_of_get? found)
      obtain ⟨step, recorded, names⟩ := List.mem_map.mp status
      constructor
      · exact List.mem_map.mpr
          ⟨step, (history step).mpr ((grown.historyOf row.id).subset recorded), names⟩
      · exact ⟨entry, (entries entry).mpr ((later.entriesOf row.id).subset member), reserves⟩
      · exact fun old there => (entries old).mpr ((later.entriesOf row.id).subset there)
      · exact fun old there => (history old).mpr ((grown.historyOf row.id).subset there)
      · refine ⟨fun shown there => ?_, fun shown there => ?_⟩
        · exact latest.entries.subset (List.mem_of_mem_filter ((entries shown).mp there))
        · exact List.mem_of_mem_filter ((history shown).mp there)

/-- Whatever runs between the three queries of `findById`, the history shown tells how the
payment came to the status shown, the ledger shows its reservation, and nothing is missing
that was there when the payment was read. -/
theorem details_explained {deployment : Deployment} {initial : World} (rest : initial.AtRest)
    (each : initial.db.Each Dossier.Told)
    {first second third : Pool ProcessId Failure Operation.Reply World}
    (reached : Pool.Reachable backend (surroundings fun _ => Activity deployment) initial first)
    (later : Pool.Steps backend (surroundings fun _ => Activity deployment) first second)
    (latest : Pool.Steps backend (surroundings fun _ => Activity deployment) second third)
    {byCreatedAt : OrderBy LedgerEntry.createdAt}
    {byTimestamp : OrderBy TransactionStateHistory.timestamp} {id : TransactionId}
    {details : PaymentDetails}
    (answered : PaymentsService.findById byCreatedAt byTimestamp first.shared.db second.shared.db
      third.shared.db id = .ok details) :
    details.Explained first.shared.db third.shared.db := by
  obtain ⟨validFirst, _, told⟩ := Activity.steps_grow (Setting.valid_quiet rest) reached
  obtain ⟨validSecond, grows, _⟩ := Activity.steps_grow validFirst later
  obtain ⟨_, grown, _⟩ := Activity.steps_grow validSecond latest
  exact PaymentsService.explained_findById (told each) grows grown answered

/-- A payment was made. -/
def paidPool : Pool ProcessId Failure Operation.Reply World :=
  takeTurns backend sampleDeployment
    [{ who := 0, starts := some (.createPayment samplePayment "key") }] (Pool.quiet sampleWorld)

/-- A dispute about it was rejected. -/
def resolvedPool : Pool ProcessId Failure Operation.Reply World :=
  takeTurns backend sampleDeployment
    [{ who := 1, starts := some (.resolveDispute 0 ⟨.reject⟩) }] paidPool

/-- The dispute is resolved between the first query and the second. -/
theorem details_explained_sample :
    ∃ details, PaymentsService.findById (.stable _) (.stable _) paidPool.shared.db
        resolvedPool.shared.db resolvedPool.shared.db 0 = .ok details ∧
      (details.transaction.payment.status = .processing ∧ details.stateHistory.length = 3) ∧
      details.Explained paidPool.shared.db resolvedPool.shared.db := by
  have shape : (PaymentsService.findById (.stable _) (.stable _) paidPool.shared.db
      resolvedPool.shared.db resolvedPool.shared.db 0).toOption.map (fun details =>
        (details.transaction.payment.status, details.stateHistory.length)) =
      some (.processing, 3) := by decide +kernel
  obtain ⟨details, answered, shown⟩ := Option.map_eq_some_iff.mp shape
  have answered : PaymentsService.findById (.stable _) (.stable _) paidPool.shared.db
      resolvedPool.shared.db resolvedPool.shared.db 0 = .ok details := by
    cases outcome : PaymentsService.findById (.stable _) (.stable _) paidPool.shared.db
        resolvedPool.shared.db resolvedPool.shared.db 0 with
    | error error =>
        rw [outcome] at answered
        cases answered
    | ok found =>
        rw [outcome] at answered
        cases answered
        rfl
  have paid : Pool.Reachable backend (surroundings fun _ => Activity sampleDeployment) sampleWorld
      paidPool :=
    takeTurns_activities (by decide +kernel) (by simp)
  have resolved : Pool.Steps backend (surroundings fun _ => Activity sampleDeployment) paidPool
      resolvedPool :=
    takeTurns_activities (by decide +kernel) (by simp)
  have each : sampleWorld.db.Each Dossier.Told :=
    Database.each_of_rows fun _ absurd => by cases absurd
  exact ⟨details, answered, Prod.mk.inj shown,
    details_explained sampleWorld_atRest each paid resolved .refl answered⟩

end Payroute
