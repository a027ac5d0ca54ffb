import Payroute.Guarantees.Publishing
import Payroute.Runs.Attribution

/-! # References and payments

Callbacks find their payment by its provider reference. Operations, workers, requests,
listings and statistics run at the same time, any of their calls may fail before or after
it took effect, and processes may die. Still a reference never leads to another payment
than the one that was submitted under it.
-/

namespace Payroute

open EffectSystem KeyedTable

section Activities

variable {deployment : Deployment} {initial : World}
  {before after : Pool ProcessId Failure Operation.Reply World}

/-- What every step of a pool of processes upholds. -/
theorem Activity.upheld (rest : initial.AtRest) (backed : initial.Backed)
    (reached : Pool.Reachable backend (surroundings fun _ => Activity deployment) initial before)
    (step : Pool.Step backend (surroundings fun _ => Activity deployment) before after) :
    before.shared.Upheld after.shared := by
  have valid := Activity.valid_reachable rest reached
  obtain ⟨persists, supplies⟩ := Activity.step_keeps valid step
  exact ⟨valid.inv, fun job queued => (Candid.of_reachable rest backed reached).backed _
    (.job queued), persists, supplies⟩

end Activities

/-- A reference of one payment only finds that payment. -/
theorem Database.byReference_of_unique {db : Database} {row : Transaction}
    {reference : ProviderReference} (member : row ∈ db.transactions.rows)
    (stored : row.providerReference = some reference)
    (unique : ∀ other ∈ db.transactions.rows, other.providerReference = some reference →
      other.id = row.id) : db.byReference reference = some row := by
  have present : (db.byReference reference).isSome :=
    List.find?_isSome.mpr ⟨row, member, decide_eq_true stored⟩
  obtain ⟨found, looked⟩ := Option.isSome_iff_exists.mp present
  have there : found ∈ db.transactions.rows := List.mem_of_find?_eq_some looked
  have names := List.find?_some looked
  have same := unique found there (of_decide_eq_true names)
  rw [looked, db.transactions.eq_of_key_eq there member same]

/-- In the tables a reference is looked up in, it is of one payment. -/
theorem World.Attributed.byReference {world : World} (attributed : world.Attributed)
    {row : Transaction} (member : row ∈ world.db.transactions.rows)
    {reference : ProviderReference} (stored : row.providerReference = some reference) :
    world.db.byReference reference = some row :=
  Database.byReference_of_unique member stored fun other there names =>
    attributed.unique other.id row.id reference
      ((World.referenceOf_of_mem there).trans names)
      ((World.referenceOf_of_mem member).trans stored)

/-- **References are attributed.** In every state a pool of processes reaches, the stored
reference of a payment finds that payment, and it is the reference of exactly one callback
of the provider, which states the amount and the currency of the payment. -/
theorem references_attributed {deployment : Deployment} {initial : World} (rest : initial.AtRest)
    (backed : initial.Backed) (attributed : initial.Attributed)
    {pool : Pool ProcessId Failure Operation.Reply World}
    (reached : Pool.Reachable backend (surroundings fun _ => Activity deployment) initial pool)
    {row : Transaction} (member : row ∈ pool.shared.db.transactions.rows)
    {reference : ProviderReference} (stored : row.providerReference = some reference) :
    pool.shared.db.byReference reference = some row ∧
      ∃ callback ∈ pool.shared.callbacks, callback.reference = reference ∧
        numericOfText callback.amount = some row.sourceAmount ∧
        callback.currency = row.sourceCurrency ∧
        ∀ other ∈ pool.shared.callbacks, other.reference = reference → other = callback := by
  obtain ⟨_, watched⟩ := (monitors_attribution deployment).reachable
    ⟨attributed, rest.sessions, nofun⟩
    (fun _ reached => (Activity.valid_reachable rest reached).resting)
    (fun _ _ reached step => Activity.upheld rest backed reached step) reached
  have kept := watched.fits.attributed
  obtain ⟨callback, scheduled, same, amount, currency⟩ :=
    kept.answers row member reference stored
  refine ⟨kept.byReference member stored, callback, scheduled, same, amount, currency, ?_⟩
  intro other there named
  exact List.inj_on_of_nodup_map kept.distinct there scheduled (named.trans same.symm)

/-! ## A submission -/

/-- A client pays, and a worker takes the job. -/
def sampleSubmitting : List (Pool.Move ProcessId Delivery Failure Operation.Reply) :=
  .spawn 0 (Command.program sampleDeployment (.createPayment samplePayment "key")) ::
    List.replicate 40 (.call 0 .delivered) ++
      .spawn 1 (ProviderProcessor.work (.serial 0)) :: List.replicate 5 (.call 1 .delivered)

theorem sampleWorld_attributed : sampleWorld.Attributed where
  fresh := fun _ absurd => by cases absurd
  distinct := List.nodup_nil
  answers := fun _ absurd => by cases absurd
  unique := fun _ _ _ absurd => by cases absurd
  logs := fun _ _ _ absurd => by cases absurd

theorem references_attributed_sample :
    let pool := Pool.playAll backend (Pool.quiet sampleWorld) sampleSubmitting
    ∃ row ∈ pool.shared.db.transactions.rows, pool.shared.db.byReference 0 = some row ∧
      ∃ callback ∈ pool.shared.callbacks, callback.reference = 0 ∧
        numericOfText callback.amount = some row.sourceAmount ∧
        callback.currency = row.sourceCurrency ∧
        ∀ other ∈ pool.shared.callbacks, other.reference = 0 → other = callback := by
  intro pool
  have submitted : pool.shared.db.referenceOf 0 = some 0 := by decide +kernel
  obtain ⟨row, found, stored⟩ := Option.bind_eq_some_iff.mp submitted
  have reached : Pool.Reachable backend (surroundings fun _ => Activity sampleDeployment)
      sampleWorld pool := by
    refine Pool.playAll_steps sampleSubmitting (by decide +kernel) fun who body member => ?_
    rcases List.mem_append.mp member with first | second
    · rcases List.mem_cons.mp first with same | called
      · cases same
        exact .operation _ nofun
      · cases (List.mem_replicate.mp called).2
    · rcases List.mem_cons.mp second with same | called
      · cases same
        exact .work _
      · cases (List.mem_replicate.mp called).2
  clear_value pool
  have member : row ∈ pool.shared.db.transactions.rows := Table.mem_of_get? found
  exact ⟨row, member, references_attributed sampleWorld_atRest sampleWorld_backed
    sampleWorld_attributed reached member stored⟩

end Payroute
