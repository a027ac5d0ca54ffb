import Payroute.Guarantees.Balances
import Payroute.Runs.Quotes

/-! # Payments and their quotes

The quote of a payment is stored in the same database transaction as the payment, under a
rate that may come from the cache. Operations, workers, requests, listings and statistics
run at the same time, any of their calls may fail before or after it took effect, and
processes may die. No payment is ever committed without its quote, on other terms than
the quote's, or after the quote expired.
-/

namespace Payroute

open EffectSystem

/-- **Every payment has a valid quote.** In every state a pool of processes reaches, each
committed payment names a committed quote with its currencies, rate and amounts, which
was made together with the payment and had not expired. -/
theorem payments_quoted {deployment : Deployment} {initial : World} (quoted : initial.Quoted)
    {pool : Pool ProcessId Failure Operation.Reply World}
    (reached : Pool.Reachable backend (surroundings fun _ => Activity deployment) initial pool) :
    ∀ row ∈ pool.shared.db.transactions.rows,
      ∃ quote ∈ pool.shared.db.fxQuotes, quote.Prices row := by
  obtain ⟨_, watched⟩ := (monitors_quoting deployment).reachable
    ⟨quoted, fun _ => trivial⟩ (fun _ _ _ _ => trivial) (fun _ _ _ _ => trivial) reached
  exact watched.fits.quoted.db

theorem sampleWorld_quoted : sampleWorld.Quoted where
  db := fun _ member => (List.not_mem_nil member).elim
  sessions := fun _ _ absurd => by cases absurd

/-- Two clients pay at the same time. -/
theorem payments_quoted_sample :
    let pool := takeTurns backend sampleDeployment samplePayments (Pool.quiet sampleWorld)
    pool.shared.db.transactions.rows ≠ [] ∧ ∀ row ∈ pool.shared.db.transactions.rows,
      ∃ quote ∈ pool.shared.db.fxQuotes, quote.Prices row := by
  have reached : Pool.Reachable backend (surroundings fun _ => Activity sampleDeployment)
      sampleWorld (takeTurns backend sampleDeployment samplePayments (Pool.quiet sampleWorld)) :=
    takeTurns_activities (by decide +kernel) (by simp [samplePayments])
  exact ⟨by decide +kernel, payments_quoted sampleWorld_quoted reached⟩

end Payroute
