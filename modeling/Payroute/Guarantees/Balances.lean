import Payroute.Books.Balances
import Payroute.Runs.Serial

/-! # Balances agree with the ledger

In every state that concurrent operations commit, each balance is the opening
balance plus the entries of the account, and no account is overdrawn.
-/

namespace Payroute

open EffectSystem KeyedTable

/-- Balances are nonnegative. -/
def Database.Covered (db : Database) : Prop := ∀ row ∈ db.accounts.rows, 0 ≤ row.balance

theorem Database.Covered.solvent {first second : Database} (covered : first.Covered)
    (solvent : first.Solvent second) : second.Covered := by
  intro row member
  rcases solvent row member with old | ⟨nonneg, _⟩
  · exact covered row old
  · exact nonneg

/-- Operations that run concurrently keep balances and ledger together and
overdraw no account. -/
theorem balances_agree (deployment : Deployment) (opening : AccountId → Int) {initial : World}
    (rest : initial.AtRest) (balanced : initial.db.Balanced opening)
    (covered : initial.db.Covered) {pool : Pool ProcessId Failure Operation.Reply World}
    (reached : Pool.Reachable backend (surroundings (Command.Starts deployment fun _ => True))
      initial pool) :
    pool.shared.db.Balanced opening ∧ pool.shared.db.Covered := by
  have steps := Setting.steps_of_backend concurrent_unguarded reached
  refine Command.pool_keeps (fun db => db.Balanced opening ∧ db.Covered) ?_ ?_
    (Setting.valid_quiet rest) ⟨balanced, covered⟩ steps
  · rintro first second beside ⟨balanced, covered⟩
    obtain ⟨accounts, _, entries, _⟩ := beside.books
    constructor
    · unfold Database.Balanced Database.postedTo
      rw [accounts, entries]
      exact balanced
    · unfold Database.Covered
      rw [accounts]
      exact covered
  · rintro command first second _ commits solvent ⟨balanced, covered⟩
    obtain ⟨changes, posts, rfl⟩ := commits.posts
    exact ⟨posts.balanced balanced, covered.solvent solvent⟩

instance (db : Database) : Decidable db.Covered :=
  inferInstanceAs (Decidable (∀ row ∈ db.accounts.rows, 0 ≤ row.balance))

/-- Two payments of the same sender are under way. -/
def samplePayments : List Turn :=
  [{ who := 0, starts := some (.createPayment samplePayment "first"), calls := 9 },
    { who := 1, starts := some (.createPayment samplePayment "second") },
    { who := 0 }]

theorem balances_agree_sample :
    let last := takeTurns backend sampleDeployment samplePayments (Pool.quiet sampleWorld)
    last.shared.db.Balanced (fun _ => 1000) ∧ last.shared.db.Covered :=
  balances_agree sampleDeployment (fun _ => 1000) sampleWorld_atRest (by decide +kernel)
    (by decide +kernel) (takeTurns_commands (by decide +kernel) fun _ _ _ _ => trivial)

end Payroute
