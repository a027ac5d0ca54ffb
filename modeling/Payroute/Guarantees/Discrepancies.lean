import Payroute.Books.AccountBook
import Payroute.Guarantees.Balances
import Payroute.Guarantees.Reconciliation

/-! # Reconciliation of a running system

The operations move balances and ledger together, so what the check finds amiss was
amiss at the beginning, by the same amount, and stays so. Only an account without
money that the check reports for want of entries drops out of the report.
-/

namespace Payroute

open EffectSystem KeyedTable ReconciliationService

/-- By how much the stored balance and the ledger sum that a line states differ. -/
def ReconciliationMismatch.excess (line : ReconciliationMismatch) : Int :=
  FxService.parseAmount line.storedBalance - FxService.parseAmount line.ledgerSum

/-- The accounts of a report, each with what its balance holds beyond its ledger sum. -/
def ReconciliationReport.lines (report : ReconciliationReport) : List (AccountId × Int) :=
  report.mismatches.map fun line => (line.accountId, line.excess)

/-- What an account holds beyond its ledger entries. -/
def Database.excess (db : Database) (id : AccountId) : Int :=
  db.moneyOn id - db.postedTo id

theorem Database.excess_of_mem {db : Database} {account : Account}
    (member : account ∈ db.accounts.rows) :
    db.excess account.id = account.balance - db.postedTo account.id := by
  have found : db.accounts.get? account.id = some account := Table.get?_of_mem member
  unfold excess
  rw [moneyOn_of_get? found]

/-- The report states the balance and the sum of the entries. -/
theorem excess_eq (db : Database) (account : Account) :
    (mismatch (balanceRow db account)).excess = account.balance - db.postedTo account.id := by
  have stored : FxService.parseAmount (amountText account.balance) = account.balance := by
    unfold FxService.parseAmount
    rw [numericOfText_amountText, Option.getD_some]
  have sum : FxService.parseAmount (balanceRow db account).ledgerSum = db.postedTo account.id := by
    by_cases used : db.Used account.id
    · rw [ledgerSum_of_used used]
      unfold FxService.parseAmount
      rw [numericOfText_amountText, Option.getD_some]
    · rw [(ledgerSum_of_unused used).1, (ledgerSum_of_unused used).2]
      decide
  change FxService.parseAmount (amountText account.balance) -
    FxService.parseAmount (balanceRow db account).ledgerSum = _
  rw [stored, sum]

/-- What the report says about an account. -/
theorem mem_lines_iff (db : Database) (id : AccountId) (excess : Int) :
    (id, excess) ∈ (runLedgerVsBalanceCheck db).lines ↔
      (db.accounts.get? id ≠ none ∧ excess = db.excess id) ∧
        (db.excess id ≠ 0 ∨ ¬ db.Used id) := by
  unfold ReconciliationReport.lines runLedgerVsBalanceCheck
  simp only
  rw [balanceRows_eq, List.filter_map, List.map_map, List.map_map, List.mem_map]
  constructor
  · rintro ⟨account, member, same⟩
    obtain ⟨present, reported⟩ := List.mem_filter.mp member
    obtain ⟨named, differs⟩ := Prod.mk.inj same
    change account.id = id at named
    subst named
    have found : db.accounts.get? account.id = some account := Table.get?_of_mem present
    refine ⟨⟨?_, ?_⟩, ?_⟩
    · rw [found]
      exact Option.some_ne_none _
    · rw [Database.excess_of_mem present, ← excess_eq]
      exact differs.symm
    · rw [Database.excess_of_mem present]
      rcases (having_iff db account).mp reported with unequal | unused
      · exact .inl (sub_ne_zero.mpr unequal)
      · exact .inr unused
  · rintro ⟨⟨known, rfl⟩, reason⟩
    obtain ⟨account, found⟩ := Option.ne_none_iff_exists'.mp known
    have present := Table.mem_of_get? found
    have named : account.id = id := Table.key_of_get? found
    subst named
    rw [Database.excess_of_mem present] at reason ⊢
    refine ⟨account, List.mem_filter.mpr ⟨present, (having_iff db account).mpr ?_⟩, ?_⟩
    · exact reason.imp_left sub_ne_zero.mp
    · exact Prod.ext rfl (excess_eq db account)

/-- The accounts and what they hold beyond their entries stay, and entries are never
removed. -/
structure Database.KeepsExcess (first second : Database) : Prop where
  accounts : ∀ id, second.accounts.get? id ≠ none ↔ first.accounts.get? id ≠ none
  excess : ∀ id, first.accounts.get? id ≠ none → second.excess id = first.excess id
  used : ∀ id, first.Used id → second.Used id

namespace Database.KeepsExcess

variable {first second third : Database}

theorem refl (db : Database) : db.KeepsExcess db where
  accounts := fun _ => Iff.rfl
  excess := fun _ _ => rfl
  used := fun _ => id

theorem trans (left : first.KeepsExcess second) (right : second.KeepsExcess third) :
    first.KeepsExcess third where
  accounts := fun id => (right.accounts id).trans (left.accounts id)
  excess := fun id known => (right.excess id ((left.accounts id).mpr known)).trans
    (left.excess id known)
  used := fun id used => right.used id (left.used id used)

theorem of_same (same : first.SameBooks second) : first.KeepsExcess second := by
  refine ⟨fun id => ?_, fun id _ => ?_, fun id => ?_⟩
  · rw [same.accounts]
  · unfold Database.excess Database.moneyOn Database.postedTo
    rw [same.accounts, same.ledgerEntries]
  · unfold Database.Used
    rw [same.ledgerEntries]
    exact fun used => used

/-- A commit that posts what it adds. -/
theorem of_posts {changes : Changes} (posts : changes.Posts) :
    first.KeepsExcess (changes.apply first) := by
  refine ⟨fun id => ?_, fun id known => ?_, fun id => ?_⟩
  · obtain ⟨_, step⟩ := get?_adjustAll changes.adjustments first.accounts id
    change (changes.apply first).accounts.get? id = _ at step
    rw [step, ne_eq, Option.map_eq_none_iff]
  · obtain ⟨row, found⟩ := Option.ne_none_iff_exists'.mp known
    obtain ⟨_, step⟩ := get?_adjustAll changes.adjustments first.accounts id
    change (changes.apply first).accounts.get? id = _ at step
    rw [found, Option.map_some, posts, Changes.adjustmentOf_entries] at step
    unfold Database.excess
    rw [Database.moneyOn_of_get? step, Database.moneyOn_of_get? found, Changes.postedTo_apply]
    exact add_sub_add_right_eq_sub _ _ _
  · rintro ⟨entry, member, same⟩
    exact ⟨entry, List.mem_append.mpr (.inl member), same⟩

/-- The report of a later check. -/
theorem lines (keeps : first.KeepsExcess second) (id : AccountId) (excess : Int) :
    ((id, excess) ∈ (runLedgerVsBalanceCheck second).lines →
        (id, excess) ∈ (runLedgerVsBalanceCheck first).lines) ∧
      ((id, excess) ∈ (runLedgerVsBalanceCheck first).lines → excess ≠ 0 →
        (id, excess) ∈ (runLedgerVsBalanceCheck second).lines) := by
  constructor
  · intro reported
    obtain ⟨⟨known, rfl⟩, reason⟩ := (mem_lines_iff second id excess).mp reported
    have before := (keeps.accounts id).mp known
    rw [keeps.excess id before] at reason
    refine (mem_lines_iff first id _).mpr ⟨⟨before, by rw [keeps.excess id before]⟩, ?_⟩
    exact reason.imp_right fun unused used => unused (keeps.used id used)
  · intro reported amiss
    obtain ⟨⟨known, rfl⟩, _⟩ := (mem_lines_iff first id excess).mp reported
    have same := keeps.excess id known
    refine (mem_lines_iff second id _).mpr ⟨⟨(keeps.accounts id).mpr known, same.symm⟩, .inl ?_⟩
    rw [same]
    exact amiss

end Database.KeepsExcess

/-- What the check reports in any state of concurrent operations it reported in every
earlier state, with the same difference between balance and ledger sum; and a difference
other than zero is reported in every later state. -/
theorem discrepancies_stay (deployment : Deployment) {initial : World} (rest : initial.AtRest)
    {pool last : Pool ProcessId Failure Operation.Reply World}
    (reached : Pool.Reachable backend (surroundings (Command.Starts deployment fun _ => True))
      initial pool)
    (later : Pool.Steps backend (surroundings (Command.Starts deployment fun _ => True)) pool last)
    (id : AccountId) (excess : Int) :
    ((id, excess) ∈ (runLedgerVsBalanceCheck last.shared.db).lines →
        (id, excess) ∈ (runLedgerVsBalanceCheck pool.shared.db).lines) ∧
      ((id, excess) ∈ (runLedgerVsBalanceCheck pool.shared.db).lines →
        excess ≠ 0 →
        (id, excess) ∈ (runLedgerVsBalanceCheck last.shared.db).lines) := by
  have shared := guarded_shared (fun _ _ => True)
    (Command.CommitsOf concurrent deployment fun _ => True)
  have valid := (Pool.Valid.steps (shared.compatible
    (Command.starts_outside shared fun _ _ made => made)) (Setting.valid_quiet rest)
    (Setting.steps_of_backend concurrent_unguarded reached)).1
  have keeps : pool.shared.db.KeepsExcess last.shared.db := by
    refine Command.pool_keeps (fun db => pool.shared.db.KeepsExcess db) ?_ ?_ valid
      (Database.KeepsExcess.refl _) (Setting.steps_of_backend concurrent_unguarded later)
    · exact fun first second beside keeps => keeps.trans (.of_same beside.books)
    · intro command first second _ commits _ keeps
      obtain ⟨changes, posts, rfl⟩ := commits.posts
      exact keeps.trans (.of_posts posts)
  exact keeps.lines id excess

/-- The opening balance of an account is nowhere in the ledger. -/
theorem discrepancies_stay_sample :
    let pool := takeTurns backend sampleDeployment samplePayments (Pool.quiet sampleWorld)
    let last := takeTurns backend sampleDeployment
      [{ who := 2, starts := some (.createPayment samplePayment "third") }] pool
    (0, 1000) ∈ (runLedgerVsBalanceCheck pool.shared.db).lines ∧
      (0, 1000) ∈ (runLedgerVsBalanceCheck last.shared.db).lines := by
  intro pool last
  have reached : Pool.Reachable backend
      (surroundings (Command.Starts sampleDeployment fun _ => True)) sampleWorld pool :=
    takeTurns_commands (by decide +kernel) fun _ _ _ _ => trivial
  have later : Pool.Steps backend
      (surroundings (Command.Starts sampleDeployment fun _ => True)) pool last :=
    takeTurns_commands (by decide +kernel) fun _ _ _ _ => trivial
  have reported : (0, 1000) ∈ (runLedgerVsBalanceCheck pool.shared.db).lines := by decide +kernel
  have stays := (discrepancies_stay sampleDeployment sampleWorld_atRest reached later 0 1000).2
  exact ⟨reported, stays reported (by decide)⟩

end Payroute
