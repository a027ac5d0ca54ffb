import Mathlib.Algebra.BigOperators.Group.Finset.Basic
import Payroute.Books.AccountBook
import Payroute.Guarantees.Balances
import Payroute.Guarantees.Refunds
import Payroute.Guarantees.WellFormed

/-! # The tables keep an account book

However concurrent operations interleave, fail or die, the committed payments and
balances go through the states of an account book that takes one action at a time.
The statuses of the payments then determine every balance.
-/

namespace Payroute

open EffectSystem KeyedTable

/-- What the tables of the book satisfy. -/
structure Database.Ordered (db : Database) : Prop where
  payments : db.Each Dossier.Undisputed
  formed : db.WellFormed

namespace Database

variable {first second db : Database}

/-- What the entries of a payment move is what its deal has moved. -/
theorem Ordered.net_eq (ordered : db.Ordered) (id : TransactionId) (account : AccountId) :
    netOf (db.postingsOf id) account = moved (db.accountBook.state id) account := by
  cases found : db.transactions.get? id with
  | none =>
      have unposted : db.entriesOf id = [] := by
        refine List.filter_eq_nil_iff.mpr fun entry member => ?_
        obtain ⟨row, there, _⟩ := ordered.formed.owned entry member
        intro own
        rw [of_decide_eq_true own, found] at there
        cases there
      rw [moved_of_absent found]
      unfold postingsOf
      rw [unposted]
      rfl
  | some row =>
      rw [accountBook_of_get? found]
      exact (ordered.payments id _ (dossier_of_get? found)).lawful.net_eq account

/-- Posted entries raise the money on their accounts. -/
theorem moneyOn_apply {changes : Changes} (posts : changes.Posts)
    (known : ∀ entry ∈ changes.entries, first.accounts.get? entry.accountId ≠ none)
    (account : AccountId) :
    (changes.apply first).moneyOn account =
      first.moneyOn account + netOf (changes.entries.map LedgerEntry.posting) account := by
  obtain ⟨rounds, step⟩ := get?_adjustAll changes.adjustments first.accounts account
  change (changes.apply first).accounts.get? account = _ at step
  rw [posts, adjustmentOf_postings] at step
  cases found : first.accounts.get? account with
  | none =>
      have apart : ∀ posting ∈ changes.entries.map LedgerEntry.posting,
          ¬ posting.accountId = account := by
        intro posting member
        obtain ⟨entry, listed, rfl⟩ := List.mem_map.mp member
        rintro rfl
        exact known entry listed found
      have none : netOf (changes.entries.map LedgerEntry.posting) account = 0 := by
        unfold netOf
        rw [List.filter_eq_nil_iff.mpr fun posting member => by simpa using apart posting member]
        rfl
      rw [found, Option.map_none] at step
      unfold moneyOn
      rw [step, found, none, add_zero]
  | some row =>
      rw [found, Option.map_some] at step
      rw [moneyOn_of_get? found, moneyOn_of_get? step]

/-- A commit that changes one dossier posts entries of this payment only. -/
theorem entries_own {changes : Changes} {id : TransactionId}
    (formed : (changes.apply first).WellFormed)
    (others : ∀ other, other ≠ id → (changes.apply first).dossier other = first.dossier other) :
    ∀ entry ∈ changes.entries, entry.transactionId = id := by
  intro entry member
  by_contra differs
  have posted : (changes.apply first).entriesOf entry.transactionId =
      first.entriesOf entry.transactionId ++
        changes.entries.filter fun other => decide (other.transactionId = entry.transactionId) :=
    List.filter_append ..
  have listed : entry ∈ (changes.apply first).ledgerEntries :=
    List.mem_append.mpr (.inr member)
  obtain ⟨row, found, _⟩ := formed.owned entry listed
  have after := dossier_of_get? found
  have before := (others _ differs).symm.trans after
  have same : first.entriesOf entry.transactionId =
      (changes.apply first).entriesOf entry.transactionId := (get?_of_dossier before).2.1
  rw [← same] at posted
  have none := List.self_eq_append_right.mp posted
  have kept : entry ∈ changes.entries.filter fun other =>
      decide (other.transactionId = entry.transactionId) :=
    List.mem_filter.mpr ⟨member, decide_eq_true rfl⟩
  rw [none] at kept
  cases kept

/-- A commit that changes one dossier takes the position of this payment along. -/
theorem Ordered.shift (ordered : first.Ordered) (later : second.Ordered)
    (posts : ∃ changes : Changes, changes.Posts ∧ second = changes.apply first)
    {id : TransactionId}
    (others : ∀ other, other ≠ id → second.dossier other = first.dossier other) :
    Positions.Shift moved first.accountBook second.accountBook id
      (second.accountBook.state id) := by
  obtain ⟨changes, posts, rfl⟩ := posts
  have own := entries_own later.formed others
  refine ⟨rfl, fun other differs => accountBook_congr (others other differs), fun account => ?_⟩
  have known : ∀ entry ∈ changes.entries, first.accounts.get? entry.accountId ≠ none := by
    intro entry member absent
    have listed : entry ∈ (changes.apply first).ledgerEntries :=
      List.mem_append.mpr (.inr member)
    obtain ⟨row, found, owns⟩ := later.formed.owned entry listed
    have sides := later.formed.sides _ row found
    have existing : (changes.apply first).accounts.get? entry.accountId ≠ none := by
      rcases owns.side with sent | received
      · obtain ⟨account, there, _⟩ := sides.sender
        rw [← sent] at there
        exact Option.ne_none_iff_exists'.mpr ⟨account, there⟩
      · obtain ⟨account, there, _⟩ := sides.recipient
        rw [← received] at there
        exact Option.ne_none_iff_exists'.mpr ⟨account, there⟩
    obtain ⟨_, step⟩ := get?_adjustAll changes.adjustments first.accounts entry.accountId
    rw [absent, Option.map_none] at step
    exact existing step
  have money := moneyOn_apply posts known account
  have posted : (changes.apply first).postingsOf id =
      first.postingsOf id ++ changes.entries.map LedgerEntry.posting := by
    have all : changes.entries.filter (fun entry => decide (entry.transactionId = id)) =
        changes.entries :=
      List.filter_eq_self.mpr fun entry member => decide_eq_true (own entry member)
    change List.map _ (List.filter _ (first.ledgerEntries ++ changes.entries)) = _
    rw [List.filter_append, all, List.map_append]
    rfl
  have after := later.net_eq id account
  rw [posted, netOf_append, ordered.net_eq] at after
  change (changes.apply first).moneyOn account = first.moneyOn account + _
  rw [money, ← after]
  omega

/-- Statements that keep balances in their columns overdraw no account. -/
theorem Solvent.covers (solvent : first.Solvent second) :
    first.accountBook.Covers second.accountBook := by
  intro account less
  change second.moneyOn account < first.moneyOn account at less
  change 0 ≤ second.moneyOn account
  cases found : second.accounts.get? account with
  | none =>
      unfold moneyOn
      rw [found]
      exact Int.le_refl 0
  | some row =>
      rw [moneyOn_of_get? found] at less ⊢
      rcases solvent row (Table.mem_of_get? found) with old | ⟨nonneg, _⟩
      · have before := Table.get?_of_mem old
        have named : key row = account := Table.key_of_get? found
        rw [named] at before
        rw [moneyOn_of_get? before] at less
        exact (Int.lt_irrefl _ less).elim
      · exact nonneg

/-- A commit that follows the lifecycle is an action on the book, or none. -/
theorem Ordered.steps {strict : Prop} {reaches : TransactionStatus → Prop}
    (ordered : first.Ordered) (later : second.Ordered)
    (posts : ∃ changes : Changes, changes.Posts ∧ second = changes.apply first)
    (solvent : first.Solvent second) (evolves : first.Evolves strict reaches second) :
    Relation.ReflTransGen AccountBook.Step first.accountBook second.accountBook := by
  have covers := solvent.covers
  cases evolves with
  | opens id row entry opened reserved absent after others parties nonneg posting =>
      have shift := ordered.shift later posts others
      have found := (get?_of_dossier after).1
      have sides := later.formed.sides id _ found
      rw [accountBook_of_get? found] at shift
      refine .single (.opens id _ ?_ rfl parties ⟨nonneg, sides.destination⟩ shift covers)
      change (first.transactions.get? id).map _ = none
      rw [absent, Option.map_none]
  | stays same =>
      have shift := ordered.shift later posts fun other (_ : other ≠ 0) => same other
      have equal := shift.rests (accountBook_congr (same 0))
      rw [equal]
  | rests id old new moves terms stage trace =>
      have shift := ordered.shift later posts moves.others
      have before := accountBook_of_get? (get?_of_dossier moves.before).1
      have status : new.row.status = old.row.status := congrArg Prod.fst stage
      have after := accountBook_of_get? (get?_of_dossier moves.after).1
      rw [Transaction.deal_of_terms terms, status] at after
      have equal := shift.rests (after.trans before.symm)
      rw [equal]
  | advances id old new moves terms advances trace reached =>
      have shift := ordered.shift later posts moves.others
      have before := accountBook_of_get? (get?_of_dossier moves.before).1
      have after := accountBook_of_get? (get?_of_dossier moves.after).1
      rw [after, Transaction.deal_of_terms terms] at shift
      exact .single (.goesOn id _ _ before advances.goes shift covers)

end Database

section Pools

variable {deployment : Deployment} {initial : World}

/-- Concurrent operations without disputes leave the tables ordered. -/
theorem Command.pool_ordered (rest : initial.AtRest) (empty : initial.db.transactions.rows = [])
    (unposted : initial.db.ledgerEntries = [])
    {pool : Pool ProcessId Failure Operation.Reply World}
    (reached : Pool.Reachable backend
      (surroundings (Command.Starts deployment Command.Undisputed)) initial pool) :
    pool.shared.db.Ordered where
  payments := Command.pool_undisputed rest empty reached
  formed := Command.pool_wellFormed rest (Database.wellFormed_of_empty empty unposted) reached

/-- From one state that concurrent operations reach to another, the book goes on
action by action. -/
theorem Command.pool_tracked {pool last : Pool ProcessId Failure Operation.Reply World}
    (valid : concurrent.Valid (Command.CommitsOf concurrent deployment Command.Undisputed)
      (fun _ _ _ => True) pool)
    (ordered : pool.shared.db.Ordered)
    (later : Pool.Steps backend
      (surroundings (Command.Starts deployment Command.Undisputed)) pool last) :
    last.shared.db.Ordered ∧ Relation.ReflTransGen AccountBook.Step pool.shared.db.accountBook
      last.shared.db.accountBook := by
  refine Command.pool_keeps (fun db => db.Ordered ∧
    Relation.ReflTransGen AccountBook.Step pool.shared.db.accountBook db.accountBook) ?_ ?_ valid
    ⟨ordered, .refl⟩ (Setting.steps_of_backend concurrent_unguarded later)
  · rintro first second beside ⟨⟨payments, formed⟩, run⟩
    rw [beside.books.accountBook]
    exact ⟨⟨payments.sameBooks beside.books, formed.sameBooks beside.books⟩, run⟩
  · rintro command first second undisputed commits solvent ⟨ordered, run⟩
    have evolves := undisputed.evolves commits ordered.payments
    have kept : second.Ordered :=
      ⟨evolves.undisputed ordered.payments, commits.wellFormed ordered.formed⟩
    exact ⟨kept, run.trans (ordered.steps kept commits.posts solvent evolves)⟩

/-- Whatever concurrent operations without disputes do, the account book takes one
action at a time. -/
theorem accountBook_refined (deployment : Deployment) (rest : initial.AtRest)
    (empty : initial.db.transactions.rows = []) (unposted : initial.db.ledgerEntries = [])
    {pool last : Pool ProcessId Failure Operation.Reply World}
    (reached : Pool.Reachable backend
      (surroundings (Command.Starts deployment Command.Undisputed)) initial pool)
    (later : Pool.Steps backend
      (surroundings (Command.Starts deployment Command.Undisputed)) pool last) :
    Relation.ReflTransGen AccountBook.Step pool.shared.db.accountBook
      last.shared.db.accountBook := by
  have shared := guarded_shared (fun _ _ => True)
    (Command.CommitsOf concurrent deployment Command.Undisputed)
  have valid := (Pool.Valid.steps (shared.compatible
    (Command.starts_outside shared fun _ _ made => made)) (Setting.valid_quiet rest)
    (Setting.steps_of_backend concurrent_unguarded reached)).1
  exact (Command.pool_tracked valid (Command.pool_ordered rest empty unposted reached) later).2

end Pools

/-- Two refunds race; the first has not committed yet. -/
def sampleRace : List Turn :=
  [{ who := 0, starts := some (.createPayment samplePayment "key") },
    { who := 1, starts := some (.process sampleJob) },
    { who := 2, starts := some (.processWebhook ⟨0, "completed"⟩ [] "secret") },
    { who := 3, starts := some (.refundPayment 0 ⟨"late"⟩), calls := 5 },
    { who := 4, starts := some (.refundPayment 0 ⟨"late"⟩) }]

theorem accountBook_refined_sample :
    let pool := takeTurns backend sampleDeployment sampleRace (Pool.quiet sampleWorld)
    let last := takeTurns backend sampleDeployment [{ who := 3 }] pool
    Relation.ReflTransGen AccountBook.Step pool.shared.db.accountBook
      last.shared.db.accountBook := by
  refine accountBook_refined sampleDeployment sampleWorld_atRest rfl rfl
    (takeTurns_commands (by decide +kernel) ?_) (takeTurns_commands (by decide +kernel) ?_)
  · simp [sampleRace, Command.Undisputed, WebhookPayloadDto.Admitted]
  · simp

/-- The positions of the stored payments, as a sum over the book. -/
theorem Database.sum_moved (db : Database) (account : AccountId) :
    ∑ id ∈ (db.transactions.rows.map Transaction.id).toFinset,
        moved (db.accountBook.state id) account =
      (db.transactions.rows.map fun row => row.deal.moved account).sum := by
  have nodup : (db.transactions.rows.map Transaction.id).Nodup := db.transactions.nodup
  rw [List.sum_toFinset _ nodup, List.map_map]
  refine congrArg List.sum (List.map_congr_left fun row member => ?_)
  have found : db.transactions.get? row.id = some row := Table.get?_of_mem member
  change moved (db.accountBook.state row.id) account = _
  rw [accountBook_of_get? found]
  rfl

/-- Every balance is the opening balance and what the payments, by their statuses, have
moved on the account. -/
theorem balances_determined (deployment : Deployment) {initial : World} (rest : initial.AtRest)
    (empty : initial.db.transactions.rows = []) (unposted : initial.db.ledgerEntries = [])
    {pool : Pool ProcessId Failure Operation.Reply World}
    (reached : Pool.Reachable backend
      (surroundings (Command.Starts deployment Command.Undisputed)) initial pool) :
    ∀ account ∈ pool.shared.db.accounts.rows, account.balance =
      initial.db.moneyOn account.id +
        (pool.shared.db.transactions.rows.map fun row => row.deal.moved account.id).sum := by
  intro account member
  have start : Pool.Reachable backend
      (surroundings (Command.Starts deployment Command.Undisputed)) initial (Pool.quiet initial) :=
    .refl
  have tracked := (Command.pool_tracked (Setting.valid_quiet rest)
    (Command.pool_ordered rest empty unposted start) reached).2
  have idle : ∀ id account, moved (initial.db.accountBook.state id) account = 0 := by
    intro id account
    cases found : initial.db.transactions.get? id with
    | none => exact Database.moved_of_absent found account
    | some row =>
        have stored := Table.mem_of_get? found
        rw [empty] at stored
        cases stored
  have settled := (Positions.settled_of_idle idle).run
    (Relation.ReflTransGen.mono (fun _ _ step => AccountBook.Step.shift step) _ _ tracked)
  have unknown : ∀ id,
      id ∉ (pool.shared.db.transactions.rows.map Transaction.id).toFinset → ∀ account,
        moved (pool.shared.db.accountBook.state id) account = 0 := by
    intro id absent account
    cases found : pool.shared.db.transactions.get? id with
    | none => exact Database.moved_of_absent found account
    | some row =>
        have named : row.id = id := Table.key_of_get? found
        exact (absent (List.mem_toFinset.mpr
          (List.mem_map.mpr ⟨row, Table.mem_of_get? found, named⟩))).elim
  have balance := settled.balance_eq unknown account.id
  rw [Database.sum_moved] at balance
  have found : pool.shared.db.accounts.get? account.id = some account := Table.get?_of_mem member
  rw [← Database.moneyOn_of_get? found]
  exact balance

theorem balances_determined_sample :
    let pool := takeTurns backend sampleDeployment sampleRace (Pool.quiet sampleWorld)
    ∀ account ∈ pool.shared.db.accounts.rows, account.balance =
      sampleWorld.db.moneyOn account.id +
        (pool.shared.db.transactions.rows.map fun row => row.deal.moved account.id).sum := by
  refine balances_determined sampleDeployment sampleWorld_atRest rfl rfl
    (takeTurns_commands (by decide +kernel) ?_)
  simp [sampleRace, Command.Undisputed, WebhookPayloadDto.Admitted]

end Payroute
