import Payroute.Books.Balances
import Payroute.Books.Postings
import Payroute.Services.Reconciliation

/-! # Reconciliation

The check compares the texts of two amounts. Texts of one scale are equal only for
equal amounts, but the sum of no entries is printed without decimal places, so the
check takes a new account for a mismatch.
-/

namespace Payroute

open KeyedTable Relational ReconciliationService

theorem amountText_injective {first second : Int} (same : amountText first = amountText second) :
    first = second := by
  have read := congrArg numericOfText same
  rw [numericOfText_amountText, numericOfText_amountText] at read
  exact Option.some.inj read

/-- The column's texts have a decimal point, the literal has none. -/
theorem amountText_ne_literal (amount : Int) : amountText amount ≠ ['0'] := by
  intro same
  have point : '.' ∈ amountText amount := by
    unfold amountText
    cases amount <;> simp [FixedPoint.columnText, FixedPoint.magnitudeText]
  rw [same] at point
  cases List.mem_singleton.mp point

/-- Whether any ledger entry belongs to the account. -/
def Database.Used (db : Database) (id : AccountId) : Prop :=
  ∃ entry ∈ db.ledgerEntries, entry.accountId = id

/-- The amounts the sum of an account's group is taken of. -/
theorem reduceOption_amounts (db : Database) (account : Account) :
    ((partners (fun (account : Account) (entry : LedgerEntry) =>
        decide (entry.accountId = account.id)) db.ledgerEntries account).map fun joined =>
        joined.2.map LedgerEntry.amount).reduceOption =
      (db.ledgerEntries.filter fun entry => decide (entry.accountId = account.id)).map
        LedgerEntry.amount :=
  reduceOption_partners _ _ _ _

/-- The row of the query for an account. -/
def balanceRow (db : Database) (account : Account) : BalanceRow where
  accountId := account.id
  storedBalance := amountText account.balance
  ledgerSum := ledgerSumText ((partners (fun (account : Account) (entry : LedgerEntry) =>
    decide (entry.accountId = account.id)) db.ledgerEntries account).map fun joined =>
    joined.2.map LedgerEntry.amount)

/-- The query returns one row for each account. -/
theorem balanceRows_eq (db : Database) :
    balanceRows db = db.accounts.rows.map (balanceRow db) := by
  have distinct : (db.accounts.rows.map fun account => (account.id, account.balance)).Nodup := by
    apply List.Nodup.of_map Prod.fst
    rw [List.map_map]
    exact db.accounts.nodup
  unfold balanceRows joinedEntries
  have grouped := groupBy_leftJoin (fun (account : Account) (entry : LedgerEntry) =>
    decide (entry.accountId = account.id)) db.ledgerEntries distinct
  rw [grouped, List.map_map]
  rfl

/-- The printed sum of an account with entries. -/
theorem ledgerSum_of_used {db : Database} {account : Account} (used : db.Used account.id) :
    (balanceRow db account).ledgerSum = amountText (db.postedTo account.id) := by
  have nonempty : (db.ledgerEntries.filter fun entry =>
      decide (entry.accountId = account.id)).map LedgerEntry.amount ≠ [] := by
    obtain ⟨entry, member, same⟩ := used
    exact List.ne_nil_of_mem
      (List.mem_map_of_mem (List.mem_filter.mpr ⟨member, decide_eq_true same⟩))
  rw [← reduceOption_amounts] at nonempty
  change ledgerSumText _ = _
  unfold ledgerSumText
  rw [sum?_of_ne_nil nonempty, reduceOption_amounts]
  rfl

/-- The printed sum of an account without entries. -/
theorem ledgerSum_of_unused {db : Database} {account : Account} (unused : ¬ db.Used account.id) :
    (balanceRow db account).ledgerSum = ['0'] ∧ db.postedTo account.id = 0 := by
  have none : (db.ledgerEntries.filter fun entry =>
      decide (entry.accountId = account.id)).map LedgerEntry.amount = [] := by
    rw [List.map_eq_nil_iff, List.filter_eq_nil_iff]
    intro entry member same
    exact unused ⟨entry, member, of_decide_eq_true same⟩
  constructor
  · change ledgerSumText _ = _
    unfold ledgerSumText
    rw [sum?_of_eq_nil ((reduceOption_amounts db account).trans none)]
  · unfold Database.postedTo
    rw [none, List.sum_nil]

/-- The check reports an account whose balance differs from its entries, and every
account without entries. -/
theorem having_iff (db : Database) (account : Account) :
    having (balanceRow db account) = true ↔
      account.balance ≠ db.postedTo account.id ∨ ¬ db.Used account.id := by
  unfold having
  rw [decide_eq_true_eq]
  change amountText account.balance ≠ (balanceRow db account).ledgerSum ↔ _
  by_cases used : db.Used account.id
  · rw [ledgerSum_of_used used]
    simp only [used, not_true_eq_false, or_false, ne_eq]
    exact not_congr ⟨amountText_injective, congrArg amountText⟩
  · rw [(ledgerSum_of_unused used).1]
    simp only [used, not_false_eq_true, or_true, iff_true]
    exact amountText_ne_literal account.balance

/-- What the report is meant to say about the tables. -/
structure ReconciliationReport.Faithful (report : ReconciliationReport) (db : Database) : Prop where
  ok : report.ok = true ↔
    ∀ account ∈ db.accounts.rows, account.balance = db.postedTo account.id
  lists : report.ok = false → ∀ id, id ∈ report.mismatches.map ReconciliationMismatch.accountId ↔
    ∃ account ∈ db.accounts.rows, account.id = id ∧ account.balance ≠ db.postedTo id
  once : report.ok = false → (report.mismatches.map ReconciliationMismatch.accountId).Nodup

/-- The accounts of the report. -/
theorem mismatches_accounts (db : Database) :
    (runLedgerVsBalanceCheck db).mismatches.map ReconciliationMismatch.accountId =
      (db.accounts.rows.filter fun account => having (balanceRow db account)).map Account.id := by
  unfold runLedgerVsBalanceCheck
  simp only
  rw [balanceRows_eq, List.filter_map, List.map_map, List.map_map]
  rfl

theorem mem_mismatches_iff (db : Database) (id : AccountId) :
    id ∈ (runLedgerVsBalanceCheck db).mismatches.map ReconciliationMismatch.accountId ↔
      ∃ account ∈ db.accounts.rows, account.id = id ∧
        (account.balance ≠ db.postedTo id ∨ ¬ db.Used id) := by
  rw [mismatches_accounts, List.mem_map]
  constructor
  · rintro ⟨account, member, rfl⟩
    obtain ⟨present, reported⟩ := List.mem_filter.mp member
    exact ⟨account, present, rfl, (having_iff db account).mp reported⟩
  · rintro ⟨account, present, rfl, reason⟩
    exact ⟨account, List.mem_filter.mpr ⟨present, (having_iff db account).mpr reason⟩, rfl⟩

theorem ok_iff (db : Database) :
    (runLedgerVsBalanceCheck db).ok = true ↔ ∀ account ∈ db.accounts.rows,
      account.balance = db.postedTo account.id ∧ db.Used account.id := by
  have empty : (runLedgerVsBalanceCheck db).ok = true ↔
      (runLedgerVsBalanceCheck db).mismatches.map ReconciliationMismatch.accountId = [] := by
    rw [List.map_eq_nil_iff, ← List.length_eq_zero_iff]
    exact decide_eq_true_iff
  rw [empty, List.eq_nil_iff_forall_not_mem]
  constructor
  · intro silent account present
    have unreported := silent account.id
    rw [mem_mismatches_iff] at unreported
    by_contra wrong
    apply unreported
    refine ⟨account, present, rfl, ?_⟩
    by_cases same : account.balance = db.postedTo account.id
    · exact .inr fun used => wrong ⟨same, used⟩
    · exact .inl same
  · intro agree id reported
    obtain ⟨account, present, rfl, reason⟩ := (mem_mismatches_iff db id).mp reported
    obtain ⟨same, used⟩ := agree account present
    rcases reason with differs | unused
    · exact differs same
    · exact unused used

/-- The report is right exactly where no account with a balance of zero is without
entries. -/
theorem reconciliation_faithful_iff (db : Database) :
    (runLedgerVsBalanceCheck db).Faithful db ↔
      ∀ account ∈ db.accounts.rows, account.balance = 0 → db.Used account.id := by
  constructor
  · intro faithful account present zero
    by_contra unused
    have agrees : account.balance = db.postedTo account.id := by
      rw [zero, (ledgerSum_of_unused unused).2]
    have refused : (runLedgerVsBalanceCheck db).ok = false := by
      rw [← Bool.not_eq_true, ok_iff]
      exact fun all => unused (all account present).2
    have listed := (mem_mismatches_iff db account.id).mpr ⟨account, present, rfl, .inr unused⟩
    obtain ⟨other, there, named, differs⟩ := (faithful.lists refused account.id).mp listed
    rw [db.accounts.eq_of_key_eq there present named] at differs
    exact differs agrees
  · intro zeros
    have justified : ∀ account ∈ db.accounts.rows,
        account.balance = db.postedTo account.id → db.Used account.id := by
      intro account present agrees
      by_contra unused
      rw [(ledgerSum_of_unused unused).2] at agrees
      exact unused (zeros account present agrees)
    constructor
    · rw [ok_iff]
      constructor
      · exact fun all account present => (all account present).1
      · exact fun all account present =>
          ⟨all account present, justified account present (all account present)⟩
    · intro _ id
      rw [mem_mismatches_iff]
      constructor
      · rintro ⟨account, present, rfl, differs | unused⟩
        · exact ⟨account, present, rfl, differs⟩
        · exact ⟨account, present, rfl, fun agrees => unused (justified account present agrees)⟩
      · rintro ⟨account, present, rfl, differs⟩
        exact ⟨account, present, rfl, .inl differs⟩
    · intro _
      rw [mismatches_accounts]
      exact db.accounts.nodup.sublist (List.filter_sublist.map _)

/-- An account nobody has used yet. -/
def unusedAccount : Database where
  accounts := Table.empty.put { id := 0, currency := "USD", balance := 0, version := 1 }
  fxQuotes := []
  transactions := .empty
  ledgerEntries := []
  stateHistory := []
  webhookEvents := .empty
  idempotencyKeys := .empty

/-- The check takes a new account for a mismatch. -/
theorem unused_account_reported :
    ¬ (runLedgerVsBalanceCheck unusedAccount).Faithful unusedAccount := by
  intro faithful
  have agree : ∀ account ∈ unusedAccount.accounts.rows,
      account.balance = unusedAccount.postedTo account.id := by decide
  have passed := faithful.ok.mpr agree
  have refused : (runLedgerVsBalanceCheck unusedAccount).ok = false := by decide
  rw [refused] at passed
  cases passed

end Payroute
