import Payroute.Commits.Commands

/-! # Balances and the ledger

Every commit adds to the balances exactly the amounts of the entries it posts.
-/

namespace Payroute

open KeyedTable

/-- The sum of the ledger entries of an account. -/
def Database.postedTo (db : Database) (id : AccountId) : Int :=
  ((db.ledgerEntries.filter fun entry => decide (entry.accountId = id)).map LedgerEntry.amount).sum

/-- Every balance is the opening balance plus the ledger entries of the account. -/
def Database.Balanced (opening : AccountId → Int) (db : Database) : Prop :=
  ∀ row ∈ db.accounts.rows, row.balance = opening row.id + db.postedTo row.id

instance (opening : AccountId → Int) (db : Database) : Decidable (db.Balanced opening) :=
  inferInstanceAs (Decidable (∀ row ∈ db.accounts.rows, _))

namespace Changes

/-- The balances change by the entries. -/
def Posts (changes : Changes) : Prop :=
  changes.adjustments = changes.entries.map fun entry => (entry.accountId, entry.amount)

theorem adjustmentOf_entries (entries : List LedgerEntry) (id : AccountId) :
    adjustmentOf (entries.map fun entry => (entry.accountId, entry.amount)) id =
      ((entries.filter fun entry => decide (entry.accountId = id)).map LedgerEntry.amount).sum := by
  induction entries with
  | nil => rfl
  | cons entry rest ih =>
      rw [List.map_cons, adjustmentOf_cons, ih]
      by_cases same : entry.accountId = id
      · rw [if_pos same, List.filter_cons_of_pos (by exact decide_eq_true same), List.map_cons,
          List.sum_cons]
      · rw [if_neg same, List.filter_cons_of_neg (by simpa using same), zero_add]

theorem postedTo_apply (changes : Changes) (db : Database) (id : AccountId) :
    (changes.apply db).postedTo id = db.postedTo id +
      ((changes.entries.filter fun entry => decide (entry.accountId = id)).map
        LedgerEntry.amount).sum := by
  unfold Database.postedTo
  change ((List.filter _ (db.ledgerEntries ++ changes.entries)).map _).sum = _
  rw [List.filter_append, List.map_append, List.sum_append]

/-- Posting keeps balances and ledger together. -/
theorem Posts.balanced {changes : Changes} (posts : changes.Posts) {opening : AccountId → Int}
    {db : Database} (balanced : db.Balanced opening) : (changes.apply db).Balanced opening := by
  intro row member
  have found := Table.get?_of_mem member
  obtain ⟨rounds, step⟩ := get?_adjustAll changes.adjustments db.accounts row.id
  change (changes.adjustments.foldl Payroute.adjust db.accounts).get? row.id = some row at found
  rw [found] at step
  obtain ⟨before, there, same⟩ := Option.map_eq_some_iff.mp step.symm
  have named : before.id = row.id := Table.key_of_get? there
  have agrees := balanced before (Table.mem_of_get? there)
  rw [named] at agrees
  rw [postedTo_apply, ← adjustmentOf_entries, ← posts]
  have amount : row.balance = before.balance + adjustmentOf changes.adjustments row.id := by
    conv_lhs => rw [← same]
  omega

end Changes

theorem Settlement.posts (settlement : Settlement) : settlement.changes.Posts := rfl

/-- Every commit consists of postings. -/
theorem Command.Commits.posts {setting : Setting} {deployment : Deployment} {command : Command}
    {first second : Database} (commits : command.Commits setting deployment first second) :
    ∃ changes : Changes, changes.Posts ∧ second = changes.apply first := by
  cases command with
  | createPayment dto idempotencyKey =>
      obtain ⟨row, ⟨quote, entry, opened, reserved, creates⟩, _⟩ := commits
      exact ⟨openingOf quote row entry opened reserved, rfl, creates.2.2.2.2.2.2.2.2.2.2.2.2.2.2⟩
  | process data =>
      obtain ⟨_, reference, _, _, _, done⟩ := commits
      exact ⟨_, Settlement.posts _, done⟩
  | processWebhook payload rawBody signature =>
      rcases commits with ⟨events, _, _, _, done⟩ | ⟨_, _, _, _, _, _, _, _, _, _, _, _, done⟩
      · exact ⟨{ events := events }, by rfl, done⟩
      · exact ⟨_, Settlement.posts _, done⟩
  | onProviderJobExhausted jobId failedReason =>
      obtain ⟨_, _, _, _, _, _, _, _, done⟩ := commits
      exact ⟨_, Settlement.posts _, done⟩
  | refundPayment id dto =>
      obtain ⟨_, _, _, _, _, _, _, done⟩ := commits
      exact ⟨_, Settlement.posts _, done⟩
  | raiseDispute id dto =>
      obtain ⟨_, _, _, _, _, _, _, done⟩ := commits
      exact ⟨_, Settlement.posts _, done⟩
  | resolveDispute id dto =>
      obtain ⟨action⟩ := dto
      cases action with
      | reverse =>
          obtain ⟨_, _, _, _, _, _, _, done⟩ := commits
          exact ⟨_, Settlement.posts _, done⟩
      | reject =>
          obtain ⟨_, _, _, _, _, _, _, done⟩ := commits
          exact ⟨_, Settlement.posts _, done⟩
  | retryStuckPayments => exact commits.elim
  | cleanupExpiredIdempotencyKeys => exact commits.elim
  | cleanupOldProcessedWebhookEvents => exact commits.elim

end Payroute
