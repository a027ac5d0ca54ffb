import Payroute.Model.World

/-! # What a row lock protects

A row lock on an account protects its balance; a row lock on a transaction
protects the transaction with its ledger entries and its state history, since
every service locks the transaction before it writes them. A write changes
nothing that is protected by another row than its guard.
-/

namespace Payroute

open KeyedTable

/-- The row whose lock protects what a write changes. -/
def Write.guard : Write → Option RowId
  | .account row => some (.account row.id)
  | .transaction row => some (.transaction row.id)
  | .entry row => some (.transaction row.transactionId)
  | .history row => some (.transaction row.transactionId)
  | _ => none

namespace Database

/-- Two tables agree on everything the lock of a row protects. -/
def AgreeAt (first second : Database) : RowId → Prop
  | .account id => second.accounts.get? id = first.accounts.get? id
  | .transaction id =>
      second.transactions.get? id = first.transactions.get? id ∧
        second.entriesOf id = first.entriesOf id ∧ second.historyOf id = first.historyOf id

/-- Tables agree with themselves at every row. -/
theorem AgreeAt.refl (db : Database) (row : RowId) : db.AgreeAt db row := by
  cases row with
  | account id => rfl
  | transaction id => exact ⟨rfl, rfl, rfl⟩

/-- Agreement at a row composes. -/
theorem AgreeAt.trans {first second third : Database} {row : RowId}
    (left : first.AgreeAt second row) (right : second.AgreeAt third row) :
    first.AgreeAt third row := by
  cases row with
  | account id => exact Eq.trans right left
  | transaction id =>
      exact ⟨right.1.trans left.1, right.2.1.trans left.2.1, right.2.2.trans left.2.2⟩

/-- Tables that agree at a row have the same version of it. -/
theorem AgreeAt.rowAt {first second : Database} {row : RowId} (agree : first.AgreeAt second row) :
    second.rowAt row = first.rowAt row := by
  cases row with
  | account id => exact congrArg RowVersion.account agree
  | transaction id => exact congrArg RowVersion.transaction agree.1

/-- A write leaves alone what other rows protect. -/
theorem agreeAt_write (db : Database) {version : Write} {row : RowId}
    (other : version.guard ≠ some row) : db.AgreeAt (db.write version) row := by
  cases version with
  | account written =>
      cases row with
      | account id =>
          have differs : id ≠ written.id := fun same => other (by rw [same]; rfl)
          exact Table.get?_put_of_ne _ differs
      | transaction id => exact ⟨rfl, rfl, rfl⟩
  | transaction written =>
      cases row with
      | account id => rfl
      | transaction id =>
          have differs : id ≠ written.id := fun same => other (by rw [same]; rfl)
          exact ⟨Table.get?_put_of_ne _ differs, rfl, rfl⟩
  | entry written =>
      cases row with
      | account id => rfl
      | transaction id =>
          have differs : written.transactionId ≠ id := fun same => other (by rw [← same]; rfl)
          refine ⟨rfl, ?_, rfl⟩
          change List.filter _ (db.ledgerEntries ++ [written]) = _
          rw [List.filter_append, List.filter_singleton, decide_eq_false differs]
          exact List.append_nil _
  | history written =>
      cases row with
      | account id => rfl
      | transaction id =>
          have differs : written.transactionId ≠ id := fun same => other (by rw [← same]; rfl)
          refine ⟨rfl, rfl, ?_⟩
          change List.filter _ (db.stateHistory ++ [written]) = _
          rw [List.filter_append, List.filter_singleton, decide_eq_false differs]
          exact List.append_nil _
  | quote _ => exact AgreeAt.refl _ row
  | event _ => exact AgreeAt.refl _ row
  | purgeEvents _ => exact AgreeAt.refl _ row
  | key _ => exact AgreeAt.refl _ row
  | purgeKeys _ => exact AgreeAt.refl _ row

/-- Writes to other rows keep the agreement. -/
theorem agreeAt_replay (db : Database) {log : List Write} {row : RowId}
    (others : ∀ version ∈ log, version.guard ≠ some row) : db.AgreeAt (db.replay log) row := by
  induction log generalizing db with
  | nil => exact AgreeAt.refl db row
  | cons version rest ih =>
      have first := db.agreeAt_write (others version List.mem_cons_self)
      exact first.trans (ih _ fun later member => others later (List.mem_cons_of_mem _ member))

/-- What a write leaves of a row depends only on the row. -/
theorem rowAt_write {first second : Database} {row : RowId}
    (same : first.rowAt row = second.rowAt row) (version : Write) :
    (first.write version).rowAt row = (second.write version).rowAt row := by
  cases version with
  | account written =>
      cases row with
      | account id =>
          have equal : first.accounts.get? id = second.accounts.get? id :=
            RowVersion.account.inj same
          change RowVersion.account _ = RowVersion.account _
          simp only [Database.write, Table.get?_put, equal]
      | transaction id => exact same
  | transaction written =>
      cases row with
      | account id => exact same
      | transaction id =>
          have equal : first.transactions.get? id = second.transactions.get? id :=
            RowVersion.transaction.inj same
          change RowVersion.transaction _ = RowVersion.transaction _
          simp only [Database.write, Table.get?_put, equal]
  | entry _ => cases row <;> exact same
  | history _ => cases row <;> exact same
  | quote _ => cases row <;> exact same
  | event _ => cases row <;> exact same
  | purgeEvents _ => cases row <;> exact same
  | key _ => cases row <;> exact same
  | purgeKeys _ => cases row <;> exact same

/-- The version a log leaves of a row depends on the version it found. -/
theorem rowAt_replay {first second : Database} {row : RowId}
    (same : first.rowAt row = second.rowAt row) (log : List Write) :
    (first.replay log).rowAt row = (second.replay log).rowAt row := by
  induction log generalizing first second with
  | nil => exact same
  | cons version rest ih => exact ih (rowAt_write same version)

/-! ## What never goes away -/

end Database

/-- The columns of a transaction that no update touches. -/
def Transaction.terms (row : Transaction) : Transaction :=
  { row with status := .initiated, providerReference := none, completedAt := none }

/-- An update keeps the terms of a payment. -/
@[simp] theorem TransactionPatch.terms_apply (patch : TransactionPatch) (row : Transaction) :
    (patch.apply row).terms = row.terms := rfl

/-- So do any number of them. -/
theorem TransactionPatch.terms_applyAll (patches : List TransactionPatch) (row : Transaction) :
    (patches.foldl (fun row patch => patch.apply row) row).terms = row.terms := by
  induction patches generalizing row with
  | nil => rfl
  | cons patch rest ih => exact (ih (patch.apply row)).trans (patch.terms_apply row)

/-- Accounts keep their currency and transactions their terms. -/
structure Database.Persists (first second : Database) : Prop where
  account : ∀ id row, first.accounts.get? id = some row →
    ∃ later, second.accounts.get? id = some later ∧ later.currency = row.currency
  transaction : ∀ id row, first.transactions.get? id = some row →
    ∃ later, second.transactions.get? id = some later ∧ later.terms = row.terms

namespace Database.Persists

/-- Everything persists where nothing changed. -/
theorem refl (db : Database) : db.Persists db where
  account := fun _ row found => ⟨row, found, rfl⟩
  transaction := fun _ row found => ⟨row, found, rfl⟩

/-- Rows persist where accounts and payments are the same. -/
theorem of_eq {first second : Database} (accounts : second.accounts = first.accounts)
    (transactions : second.transactions = first.transactions) : first.Persists second where
  account := fun _ row found => ⟨row, by rw [accounts]; exact found, rfl⟩
  transaction := fun _ row found => ⟨row, by rw [transactions]; exact found, rfl⟩

/-- Persistence composes. -/
theorem trans {first second third : Database} (left : first.Persists second)
    (right : second.Persists third) : first.Persists third where
  account := by
    intro id row found
    obtain ⟨middle, there, same⟩ := left.account id row found
    obtain ⟨last, reached, kept⟩ := right.account id middle there
    exact ⟨last, reached, kept.trans same⟩
  transaction := by
    intro id row found
    obtain ⟨middle, there, same⟩ := left.transaction id row found
    obtain ⟨last, reached, kept⟩ := right.transaction id middle there
    exact ⟨last, reached, kept.trans same⟩

end Database.Persists
end Payroute
