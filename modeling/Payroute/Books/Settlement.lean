import Payroute.Books.Postings

/-! # Settlements

A commit of the services that concerns one existing transaction posts entries
whose amounts are added to the balances of their accounts, patches the
transaction and records the change. `Settlement` lists this, so that the ledger
and the balances agree by construction.
-/

namespace Payroute

open KeyedTable

namespace Changes

/-- Enter a ledger entry and add its amount to the balance of its account. -/
def post (changes : Changes) (entry : LedgerEntry) : Changes :=
  { changes with
    adjustments := changes.adjustments ++ [(entry.accountId, entry.amount)]
    entries := changes.entries ++ [entry] }

/-- `credit` writes the entry first. -/
theorem adjust_enter (changes : Changes) (entry : LedgerEntry) :
    (changes.enter entry).adjust entry.accountId entry.amount = changes.post entry := rfl

/-- `debit` updates the balance first. -/
theorem enter_adjust (changes : Changes) (entry : LedgerEntry) :
    (changes.adjust entry.accountId entry.amount).enter entry = changes.post entry := rfl

/-- Post entries one after the other. -/
def postAll (changes : Changes) (entries : List LedgerEntry) : Changes :=
  entries.foldl post changes

/-- Posting entries adds them and their balance changes. -/
theorem postAll_eq (changes : Changes) (entries : List LedgerEntry) :
    changes.postAll entries =
      { changes with
        adjustments := changes.adjustments ++
          entries.map fun entry => (entry.accountId, entry.amount)
        entries := changes.entries ++ entries } := by
  induction entries generalizing changes with
  | nil => simp only [postAll, List.foldl_nil, List.map_nil, List.append_nil]
  | cons entry rest ih =>
      change (changes.post entry).postAll rest = _
      rw [ih]
      simp only [post, List.append_assoc, List.map_cons, List.cons_append, List.nil_append]

end Changes

/-- What one commit does to an existing transaction. -/
structure Settlement where
  id : TransactionId
  entries : List LedgerEntry := []
  patches : List TransactionPatch := []
  history : List TransactionStateHistory := []
  events : List WebhookEvent := []

namespace Settlement

/-- What a settlement changes in the tables. -/
def changes (settlement : Settlement) : Changes where
  patches := settlement.patches.map fun patch => (settlement.id, patch)
  adjustments := settlement.entries.map fun entry => (entry.accountId, entry.amount)
  entries := settlement.entries
  history := settlement.history
  events := settlement.events

/-- The tables after the settlement. -/
def apply (settlement : Settlement) (db : Database) : Database := settlement.changes.apply db

variable (settlement : Settlement) (db : Database)

/-- Its entries come last. -/
@[simp] theorem apply_ledgerEntries :
    (settlement.apply db).ledgerEntries = db.ledgerEntries ++ settlement.entries := rfl

/-- So do its history rows. -/
@[simp] theorem apply_stateHistory :
    (settlement.apply db).stateHistory = db.stateHistory ++ settlement.history := rfl

/-- The entries of a payment after a settlement. -/
theorem entriesOf_apply (id : TransactionId) :
    (settlement.apply db).entriesOf id = db.entriesOf id ++
      settlement.entries.filter fun entry => decide (entry.transactionId = id) :=
  List.filter_append ..

/-- The history of a payment after a settlement. -/
theorem historyOf_apply (id : TransactionId) :
    (settlement.apply db).historyOf id = db.historyOf id ++
      settlement.history.filter fun row => decide (row.transactionId = id) :=
  List.filter_append ..

/-- A settlement patches its own payment. -/
theorem get?_apply (id : TransactionId) :
    (settlement.apply db).transactions.get? id =
      if id = settlement.id then
        (db.transactions.get? id).map fun row =>
          settlement.patches.foldl (fun row patch => patch.apply row) row
      else db.transactions.get? id := by
  change (settlement.changes.patches.foldl patchRow db.transactions).get? id = _
  rw [get?_patchAll]
  unfold patchesOf
  by_cases same : id = settlement.id
  · have all : (settlement.patches.map fun patch => (settlement.id, patch)).filter
        (fun change => decide (change.1 = id)) =
        settlement.patches.map fun patch => (settlement.id, patch) := by
      apply List.filter_eq_self.mpr
      intro change member
      obtain ⟨patch, _, rfl⟩ := List.mem_map.mp member
      exact decide_eq_true same.symm
    have values : (settlement.patches.map fun patch => (settlement.id, patch)).map Prod.snd =
        settlement.patches := by
      rw [List.map_map]
      exact List.map_id _
    rw [if_pos same]
    simp only [changes, all, values]
  · have none : (settlement.patches.map fun patch => (settlement.id, patch)).filter
        (fun change => decide (change.1 = id)) = [] := by
      apply List.filter_eq_nil_iff.mpr
      intro change member
      obtain ⟨patch, _, rfl⟩ := List.mem_map.mp member
      simpa using Ne.symm same
    rw [if_neg same]
    simp only [changes, none, List.map_nil, List.foldl_nil, Option.map_id']

end Settlement
end Payroute
