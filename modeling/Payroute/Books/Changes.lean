import Mathlib.Algebra.BigOperators.Group.List.Basic
import Payroute.Model.Statement

/-! # What a database transaction changes

A transaction of the services appends quotes, entries and history rows, opens
transactions, patches transactions and adjusts balances. `Changes` lists these
relative changes, and `Changes.apply` carries them out on any tables, so that
the effect of a commit does not depend on the row versions its statements wrote.
-/

namespace Payroute

open KeyedTable

/-! ## Single tables -/

/-- A balance update. -/
def Account.bump (amount : Int) (row : Account) : Account :=
  { row with balance := row.balance + amount, version := row.version + 1 }

/-- Change the balance of an account, if it exists. -/
def adjust (accounts : Table Account) (change : AccountId × Int) : Table Account :=
  match accounts.get? change.1 with
  | none => accounts
  | some row => accounts.put (row.bump change.2)

/-- Patch a transaction, if it exists. -/
def patchRow (transactions : Table Transaction) (change : TransactionId × TransactionPatch) :
    Table Transaction :=
  match transactions.get? change.1 with
  | none => transactions
  | some row => transactions.put (change.2.apply row)

/-- An adjustment changes one account. -/
theorem get?_adjust (accounts : Table Account) (change : AccountId × Int) (id : AccountId) :
    (adjust accounts change).get? id =
      if id = change.1 then (accounts.get? id).map (Account.bump change.2)
      else accounts.get? id := by
  refine Table.get?_updated accounts (Account.bump change.2) ?_ ?_ (fun _ => rfl) id
  · intro absent
    unfold adjust
    rw [absent]
  · intro row found
    unfold adjust
    rw [found]

/-- A patch changes one payment. -/
theorem get?_patchRow (transactions : Table Transaction)
    (change : TransactionId × TransactionPatch) (id : TransactionId) :
    (patchRow transactions change).get? id =
      if id = change.1 then (transactions.get? id).map change.2.apply
      else transactions.get? id := by
  refine Table.get?_updated transactions change.2.apply ?_ ?_ (fun _ => rfl) id
  · intro absent
    unfold patchRow
    rw [absent]
  · intro row found
    unfold patchRow
    rw [found]

/-- The sum of the adjustments of one account. -/
def adjustmentOf (changes : List (AccountId × Int)) (id : AccountId) : Int :=
  ((changes.filter fun change => decide (change.1 = id)).map Prod.snd).sum

/-- Without adjustments an account changes by nothing. -/
@[simp] theorem adjustmentOf_nil (id : AccountId) : adjustmentOf [] id = 0 := rfl

/-- The adjustments of an account add up. -/
theorem adjustmentOf_cons (change : AccountId × Int) (rest : List (AccountId × Int))
    (id : AccountId) :
    adjustmentOf (change :: rest) id =
      (if change.1 = id then change.2 else 0) + adjustmentOf rest id := by
  unfold adjustmentOf
  by_cases same : change.1 = id
  · rw [List.filter_cons_of_pos (by exact decide_eq_true same), if_pos same, List.map_cons,
      List.sum_cons]
  · rw [List.filter_cons_of_neg (by simpa using same), if_neg same, zero_add]

/-- Adjustments change the balance of an account by their sum and keep its currency. -/
theorem get?_adjustAll (changes : List (AccountId × Int)) (accounts : Table Account)
    (id : AccountId) :
    ∃ rounds : Nat, (changes.foldl adjust accounts).get? id =
      (accounts.get? id).map fun row =>
        { row with
          balance := row.balance + adjustmentOf changes id
          version := row.version + rounds } := by
  induction changes generalizing accounts with
  | nil =>
      refine ⟨0, ?_⟩
      simp only [List.foldl_nil, adjustmentOf_nil, add_zero, Option.map_id']
  | cons change rest ih =>
      obtain ⟨rounds, step⟩ := ih (adjust accounts change)
      rw [List.foldl_cons, step, get?_adjust, adjustmentOf_cons]
      by_cases same : id = change.1
      · refine ⟨rounds + 1, ?_⟩
        rw [if_pos same, if_pos same.symm, Option.map_map]
        congr 1
        funext row
        simp only [Function.comp_apply, Account.bump, Account.mk.injEq, true_and]
        constructor
        · omega
        · omega
      · refine ⟨rounds, ?_⟩
        rw [if_neg same, if_neg (Ne.symm same), zero_add]

/-- Adjustments of other accounts. -/
theorem get?_adjust_others {changes : List (AccountId × Int)} {account : AccountId}
    (others : ∀ change ∈ changes, change.1 ≠ account) (accounts : Table Account) :
    (changes.foldl adjust accounts).get? account = accounts.get? account := by
  induction changes generalizing accounts with
  | nil => rfl
  | cons change rest ih =>
      rw [List.foldl_cons, ih fun other member => others other (List.mem_cons_of_mem _ member),
        get?_adjust, if_neg (Ne.symm (others change List.mem_cons_self))]

/-- Patches of one transaction, in order. -/
def patchesOf (changes : List (TransactionId × TransactionPatch)) (id : TransactionId) :
    List TransactionPatch :=
  (changes.filter fun change => decide (change.1 = id)).map Prod.snd

/-- Of many patches a payment gets its own, in their order. -/
theorem get?_patchAll (changes : List (TransactionId × TransactionPatch))
    (transactions : Table Transaction) (id : TransactionId) :
    (changes.foldl patchRow transactions).get? id =
      (transactions.get? id).map fun row =>
        (patchesOf changes id).foldl (fun row patch => patch.apply row) row := by
  induction changes generalizing transactions with
  | nil => exact Option.map_id'.symm
  | cons change rest ih =>
      rw [List.foldl_cons, ih, get?_patchRow]
      unfold patchesOf
      by_cases same : id = change.1
      · rw [if_pos same, Option.map_map,
          List.filter_cons_of_pos (by exact decide_eq_true same.symm),
          List.map_cons]
        rfl
      · rw [if_neg same, List.filter_cons_of_neg (by simpa using Ne.symm same)]

/-! ## All tables -/

/-- What a database transaction changes. -/
structure Changes where
  quotes : List FxQuote := []
  opened : List Transaction := []
  patches : List (TransactionId × TransactionPatch) := []
  adjustments : List (AccountId × Int) := []
  entries : List LedgerEntry := []
  history : List TransactionStateHistory := []
  events : List WebhookEvent := []

namespace Changes

/-- The tables after the changes. -/
def apply (changes : Changes) (db : Database) : Database where
  accounts := changes.adjustments.foldl adjust db.accounts
  fxQuotes := db.fxQuotes ++ changes.quotes
  transactions := changes.patches.foldl patchRow (changes.opened.foldl Table.put db.transactions)
  ledgerEntries := db.ledgerEntries ++ changes.entries
  stateHistory := db.stateHistory ++ changes.history
  webhookEvents := changes.events.foldl Table.put db.webhookEvents
  idempotencyKeys := db.idempotencyKeys

/-- No changes leave the tables as they are. -/
@[simp] theorem apply_empty (db : Database) : apply {} db = db := by
  simp only [apply, List.foldl_nil, List.append_nil]

/-! Each statement appends to one of the lists. -/

/-- The changes with an inserted quote. -/
def quote (changes : Changes) (row : FxQuote) : Changes :=
  { changes with quotes := changes.quotes ++ [row] }

/-- The changes with an adjusted balance. -/
def adjust (changes : Changes) (id : AccountId) (amount : Int) : Changes :=
  { changes with adjustments := changes.adjustments ++ [(id, amount)] }

/-- The changes with an updated payment. -/
def patch (changes : Changes) (id : TransactionId) (patch : TransactionPatch) : Changes :=
  { changes with patches := changes.patches ++ [(id, patch)] }

/-- The changes with an inserted entry. -/
def enter (changes : Changes) (entry : LedgerEntry) : Changes :=
  { changes with entries := changes.entries ++ [entry] }

/-- The changes with an inserted history row. -/
def record (changes : Changes) (row : TransactionStateHistory) : Changes :=
  { changes with history := changes.history ++ [row] }

/-- The changes with an updated event. -/
def touch (changes : Changes) (event : WebhookEvent) : Changes :=
  { changes with events := changes.events ++ [event] }

/-- A quote is written after the changes before it. -/
theorem apply_quote (changes : Changes) (row : FxQuote) (db : Database) :
    (changes.quote row).apply db = (changes.apply db).write (.quote row) := by
  simp only [apply, quote, Database.write, List.append_assoc]

/-- So is an entry. -/
theorem apply_enter (changes : Changes) (entry : LedgerEntry) (db : Database) :
    (changes.enter entry).apply db = (changes.apply db).write (.entry entry) := by
  simp only [apply, enter, Database.write, List.append_assoc]

/-- So is a history row. -/
theorem apply_record (changes : Changes) (row : TransactionStateHistory) (db : Database) :
    (changes.record row).apply db = (changes.apply db).write (.history row) := by
  simp only [apply, record, Database.write, List.append_assoc]

/-- So is an event. -/
theorem apply_touch (changes : Changes) (event : WebhookEvent) (db : Database) :
    (changes.touch event).apply db = (changes.apply db).write (.event event) := by
  simp only [apply, touch, Database.write, List.foldl_append, List.foldl_cons, List.foldl_nil]

/-- A balance update writes the adjusted version of the row it read. -/
theorem apply_adjust (changes : Changes) {id : AccountId} (amount : Int) {db : Database}
    {row : Account} (found : (changes.apply db).accounts.get? id = some row) :
    (changes.adjust id amount).apply db =
      (changes.apply db).write (.account (row.bump amount)) := by
  have step : Payroute.adjust (changes.apply db).accounts (id, amount) =
      (changes.apply db).accounts.put (row.bump amount) := by
    simp only [Payroute.adjust, found]
  simp only [apply, adjust, Database.write, List.foldl_append, List.foldl_cons, List.foldl_nil]
    at step ⊢
  rw [step]

/-- An update of a transaction writes the patched version of the row it read. -/
theorem apply_patch (changes : Changes) {id : TransactionId} (patch : TransactionPatch)
    {db : Database} {row : Transaction}
    (found : (changes.apply db).transactions.get? id = some row) :
    (changes.patch id patch).apply db =
      (changes.apply db).write (.transaction (patch.apply row)) := by
  have step : patchRow (changes.apply db).transactions (id, patch) =
      (changes.apply db).transactions.put (patch.apply row) := by
    simp only [patchRow, found]
  simp only [apply, Changes.patch, Database.write, List.foldl_append, List.foldl_cons,
    List.foldl_nil] at step ⊢
  rw [step]

/-- A payment that is updated is there. -/
theorem patch_known {changes : Changes} {db : Database} {id : TransactionId} {row : Transaction}
    (patch : TransactionPatch) (found : (changes.apply db).transactions.get? id = some row) :
    ((changes.patch id patch).apply db).transactions.get? id ≠ none := by
  rw [apply_patch _ _ found]
  change ((changes.apply db).transactions.put _).get? id ≠ none
  rw [Table.get?_put]
  split
  · exact Option.some_ne_none _
  · rw [found]
    exact Option.some_ne_none _

end Changes
end Payroute
