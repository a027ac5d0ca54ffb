import Mathlib.Algebra.BigOperators.Group.List.Basic
import Mathlib.Data.List.Sort
import Payroute.Data.Relational
import Payroute.Model.Entities

/-! # The database

The committed tables, the row versions a statement writes, and the queries the
services issue. A transaction's own writes are a list of row versions that is
replayed over the committed tables, both to show the transaction its own view
and to commit it.
-/

namespace Payroute

open KeyedTable Relational

structure Database where
  accounts : Table Account
  fxQuotes : List FxQuote
  transactions : Table Transaction
  ledgerEntries : List LedgerEntry
  stateHistory : List TransactionStateHistory
  webhookEvents : Table WebhookEvent
  idempotencyKeys : Table IdempotencyKey

/-- A row that several processes may lock. -/
inductive RowId where
  | account (id : AccountId)
  | transaction (id : TransactionId)
  deriving DecidableEq, Repr

/-- The current version of a lockable row. -/
inductive RowVersion where
  | account (row : Option Account)
  | transaction (row : Option Transaction)
  deriving DecidableEq, Repr

/-- What a statement writes: a row version, an appended row, or a purge. -/
inductive Write where
  | account (row : Account)
  | transaction (row : Transaction)
  | quote (row : FxQuote)
  | entry (row : LedgerEntry)
  | history (row : TransactionStateHistory)
  | event (row : WebhookEvent)
  | purgeEvents (cutoff : Nat)
  | key (row : IdempotencyKey)
  | purgeKeys (now : Nat)
  deriving DecidableEq, Repr

/-- `processed = true AND received_at < cutoff`. -/
def WebhookEvent.Expired (cutoff : Nat) (event : WebhookEvent) : Prop :=
  event.processed = true ∧ event.receivedAt < cutoff

instance (cutoff : Nat) (event : WebhookEvent) : Decidable (event.Expired cutoff) :=
  inferInstanceAs (Decidable (_ ∧ _))

namespace Database

/-- A webhook event by its own identifier. -/
def eventById (db : Database) (id : Nat) : Option WebhookEvent :=
  db.webhookEvents.rows.find? fun event => decide (event.id = id)

def rowAt (db : Database) : RowId → RowVersion
  | .account id => .account (db.accounts.get? id)
  | .transaction id => .transaction (db.transactions.get? id)

def write (db : Database) : Write → Database
  | .account row => { db with accounts := db.accounts.put row }
  | .transaction row => { db with transactions := db.transactions.put row }
  | .quote row => { db with fxQuotes := db.fxQuotes ++ [row] }
  | .entry row => { db with ledgerEntries := db.ledgerEntries ++ [row] }
  | .history row => { db with stateHistory := db.stateHistory ++ [row] }
  | .event row => { db with webhookEvents := db.webhookEvents.put row }
  | .purgeEvents cutoff =>
      { db with
        webhookEvents := db.webhookEvents.filter fun event => !decide (event.Expired cutoff) }
  | .key row => { db with idempotencyKeys := db.idempotencyKeys.put row }
  | .purgeKeys now =>
      { db with
        idempotencyKeys := db.idempotencyKeys.filter fun row => !decide (row.expiresAt < now) }

/-- The tables after a transaction's writes. -/
def replay (db : Database) (log : List Write) : Database := log.foldl write db

@[simp] theorem replay_nil (db : Database) : db.replay [] = db := rfl

theorem replay_append (db : Database) (first second : List Write) :
    db.replay (first ++ second) = (db.replay first).replay second :=
  List.foldl_append ..

@[simp] theorem replay_concat (db : Database) (log : List Write) (last : Write) :
    db.replay (log ++ [last]) = (db.replay log).write last := by
  rw [replay_append]
  rfl

/-! ## Queries -/

/-- The statuses that count towards the daily limits. -/
def countedStatuses : List TransactionStatus := [.initiated, .processing, .completed]

/-- The sender's transactions since `start` that count towards its limits. -/
def outgoing (db : Database) (accountId : AccountId) (start : Nat) : List Transaction :=
  db.transactions.rows.filter fun row =>
    decide (row.senderAccountId = accountId ∧ start ≤ row.createdAt ∧ row.status ∈ countedStatuses)

/-- The ledger entries of a transaction, in insertion order. -/
def entriesOf (db : Database) (transactionId : TransactionId) : List LedgerEntry :=
  db.ledgerEntries.filter fun entry => decide (entry.transactionId = transactionId)

/-- The state history of a transaction, in insertion order. -/
def historyOf (db : Database) (transactionId : TransactionId) : List TransactionStateHistory :=
  db.stateHistory.filter fun row => decide (row.transactionId = transactionId)

/-- The payments created before `cutoff` that are in progress and have no reference,
the oldest first. -/
def stuck (db : Database) (cutoff : Nat) : List Transaction :=
  (db.transactions.rows.filter fun row =>
    decide (row.status = .processing ∧ row.providerReference = none ∧ row.createdAt < cutoff)
    ).insertionSort fun first second => first.createdAt ≤ second.createdAt

/-- The status as grouping by it returns it: the number of payments and the sum of their
source amounts, which is never null. -/
def statusTotals (db : Database) : List (TransactionStatus × Nat × Int) :=
  (groupBy Transaction.status db.transactions.rows).map fun (status, group) =>
    (status, group.length, (sum? (group.map fun row => some row.sourceAmount)).getD 0)

/-- A payment with its sender's and its recipient's account. -/
def withAccounts (db : Database) (row : Transaction) : ListedPayment where
  payment := row
  senderAccount := db.accounts.get? row.senderAccountId
  recipientAccount := db.accounts.get? row.recipientAccountId

/-- The first transaction with a provider reference. -/
def byReference (db : Database) (reference : ProviderReference) : Option Transaction :=
  db.transactions.rows.find? fun row => decide (row.providerReference = some reference)

end Database

/-- The `WHERE` clause of a listing; the dates are milliseconds. -/
structure PaymentFilter where
  status : Option TransactionStatus
  startDate : Option Int
  endDate : Option Int
  deriving DecidableEq, Repr

namespace PaymentFilter

variable (filter : PaymentFilter)

/-- `t.createdAt >= :startDate` and `t.createdAt <= :endDate`. -/
def Within (createdAt : Int) : Prop :=
  (∀ start ∈ filter.startDate, start * 1000 ≤ createdAt) ∧
    ∀ last ∈ filter.endDate, createdAt ≤ last * 1000

instance (createdAt : Int) : Decidable (filter.Within createdAt) :=
  inferInstanceAs (Decidable (_ ∧ _))

def Selects (row : Transaction) : Prop :=
  (∀ status ∈ filter.status, row.status = status) ∧ filter.Within row.createdAt

instance (row : Transaction) : Decidable (filter.Selects row) :=
  inferInstanceAs (Decidable (_ ∧ _))

end PaymentFilter

/-- The payments a filter selects, the newest first. -/
def Database.listed (db : Database) (filter : PaymentFilter) : List Transaction :=
  (db.transactions.rows.filter fun row => decide (filter.Selects row)).insertionSort
    fun first second => second.createdAt ≤ first.createdAt

/-- Whether an entry is one of the debits a compensation reverses. -/
def LedgerEntry.IsOriginalDebit (entry : LedgerEntry) : Prop :=
  entry.entryType = .debit ∧ entry.isReversal = false

instance (entry : LedgerEntry) : Decidable entry.IsOriginalDebit :=
  inferInstanceAs (Decidable (_ ∧ _))

/-- The reads that take no lock. -/
inductive Query where
  | account (id : AccountId)
  | transaction (id : TransactionId)
  | originalDebits (transactionId : TransactionId)
  | reversalCount (transactionId : TransactionId)
  | outgoingCount (accountId : AccountId) (start : Nat)
  | outgoingVolume (accountId : AccountId) (start : Nat)
  | idempotencyKey (key : String)
  | stuck (cutoff : Nat)
  | payments (filter : PaymentFilter) (skip take : Nat)
  | statusTotals
  | stuckCount (cutoff : Nat)
  deriving DecidableEq, Repr

/-- The rows a query returns. -/
@[reducible] def Query.Rows : Query → Type
  | .account _ => Option Account
  | .transaction _ => Option Transaction
  | .originalDebits _ => List LedgerEntry
  | .reversalCount _ => Nat
  | .outgoingCount _ _ => Nat
  | .outgoingVolume _ _ => Int
  | .idempotencyKey _ => Option IdempotencyKey
  | .stuck _ => List Transaction
  | .payments _ _ _ => List ListedPayment × Nat
  | .statusTotals => List (TransactionStatus × Nat × Int)
  | .stuckCount _ => Nat

def Query.eval (db : Database) : (query : Query) → query.Rows
  | .account id => db.accounts.get? id
  | .transaction id => db.transactions.get? id
  | .originalDebits id => (db.entriesOf id).filter fun entry => decide entry.IsOriginalDebit
  | .reversalCount id => ((db.entriesOf id).filter LedgerEntry.isReversal).length
  | .outgoingCount id start => (db.outgoing id start).length
  | .outgoingVolume id start => ((db.outgoing id start).map Transaction.sourceAmount).sum
  | .idempotencyKey key => db.idempotencyKeys.get? key
  | .stuck cutoff => db.stuck cutoff
  -- `getManyAndCount` counts all selected rows, not only those of the page.
  | .payments filter skip take =>
      ((((db.listed filter).drop skip).take take).map db.withAccounts, (db.listed filter).length)
  | .statusTotals => db.statusTotals
  | .stuckCount cutoff => (db.stuck cutoff).length

end Payroute
