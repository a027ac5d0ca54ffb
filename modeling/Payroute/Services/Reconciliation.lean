import Payroute.Data.Relational
import Payroute.Services.Fx

/-! # Reconciliation service

The check is one query that compares texts. Its groups come in no particular order;
here they come in the order of the accounts.
-/

namespace Payroute

open Relational

structure ReconciliationMismatch where
  accountId : AccountId
  storedBalance : Text
  ledgerSum : Text
  difference : Text
  deriving DecidableEq, Repr

/-- What `runLedgerVsBalanceCheck` returns. -/
structure ReconciliationReport where
  ok : Bool
  mismatches : List ReconciliationMismatch
  deriving DecidableEq, Repr

namespace ReconciliationService

/-- A row of the check's query. -/
structure BalanceRow where
  accountId : AccountId
  storedBalance : Text
  ledgerSum : Text

/-- `COALESCE(SUM(l.amount::NUMERIC), 0)::TEXT`. A sum is printed with the scale of the
column, the integer literal without decimal places. -/
def ledgerSumText (amounts : List (Option Int)) : Text :=
  match sum? amounts with
  | some sum => amountText sum
  | none => ['0']

/-- `accounts a LEFT JOIN ledger_entries l ON l.account_id = a.id`. -/
def joinedEntries (db : Database) : List (Account × Option LedgerEntry) :=
  leftJoin (fun account entry => decide (entry.accountId = account.id)) db.accounts.rows
    db.ledgerEntries

/-- `SELECT ... GROUP BY a.id, a.balance`. -/
def balanceRows (db : Database) : List BalanceRow :=
  (groupBy (fun joined => (joined.1.id, joined.1.balance)) (joinedEntries db)).map
    fun (value, group) =>
      { accountId := value.1
        storedBalance := amountText value.2
        ledgerSum := ledgerSumText (group.map fun joined => joined.2.map LedgerEntry.amount) }

/-- `HAVING a.balance::TEXT != COALESCE(SUM(l.amount::NUMERIC), 0)::TEXT`. -/
def having (row : BalanceRow) : Bool := decide (row.storedBalance ≠ row.ledgerSum)

/-- The report's line on a row. `parseFloat` and `toFixed` are exact here; in the code the
printed difference is that of two doubles. -/
def mismatch (row : BalanceRow) : ReconciliationMismatch :=
  let stored := FxService.parseAmount row.storedBalance
  let sum := FxService.parseAmount row.ledgerSum
  { accountId := row.accountId
    storedBalance := row.storedBalance
    ledgerSum := row.ledgerSum
    difference := amountText (stored - sum) }

def runLedgerVsBalanceCheck (db : Database) : ReconciliationReport :=
  let rows := (balanceRows db).filter having
  let mismatches := rows.map mismatch
  { ok := decide (mismatches.length = 0), mismatches := mismatches }

end ReconciliationService
end Payroute
