import Payroute.Services.Support

/-! # Accounts and ledger services

`LedgerService` moves money: each of its functions writes a ledger entry and
changes the balance of the entry's account by a statement of its own.
-/

namespace Payroute

open EffectSystem Program

namespace AccountsService

/-- The row of the account, locked with `FOR UPDATE NOWAIT`, or a 404. -/
def lockForUpdate (id : AccountId) : Service Account := do
  let account ← sql (.lockAccount id)
  orThrow (.notFound s!"Account {id} not found") account

end AccountsService

namespace LedgerService

/-- Takes the amount from a balance that covers it and books a negative entry for the payment. -/
def debit (accountId : AccountId) (amount : Text) (transactionId : TransactionId) :
    Service LedgerEntry := do
  let found ← sql (.select (.account accountId))
  let account ← orThrow (.notFound s!"Account {accountId} not found") found
  let balance ← sql (.updateBalance .debit amount accountId)
  require (balance.isSome = true)
    (.badRequest "Insufficient balance — the debit could not be applied")
  sql (.insertEntry
    { transactionId := transactionId
      accountId := accountId
      currency := account.currency
      amount := '-' :: amount
      entryType := .debit
      isReversal := false })

/-- Adds the amount to the balance and books a positive entry for the payment. -/
def credit (accountId : AccountId) (amount : Text) (transactionId : TransactionId) :
    Service LedgerEntry := do
  let found ← sql (.select (.account accountId))
  let account ← orThrow (.notFound s!"Account {accountId} not found") found
  let entry ← sql (.insertEntry
    { transactionId := transactionId
      accountId := accountId
      currency := account.currency
      amount := amount
      entryType := .credit
      isReversal := false })
  let _ ← sql (.updateBalance .credit amount accountId)
  return entry

/-- `debit.amount.replace('-', '').trim()`. -/
def reversalAmount (amount : Int) : Text := FixedPoint.trim ((amountText amount).erase '-')

/-- One round of the loop in `createCompensatingEntries`. -/
def compensate (transactionId : TransactionId) (debit : LedgerEntry) : Service LedgerEntry := do
  let entry ← sql (.insertEntry
    { transactionId := transactionId
      accountId := debit.accountId
      currency := debit.currency
      amount := reversalAmount debit.amount
      entryType := .credit
      isReversal := true })
  let _ ← sql (.updateBalance .credit (reversalAmount debit.amount) debit.accountId)
  return entry

/-- The loop of `createCompensatingEntries` over the payment's debits. -/
def compensateAll (transactionId : TransactionId) : List LedgerEntry → Service (List LedgerEntry)
  | [] => return []
  | debit :: rest => do
      let entry ← compensate transactionId debit
      let entries ← compensateAll transactionId rest
      return entry :: entries

/-- Inverts every debit the payment has made: an entry the other way and the balance restored. -/
def createCompensatingEntries (transactionId : TransactionId) : Service (List LedgerEntry) := do
  let originalDebits ← sql (.select (.originalDebits transactionId))
  compensateAll transactionId originalDebits

/-- Whether the payment has an entry marked as a reversal. -/
def hasBeenReversed (transactionId : TransactionId) : Service Bool := do
  let count ← sql (.select (.reversalCount transactionId))
  return decide (count > 0)

end LedgerService
end Payroute
