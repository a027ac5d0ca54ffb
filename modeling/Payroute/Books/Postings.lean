import Payroute.Books.Changes
import Payroute.Services.Ledger

/-! # Postings

What the ledger service posts, up to the identifier and the time of the entry,
and the amounts its strings stand for.
-/

namespace Payroute

open FixedPoint

/-- A ledger entry without its identifier and time. -/
structure EntryTerms where
  transactionId : TransactionId
  accountId : AccountId
  currency : String
  amount : Int
  entryType : EntryType
  isReversal : Bool
  deriving DecidableEq, Repr

/-- What an entry says, without its identifier and time. -/
def LedgerEntry.terms (entry : LedgerEntry) : EntryTerms where
  transactionId := entry.transactionId
  accountId := entry.accountId
  currency := entry.currency
  amount := entry.amount
  entryType := entry.entryType
  isReversal := entry.isReversal

/-- What `debit` posts. -/
def debitTerms (transactionId : TransactionId) (accountId : AccountId) (currency : String)
    (amount : Int) : EntryTerms where
  transactionId := transactionId
  accountId := accountId
  currency := currency
  amount := -amount
  entryType := .debit
  isReversal := false

/-- What `credit` posts. -/
def creditTerms (transactionId : TransactionId) (accountId : AccountId) (currency : String)
    (amount : Int) : EntryTerms where
  transactionId := transactionId
  accountId := accountId
  currency := currency
  amount := amount
  entryType := .credit
  isReversal := false

/-- What `createCompensatingEntries` posts for a debit. -/
def reversalTerms (transactionId : TransactionId) (debit : LedgerEntry) : EntryTerms where
  transactionId := transactionId
  accountId := debit.accountId
  currency := debit.currency
  amount := debit.amount.natAbs
  entryType := .credit
  isReversal := true

/-! ## Amounts as strings -/

/-- The text of an amount is read as the amount. -/
@[simp] theorem numericOfText_amountText (amount : Int) :
    numericOfText (amountText amount) = some amount :=
  read?_columnText (by decide) amount

/-- `-${amount}` is a number only where the amount is not negative. -/
theorem numericOfText_minus_amountText {amount units : Int}
    (readable : numericOfText ('-' :: amountText amount) = some units) :
    0 ≤ amount ∧ units = -amount :=
  read?_minus_columnText_cases (by decide) readable

/-- So is that of a number. -/
@[simp] theorem numericOfText_numberText (units : Nat) :
    numericOfText (numberText units) = some (units : Int) :=
  read?_numberText (by decide) units

/-- With a minus in front it is read as the negative number. -/
@[simp] theorem numericOfText_minus_numberText (units : Nat) :
    numericOfText ('-' :: numberText units) = some (-(units : Int)) :=
  read?_minus_numberText (by decide) units

/-- The amount of a reversal is read without its sign. -/
@[simp] theorem numericOfText_reversalAmount (amount : Int) :
    numericOfText (LedgerService.reversalAmount amount) = some (amount.natAbs : Int) :=
  read?_stripped_columnText (by decide) amount

end Payroute
