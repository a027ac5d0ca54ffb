import Payroute.Books.Evolution
import Payroute.Data.Positions

/-! # The account book

What the system is for, without tables, locks and messages: a payment takes a sum
from its sender and, when it comes to pass, gives one to its recipient. One payment
at a time goes on to another status, the balances follow, and no account is
overdrawn.
-/

namespace Payroute

open KeyedTable

/-- The parties and the sums of a payment, and how far it has come. -/
structure Deal where
  sender : AccountId
  recipient : AccountId
  source : Int
  destination : Int
  status : TransactionStatus
  deriving DecidableEq

namespace Deal

/-- What the sender has paid. -/
def paid (deal : Deal) : Int :=
  match deal.status with
  | .processing | .completed | .disputed => deal.source
  | _ => 0

/-- What the recipient has received. -/
def received (deal : Deal) : Int :=
  match deal.status with
  | .completed | .disputed => deal.destination
  | _ => 0

/-- What the payment has moved on an account. -/
def moved (deal : Deal) (account : AccountId) : Int :=
  (if account = deal.sender then -deal.paid else 0) +
    if account = deal.recipient then deal.received else 0

/-- How a payment may go on. -/
inductive Goes : TransactionStatus → TransactionStatus → Prop
  | settle : Goes .processing .completed
  | release : Goes .processing .failed
  | close : Goes .failed .reversed
  | refund : Goes .completed .reversed
  | dispute : Goes .completed .disputed
  | reject : Goes .disputed .completed
  | chargeBack : Goes .disputed .reversed

end Deal

/-- A payment that does not exist has moved nothing. -/
def moved (deal : Option Deal) (account : AccountId) : Int :=
  match deal with
  | none => 0
  | some deal => deal.moved account

/-- The payments and the balances. -/
abbrev AccountBook := Positions.Book TransactionId (Option Deal) AccountId Int

namespace AccountBook

/-- No account is overdrawn. -/
def Covers (first second : AccountBook) : Prop :=
  ∀ account, second.balance account < first.balance account → 0 ≤ second.balance account

/-- One action on the book. -/
inductive Step (first second : AccountBook) : Prop
  | opens (id : TransactionId) (deal : Deal) (absent : first.state id = none)
      (reserved : deal.status = .processing) (parties : deal.sender ≠ deal.recipient)
      (sums : 0 ≤ deal.source ∧ 0 ≤ deal.destination)
      (shift : Positions.Shift moved first second id (some deal))
      (covers : first.Covers second)
  | goesOn (id : TransactionId) (deal : Deal) (next : TransactionStatus)
      (found : first.state id = some deal) (goes : Deal.Goes deal.status next)
      (shift : Positions.Shift moved first second id (some { deal with status := next }))
      (covers : first.Covers second)

/-- Every action takes the position of its payment along. -/
theorem Step.shift {first second : AccountBook} (step : Step first second) :
    ∃ id next, Positions.Shift moved first second id next := by
  cases step with
  | opens id deal absent reserved parties sums shift covers => exact ⟨id, _, shift⟩
  | goesOn id deal next found goes shift covers => exact ⟨id, _, shift⟩

end AccountBook

/-! ## The book of the tables -/

def Transaction.deal (row : Transaction) : Deal where
  sender := row.senderAccountId
  recipient := row.recipientAccountId
  source := row.sourceAmount
  destination := row.destinationAmount
  status := row.status

/-- The balance of an account; without an account there is no money. -/
def Database.moneyOn (db : Database) (id : AccountId) : Int :=
  ((db.accounts.get? id).map Account.balance).getD 0

def Database.accountBook (db : Database) : AccountBook where
  state := fun id => (db.transactions.get? id).map Transaction.deal
  balance := db.moneyOn

theorem Database.moneyOn_of_get? {db : Database} {id : AccountId} {row : Account}
    (found : db.accounts.get? id = some row) : db.moneyOn id = row.balance := by
  unfold moneyOn
  rw [found, Option.map_some, Option.getD_some]

theorem Database.accountBook_of_get? {db : Database} {id : TransactionId} {row : Transaction}
    (found : db.transactions.get? id = some row) : db.accountBook.state id = some row.deal := by
  change (db.transactions.get? id).map _ = _
  rw [found, Option.map_some]

/-- A payment that is not stored has moved nothing. -/
theorem Database.moved_of_absent {db : Database} {id : TransactionId}
    (absent : db.transactions.get? id = none) (account : AccountId) :
    moved (db.accountBook.state id) account = 0 := by
  change moved ((db.transactions.get? id).map _) account = 0
  rw [absent]
  rfl

theorem Database.accountBook_congr {first second : Database} {id : TransactionId}
    (same : second.dossier id = first.dossier id) :
    second.accountBook.state id = first.accountBook.state id := by
  change (second.transactions.get? id).map _ = (first.transactions.get? id).map _
  rw [Database.get?_congr same]

theorem Database.SameBooks.accountBook {first second : Database} (same : first.SameBooks second) :
    second.accountBook = first.accountBook := by
  unfold Database.accountBook Database.moneyOn
  rw [same.accounts, same.transactions]

/-- The columns that no update touches and the status make up the deal. -/
theorem Transaction.deal_of_terms {first second : Transaction}
    (same : second.terms = first.terms) :
    second.deal = { first.deal with status := second.status } := by
  obtain ⟨sender, recipient, source, destination⟩ := Transaction.of_terms same
  simp only [Transaction.deal, sender, recipient, source, destination]

/-- The lifecycle on the postings is the one of the book. -/
theorem Advances.goes {row : Transaction} {first second : TransactionStatus × List Posting}
    (advances : Advances row first second) : Deal.Goes first.1 second.1 := by
  cases advances with
  | settle postings => exact .settle
  | release postings => exact .release
  | close postings => exact .close
  | refund postings => exact .refund
  | chargeBack postings => exact .chargeBack
  | dispute postings => exact .dispute
  | reject postings => exact .reject

/-- Postings are made on the accounts of the parties. -/
theorem Booked.sides {row : Transaction} {status : TransactionStatus} {postings : List Posting}
    (booked : Booked row status postings) {posting : Posting} (member : posting ∈ postings) :
    posting.accountId = row.senderAccountId ∨ posting.accountId = row.recipientAccountId := by
  cases booked <;>
    simp only [List.mem_cons, List.not_mem_nil, or_false] at member <;>
    rcases member with rfl | rfl | rfl | rfl <;>
    first
    | exact .inl rfl
    | exact .inr rfl

theorem Transaction.senderNet_eq (row : Transaction) : row.senderNet = -row.deal.paid := by
  have status : row.deal.status = row.status := rfl
  unfold Transaction.senderNet Deal.paid
  rw [status]
  cases row.status <;> rfl

theorem Transaction.recipientNet_eq (row : Transaction) :
    row.recipientNet = row.deal.received := by
  have status : row.deal.status = row.status := rfl
  unfold Transaction.recipientNet Deal.received
  rw [status]
  cases row.status <;> rfl

/-- What the postings of a payment move on any account is what its deal has moved. -/
theorem Dossier.Lawful.net_eq {dossier : Dossier} (lawful : dossier.Lawful)
    (account : AccountId) : netOf dossier.postings account = dossier.row.deal.moved account := by
  obtain ⟨parties, _, booked⟩ := lawful
  obtain ⟨sender, recipient⟩ := booked.net parties
  change _ = (if account = dossier.row.senderAccountId then -dossier.row.deal.paid else 0) +
    if account = dossier.row.recipientAccountId then dossier.row.deal.received else 0
  by_cases sent : account = dossier.row.senderAccountId
  · have apart : ¬ account = dossier.row.recipientAccountId :=
      fun received => parties (sent.symm.trans received)
    rw [if_pos sent, if_neg apart, add_zero, sent, sender, Transaction.senderNet_eq]
  · rw [if_neg sent, zero_add]
    by_cases received : account = dossier.row.recipientAccountId
    · rw [if_pos received, received, recipient, Transaction.recipientNet_eq]
    · rw [if_neg received]
      have untouched : ∀ posting ∈ dossier.postings, ¬ posting.accountId = account := by
        rintro posting member rfl
        exact (booked.sides member).elim sent received
      unfold netOf
      rw [List.filter_eq_nil_iff.mpr fun posting member => by simpa using untouched posting member]
      rfl

end Payroute
