import Payroute.Books.Postings

/-! # The lifecycle of a payment

What the services are meant to do with a payment: the funds are reserved when it
is opened and then either reach the recipient or return to the sender, and a
payment that reached the recipient may be charged back. The status says which of
these postings have been made.
-/

namespace Payroute

/-- What an entry moves, without its transaction, currency and time. -/
structure Posting where
  accountId : AccountId
  amount : Int
  entryType : EntryType
  isReversal : Bool
  deriving DecidableEq, Repr

def EntryTerms.posting (terms : EntryTerms) : Posting where
  accountId := terms.accountId
  amount := terms.amount
  entryType := terms.entryType
  isReversal := terms.isReversal

def LedgerEntry.posting (entry : LedgerEntry) : Posting := entry.terms.posting

/-- What the postings move on an account in total. -/
def netOf (postings : List Posting) (id : AccountId) : Int :=
  ((postings.filter fun posting => decide (posting.accountId = id)).map Posting.amount).sum

theorem netOf_cons (posting : Posting) (rest : List Posting) (id : AccountId) :
    netOf (posting :: rest) id =
      (if posting.accountId = id then posting.amount else 0) + netOf rest id := by
  unfold netOf
  by_cases same : posting.accountId = id
  · rw [if_pos same, List.filter_cons_of_pos (by exact decide_eq_true same), List.map_cons,
      List.sum_cons]
  · rw [if_neg same, List.filter_cons_of_neg (by simpa using same), zero_add]

@[simp] theorem netOf_nil (id : AccountId) : netOf [] id = 0 := rfl

/-- Whether a compensation reverses the posting. -/
def Posting.IsOriginalDebit (posting : Posting) : Prop :=
  posting.entryType = .debit ∧ posting.isReversal = false

instance (posting : Posting) : Decidable posting.IsOriginalDebit :=
  inferInstanceAs (Decidable (_ ∧ _))

/-- What a compensation posts for a debit. -/
def Posting.reversal (posting : Posting) : Posting :=
  ⟨posting.accountId, posting.amount.natAbs, .credit, true⟩

namespace Transaction

variable (row : Transaction)

/-- The sender's funds are taken when the payment is opened. -/
def reserve : Posting := ⟨row.senderAccountId, -row.sourceAmount, .debit, false⟩

/-- The recipient is credited. -/
def settle : Posting := ⟨row.recipientAccountId, row.destinationAmount, .credit, false⟩

/-- The sender's funds are returned; the entry is marked as a reversal. -/
def release : Posting := ⟨row.senderAccountId, row.sourceAmount, .credit, true⟩

/-- A chargeback takes the recipient's credit back. -/
def takeBack : Posting := ⟨row.recipientAccountId, -row.destinationAmount, .debit, false⟩

/-- A chargeback returns the sender's funds. -/
def giveBack : Posting := ⟨row.senderAccountId, row.sourceAmount, .credit, false⟩

/-- Reversing the reservation releases it. -/
theorem reversal_reserve (nonneg : 0 ≤ row.sourceAmount) : row.reserve.reversal = row.release := by
  have absolute : ((-row.sourceAmount).natAbs : Int) = row.sourceAmount := by omega
  simp only [Posting.reversal, reserve, release, absolute]

/-- The net sum on the sender's account that the status stands for. -/
def senderNet : Int :=
  match row.status with
  | .processing | .completed | .disputed => -row.sourceAmount
  | _ => 0

/-- The net sum on the recipient's account that the status stands for. -/
def recipientNet : Int :=
  match row.status with
  | .completed | .disputed => row.destinationAmount
  | _ => 0

end Transaction

open Transaction

/-- The postings a payment with the given status has. -/
inductive Booked (row : Transaction) : TransactionStatus → List Posting → Prop
  | processing : Booked row .processing [row.reserve]
  | completed : Booked row .completed [row.reserve, row.settle]
  | disputed : Booked row .disputed [row.reserve, row.settle]
  | failed : Booked row .failed [row.reserve, row.release]
  | refunded : Booked row .reversed [row.reserve, row.release]
  | chargedBack : Booked row .reversed [row.reserve, row.settle, row.takeBack, row.giveBack]

/-- How a payment may go on. -/
inductive Advances (row : Transaction) :
    TransactionStatus × List Posting → TransactionStatus × List Posting → Prop
  | settle (postings) :
      Advances row (.processing, postings) (.completed, postings ++ [row.settle])
  | release (postings) :
      Advances row (.processing, postings) (.failed, postings ++ [row.release])
  | close (postings) : Advances row (.failed, postings) (.reversed, postings)
  | refund (postings) :
      Advances row (.completed, postings) (.reversed, postings ++ [row.takeBack, row.giveBack])
  | chargeBack (postings) :
      Advances row (.disputed, postings) (.reversed, postings ++ [row.takeBack, row.giveBack])
  | dispute (postings) : Advances row (.completed, postings) (.disputed, postings)
  | reject (postings) : Advances row (.disputed, postings) (.completed, postings)

/-- Going on keeps status and postings together. -/
theorem Booked.advances {row : Transaction} {first second : TransactionStatus × List Posting}
    (booked : Booked row first.1 first.2) (advances : Advances row first second) :
    Booked row second.1 second.2 := by
  cases advances with
  | settle postings => cases booked; exact .completed
  | release postings => cases booked; exact .failed
  | close postings => cases booked; exact .refunded
  | refund postings => cases booked; exact .chargedBack
  | chargeBack postings => cases booked; exact .chargedBack
  | dispute postings => cases booked; exact .disputed
  | reject postings => cases booked; exact .completed

/-- Going on follows the transition table. -/
theorem Advances.allows {row : Transaction} {first second : TransactionStatus × List Posting}
    (advances : Advances row first second) : first.1.Allows second.1.text := by
  rw [TransactionStatus.allows_text_iff]
  cases advances <;> simp [TransactionStatus.validTransitions]

/-- The status determines what the postings move. -/
theorem Booked.net {row : Transaction} {postings : List Posting}
    (booked : Booked row row.status postings)
    (differ : row.senderAccountId ≠ row.recipientAccountId) :
    netOf postings row.senderAccountId = row.senderNet ∧
      netOf postings row.recipientAccountId = row.recipientNet := by
  have other := Ne.symm differ
  unfold senderNet recipientNet
  generalize row.status = status at booked
  cases booked <;>
    simp only [netOf_cons, netOf_nil, reserve, settle, release, takeBack, giveBack, if_pos,
      if_neg differ, if_neg other] <;> omega

/-- A reversal is marked exactly where the reserved funds were returned. -/
theorem Booked.reversal {row : Transaction} {status : TransactionStatus} {postings : List Posting}
    (booked : Booked row status postings) :
    (∃ posting ∈ postings, posting.isReversal = true) ↔
      status = .failed ∨ status = .reversed ∧ postings = [row.reserve, row.release] := by
  cases booked <;>
    simp [reserve, settle, release, takeBack, giveBack]

/-- A payment is either settled or released. -/
theorem Booked.exclusive {row : Transaction} {status : TransactionStatus} {postings : List Posting}
    (booked : Booked row status postings)
    (differ : row.senderAccountId ≠ row.recipientAccountId) :
    ¬ (row.settle ∈ postings ∧ row.release ∈ postings) := by
  have other := Ne.symm differ
  cases booked <;> simp [reserve, settle, release, takeBack, giveBack, other]

/-- The sender's funds come back at most once. -/
theorem Booked.once {row : Transaction} {status : TransactionStatus} {postings : List Posting}
    (booked : Booked row status postings)
    (differ : row.senderAccountId ≠ row.recipientAccountId) :
    postings.count row.release + postings.count row.giveBack ≤ 1 := by
  have other := Ne.symm differ
  cases booked <;>
    simp [reserve, settle, release, takeBack, giveBack, other]

/-! ## History -/

/-- The state history of a payment: a chain from its opening to its status along
the transition table. -/
inductive Traced : List (Option String × String) → TransactionStatus → Prop
  | opened : Traced [(none, TransactionStatus.initiated.text),
      (some TransactionStatus.initiated.text, TransactionStatus.processing.text)] .processing
  | step {trace : List (Option String × String)} {current next : TransactionStatus}
      (traced : Traced trace current) (allowed : current.Allows next.text) :
      Traced (trace ++ [(some current.text, next.text)]) next

end Payroute
