import Payroute.Books.Dossier
import Payroute.Books.Lifecycle

/-! # Commits follow the lifecycle

Each commit of the services either opens a payment, lets one payment go on along
its lifecycle, or leaves status and postings of all payments as they are.
-/

namespace Payroute

open KeyedTable

namespace Dossier

/-- What the entries of the payment post. -/
def postings (dossier : Dossier) : List Posting := dossier.entries.map LedgerEntry.posting

/-- How far the payment is, and what was posted for it. -/
def stage (dossier : Dossier) : TransactionStatus × List Posting :=
  (dossier.row.status, dossier.postings)

/-- The statuses its history goes through. -/
def trace (dossier : Dossier) : List (Option String × String) :=
  dossier.history.map fun row => (row.fromState, row.toState)

/-- Status and postings belong together. -/
structure Lawful (dossier : Dossier) : Prop where
  parties : dossier.row.senderAccountId ≠ dossier.row.recipientAccountId
  nonneg : 0 ≤ dossier.row.sourceAmount
  booked : Booked dossier.row dossier.row.status dossier.postings

end Dossier

/-- The columns of a transaction that the lifecycle speaks about. -/
theorem Transaction.of_terms {first second : Transaction} (same : second.terms = first.terms) :
    second.senderAccountId = first.senderAccountId ∧
      second.recipientAccountId = first.recipientAccountId ∧
      second.sourceAmount = first.sourceAmount ∧
      second.destinationAmount = first.destinationAmount := by
  have sender := congrArg Transaction.senderAccountId same
  have recipient := congrArg Transaction.recipientAccountId same
  have source := congrArg Transaction.sourceAmount same
  have destination := congrArg Transaction.destinationAmount same
  exact ⟨sender, recipient, source, destination⟩

/-- What a payment posts depends on its terms. -/
theorem Transaction.postings_congr {first second : Transaction}
    (same : second.terms = first.terms) :
    second.reserve = first.reserve ∧ second.settle = first.settle ∧
      second.release = first.release ∧ second.takeBack = first.takeBack ∧
      second.giveBack = first.giveBack := by
  obtain ⟨sender, recipient, source, destination⟩ := Transaction.of_terms same
  simp only [Transaction.reserve, Transaction.settle, Transaction.release, Transaction.takeBack,
    Transaction.giveBack, sender, recipient, source, destination, and_self]

/-- The postings belong to the terms of a payment, not to its state. -/
theorem Booked.congr {first second : Transaction} {status : TransactionStatus}
    {postings : List Posting} (booked : Booked first status postings)
    (same : second.terms = first.terms) : Booked second status postings := by
  obtain ⟨reserve, settle, release, takeBack, giveBack⟩ := Transaction.postings_congr same
  cases booked with
  | processing => rw [← reserve]; exact .processing
  | completed => rw [← reserve, ← settle]; exact .completed
  | disputed => rw [← reserve, ← settle]; exact .disputed
  | failed => rw [← reserve, ← release]; exact .failed
  | refunded => rw [← reserve, ← release]; exact .refunded
  | chargedBack => rw [← reserve, ← settle, ← takeBack, ← giveBack]; exact .chargedBack

namespace Dossier

/-- A payment that books what its status asks is lawful. -/
theorem Lawful.of_booked {old new : Dossier} (lawful : old.Lawful)
    (terms : new.row.terms = old.row.terms)
    (booked : Booked old.row new.row.status new.postings) : new.Lawful := by
  obtain ⟨sender, recipient, source, _⟩ := Transaction.of_terms terms
  refine ⟨?_, ?_, booked.congr terms⟩
  · rw [sender, recipient]
    exact lawful.parties
  · rw [source]
    exact lawful.nonneg

/-- One that stays where it is remains lawful. -/
theorem Lawful.stays {old new : Dossier} (lawful : old.Lawful)
    (terms : new.row.terms = old.row.terms) (stage : new.stage = old.stage) : new.Lawful := by
  have status : new.row.status = old.row.status := congrArg Prod.fst stage
  have postings : new.postings = old.postings := congrArg Prod.snd stage
  refine lawful.of_booked terms ?_
  rw [status, postings]
  exact lawful.booked

/-- So does one that advances. -/
theorem Lawful.advances {old new : Dossier} (lawful : old.Lawful)
    (terms : new.row.terms = old.row.terms) (advances : Advances old.row old.stage new.stage) :
    new.Lawful :=
  lawful.of_booked terms (Booked.advances lawful.booked advances)

end Dossier

/-- How one commit changes the payments. Under `strict` the state history is kept
as well, and the status reached satisfies `reaches`. -/
inductive Database.Evolves (strict : Prop) (reaches : TransactionStatus → Prop)
    (first second : Database) : Prop
  | opens (id : TransactionId) (row : Transaction) (entry : LedgerEntry) (opened reserved : Nat)
      (absent : first.transactions.get? id = none)
      (after : second.dossier id = some (openingDossier row entry opened reserved))
      (others : ∀ other, other ≠ id → second.dossier other = first.dossier other)
      (parties : row.senderAccountId ≠ row.recipientAccountId) (nonneg : 0 ≤ row.sourceAmount)
      (posting : entry.posting = row.reserve)
  | stays (same : ∀ id, second.dossier id = first.dossier id)
  | rests (id : TransactionId) (old new : Dossier) (moves : first.Moves second id old new)
      (terms : new.row.terms = old.row.terms) (stage : new.stage = old.stage)
      (trace : strict → new.trace = old.trace)
  | advances (id : TransactionId) (old new : Dossier) (moves : first.Moves second id old new)
      (terms : new.row.terms = old.row.terms)
      (advances : Advances old.row old.stage new.stage)
      (trace : new.trace = old.trace ++ [(some old.row.status.text, new.row.status.text)])
      (reached : reaches new.row.status)

namespace Database.Evolves

variable {strict : Prop} {reaches : TransactionStatus → Prop} {first second : Database}

/-- Payments stay lawful. -/
theorem lawful (evolves : first.Evolves strict reaches second)
    (each : first.Each Dossier.Lawful) : second.Each Dossier.Lawful := by
  cases evolves with
  | opens id row entry opened reserved absent after others parties nonneg posting =>
      refine each.of_changed after others ⟨parties, nonneg, ?_⟩
      change Booked _ _ [entry.posting]
      rw [posting]
      exact .processing
  | stays same =>
      intro id dossier found
      rw [same] at found
      exact each id dossier found
  | rests id old new moves terms stage trace =>
      exact each.moves moves fun held => held.stays terms stage
  | advances id old new moves terms advances trace reached =>
      exact each.moves moves fun held => held.advances terms advances

/-- The state histories stay chains that end in the statuses. -/
theorem traced (strictly : strict) (evolves : first.Evolves strict reaches second)
    (each : first.Each fun dossier => Traced dossier.trace dossier.row.status) :
    second.Each fun dossier => Traced dossier.trace dossier.row.status := by
  cases evolves with
  | opens id row entry opened reserved absent after others parties nonneg posting =>
      exact each.of_changed after others .opened
  | stays same =>
      intro id dossier found
      rw [same] at found
      exact each id dossier found
  | rests id old new moves terms stage trace =>
      refine each.moves moves fun held => ?_
      have status : new.row.status = old.row.status := congrArg Prod.fst stage
      rw [trace strictly, status]
      exact held
  | advances id old new moves terms advances trace reached =>
      refine each.moves moves fun held => ?_
      rw [trace]
      exact held.step advances.allows

/-- A status that is neither the first one nor reached by a commit does not occur. -/
theorem avoids {status : TransactionStatus} (unreached : ¬ reaches status)
    (later : status ≠ .processing) (evolves : first.Evolves strict reaches second)
    (each : first.Each fun dossier => dossier.row.status ≠ status) :
    second.Each fun dossier => dossier.row.status ≠ status := by
  cases evolves with
  | opens id row entry opened reserved absent after others parties nonneg posting =>
      exact each.of_changed after others (Ne.symm later)
  | stays same =>
      intro id dossier found
      rw [same] at found
      exact each id dossier found
  | rests id old new moves terms stage trace =>
      refine each.moves moves fun held => ?_
      have same : new.row.status = old.row.status := congrArg Prod.fst stage
      rw [same]
      exact held
  | advances id old new moves terms advances trace reached =>
      refine each.moves moves fun _ same => unreached ?_
      rw [← same]
      exact reached

end Database.Evolves

end Payroute
