import Payroute.Commits.Relations
import Payroute.Isolation.Draft

/-! # The dossier of a payment

A transaction with its ledger entries and its state history. A commit of the
services changes the dossier of one transaction and leaves the others alone.
-/

namespace Payroute

open KeyedTable

/-- The status of a payment. -/
def Database.statusOf (db : Database) (id : TransactionId) : Option TransactionStatus :=
  (db.transactions.get? id).map Transaction.status

/-- All that the tables say about one payment: its row, its ledger entries and its history. -/
structure Dossier where
  row : Transaction
  entries : List LedgerEntry
  history : List TransactionStateHistory
  deriving DecidableEq, Repr

namespace Database

/-- The dossier of a stored payment. -/
def dossier (db : Database) (id : TransactionId) : Option Dossier :=
  (db.transactions.get? id).map fun row => ⟨row, db.entriesOf id, db.historyOf id⟩

/-- A stored payment has a dossier. -/
theorem dossier_of_get? {db : Database} {id : TransactionId} {row : Transaction}
    (found : db.transactions.get? id = some row) :
    db.dossier id = some ⟨row, db.entriesOf id, db.historyOf id⟩ := by
  unfold dossier
  rw [found, Option.map_some]

/-- A dossier comes from the tables. -/
theorem get?_of_dossier {db : Database} {id : TransactionId} {dossier : Dossier}
    (found : db.dossier id = some dossier) : db.transactions.get? id = some dossier.row ∧
      db.entriesOf id = dossier.entries ∧ db.historyOf id = dossier.history := by
  obtain ⟨row, there, same⟩ := Option.map_eq_some_iff.mp found
  subst same
  exact ⟨there, rfl, rfl⟩

/-- The dossier found under an identifier is that of the payment. -/
theorem dossier_row_id {db : Database} {id : TransactionId} {dossier : Dossier}
    (found : db.dossier id = some dossier) : dossier.row.id = id :=
  Table.key_of_get? (get?_of_dossier found).1

/-- The same books have the same dossiers. -/
theorem SameBooks.dossier {first second : Database} (same : first.SameBooks second)
    (id : TransactionId) : second.dossier id = first.dossier id := by
  obtain ⟨_, transactions, entries, history⟩ := same
  unfold Database.dossier entriesOf historyOf
  rw [transactions, entries, history]

/-- A dossier that did not change has the same row. -/
theorem get?_congr {first second : Database} {id : TransactionId}
    (same : second.dossier id = first.dossier id) :
    second.transactions.get? id = first.transactions.get? id := by
  have rows : ∀ db : Database, (db.dossier id).map Dossier.row = db.transactions.get? id := by
    intro db
    unfold dossier
    rw [Option.map_map]
    exact Option.map_id' ..
  rw [← rows second, ← rows first, same]

/-- The same books have the same statuses. -/
theorem SameBooks.statusOf {first second : Database} (same : first.SameBooks second)
    (id : TransactionId) : second.statusOf id = first.statusOf id := by
  unfold Database.statusOf
  rw [same.transactions]

/-- The status is that of the dossier's row. -/
theorem statusOf_of_dossier {db : Database} {id : TransactionId} {dossier : Dossier}
    (found : db.dossier id = some dossier) : db.statusOf id = some dossier.row.status := by
  unfold statusOf
  rw [(get?_of_dossier found).1, Option.map_some]

/-- A dossier that did not change has the same status. -/
theorem statusOf_congr {first second : Database} {id : TransactionId}
    (same : second.dossier id = first.dossier id) :
    second.statusOf id = first.statusOf id := by
  unfold statusOf
  rw [get?_congr same]

/-- One dossier changes and the others stay. -/
structure Moves (first second : Database) (id : TransactionId) (old new : Dossier) : Prop where
  before : first.dossier id = some old
  after : second.dossier id = some new
  others : ∀ other, other ≠ id → second.dossier other = first.dossier other

/-- Every dossier has the property. -/
def Each (property : Dossier → Prop) (db : Database) : Prop :=
  ∀ id dossier, db.dossier id = some dossier → property dossier

/-- One dossier without the property suffices. -/
theorem not_each {property : Dossier → Prop} [DecidablePred property] {db : Database}
    (id : TransactionId)
    (fails : (db.dossier id).any (fun dossier => !decide (property dossier)) = true) :
    ¬ db.Each property := by
  intro each
  cases found : db.dossier id with
  | none =>
      rw [found] at fails
      cases fails
  | some dossier =>
      rw [found, Option.any_some, decide_eq_true (each id dossier found)] at fails
      cases fails

/-- Every dossier belongs to a row. -/
theorem each_of_rows {property : Dossier → Prop} {db : Database}
    (rows : ∀ row ∈ db.transactions.rows,
      property ⟨row, db.entriesOf row.id, db.historyOf row.id⟩) : db.Each property := by
  intro id dossier found
  have there := (get?_of_dossier found).1
  have holds := rows dossier.row (Table.mem_of_get? there)
  rw [dossier_row_id found, (get?_of_dossier found).2.1, (get?_of_dossier found).2.2] at holds
  exact holds

variable {first second : Database} {property : Dossier → Prop}

/-- What holds of each dossier holds of the same books. -/
theorem Each.sameBooks (each : first.Each property) (same : first.SameBooks second) :
    second.Each property := by
  intro id dossier found
  rw [same.dossier] at found
  exact each id dossier found

/-- It holds on when one dossier changes to one of which it holds. -/
theorem Each.of_changed (each : first.Each property) {id : TransactionId} {new : Dossier}
    (after : second.dossier id = some new)
    (others : ∀ other, other ≠ id → second.dossier other = first.dossier other)
    (holds : property new) : second.Each property := by
  intro other dossier found
  by_cases same : other = id
  · subst other
    rw [after] at found
    cases found
    exact holds
  · rw [others other same] at found
    exact each other dossier found

/-- It holds on when one dossier moves and the move keeps it. -/
theorem Each.moves (each : first.Each property) {id : TransactionId} {old new : Dossier}
    (moves : first.Moves second id old new) (holds : property old → property new) :
    second.Each property :=
  each.of_changed moves.after moves.others (holds (each id old moves.before))

end Database

namespace Settlement

/-- The settlement posts and records only for its own transaction. -/
structure Own (settlement : Settlement) : Prop where
  entries : ∀ entry ∈ settlement.entries, entry.transactionId = settlement.id
  history : ∀ row ∈ settlement.history, row.transactionId = settlement.id

/-- The dossier a settlement leaves. -/
def advance (settlement : Settlement) (old : Dossier) : Dossier where
  row := settlement.patches.foldl (fun row patch => patch.apply row) old.row
  entries := old.entries ++ settlement.entries
  history := old.history ++ settlement.history

variable {settlement : Settlement}

/-- A settlement leaves the other payments alone. -/
theorem agreeAt_other (own : settlement.Own) (db : Database) {id : TransactionId}
    (other : id ≠ settlement.id) : db.AgreeAt (settlement.apply db) (.transaction id) := by
  have entries :
      settlement.entries.filter (fun entry => decide (entry.transactionId = id)) = [] := by
    apply List.filter_eq_nil_iff.mpr
    intro entry member
    rw [own.entries entry member]
    simpa using Ne.symm other
  have history : settlement.history.filter (fun row => decide (row.transactionId = id)) = [] := by
    apply List.filter_eq_nil_iff.mpr
    intro row member
    rw [own.history row member]
    simpa using Ne.symm other
  refine ⟨?_, ?_, ?_⟩
  · rw [get?_apply, if_neg other]
  · rw [entriesOf_apply, entries, List.append_nil]
  · rw [historyOf_apply, history, List.append_nil]

/-- A settlement leaves the dossiers of the other payments alone. -/
theorem dossier_other (own : settlement.Own) (db : Database) {id : TransactionId}
    (other : id ≠ settlement.id) : (settlement.apply db).dossier id = db.dossier id := by
  obtain ⟨row, entries, history⟩ := agreeAt_other own db other
  unfold Database.dossier
  rw [row, entries, history]

/-- It advances that of its own payment. -/
theorem dossier_apply (own : settlement.Own) (db : Database) :
    (settlement.apply db).dossier settlement.id =
      (db.dossier settlement.id).map settlement.advance := by
  unfold Database.dossier
  rw [get?_apply, if_pos rfl, entriesOf_apply, historyOf_apply]
  have entries : settlement.entries.filter
      (fun entry => decide (entry.transactionId = settlement.id)) = settlement.entries :=
    List.filter_eq_self.mpr fun entry member => decide_eq_true (own.entries entry member)
  have history : settlement.history.filter
      (fun row => decide (row.transactionId = settlement.id)) = settlement.history :=
    List.filter_eq_self.mpr fun row member => decide_eq_true (own.history row member)
  rw [entries, history, Option.map_map, Option.map_map]
  rfl

/-- So it moves one dossier. -/
theorem moves (own : settlement.Own) {db : Database} {old : Dossier}
    (found : db.dossier settlement.id = some old) :
    db.Moves (settlement.apply db) settlement.id old (settlement.advance old) where
  before := found
  after := by rw [dossier_apply own, found, Option.map_some]
  others := fun _ other => dossier_other own db other

/-- Where the transaction does not exist, a settlement without postings changes nothing. -/
theorem each (own : settlement.Own) {db : Database} {property : Dossier → Prop}
    (holds : db.Each property)
    (advances : ∀ old, db.dossier settlement.id = some old → property (settlement.advance old)) :
    (settlement.apply db).Each property := by
  cases found : db.dossier settlement.id with
  | none =>
      intro id dossier there
      by_cases same : id = settlement.id
      · rw [same, dossier_apply own, found] at there
        cases there
      · rw [dossier_other own db same] at there
        exact holds id dossier there
  | some old => exact holds.moves (moves own found) fun _ => advances old found

end Settlement

/-- The history rows of the settlements name their own transaction. -/
theorem history_own {id : TransactionId} {fromState : Option String} {toState : String}
    {timestamp : Nat} : ∀ row ∈ [({ transactionId := id, fromState := fromState
                                    toState := toState, timestamp := timestamp } :
      TransactionStateHistory)], row.transactionId = id := by
  intro row member
  rw [List.mem_singleton.mp member]

/-- No entries are all of the payment. -/
theorem no_entries {id : TransactionId} : ∀ entry ∈ ([] : List LedgerEntry),
    entry.transactionId = id := fun _ member => (List.not_mem_nil member).elim

/-- A settlement that only patches its row. -/
theorem Settlement.own_patches {id : TransactionId} {patches : List TransactionPatch} :
    Settlement.Own { id := id, patches := patches } :=
  ⟨no_entries, fun _ member => (List.not_mem_nil member).elim⟩

/-- The dossier of a new payment. -/
def openingDossier (row : Transaction) (entry : LedgerEntry) (opened reserved : Nat) : Dossier where
  row := { row with status := .processing }
  entries := [entry]
  history := [{ transactionId := row.id, fromState := none
                toState := TransactionStatus.initiated.text, timestamp := opened },
              { transactionId := row.id, fromState := some TransactionStatus.initiated.text
                toState := TransactionStatus.processing.text, timestamp := reserved }]

/-- Opening a payment adds its row. -/
theorem get?_opening (db : Database) (quote : FxQuote) (row : Transaction) (entry : LedgerEntry)
    (opened reserved : Nat) (id : TransactionId) :
    ((openingOf quote row entry opened reserved).apply db).transactions.get? id =
      if id = row.id then some { row with status := .processing } else db.transactions.get? id := by
  change (patchRow (db.transactions.put row) (row.id, { status := some .processing })).get? id = _
  rw [get?_patchRow, Table.get?_put]
  by_cases same : id = row.id
  · rw [if_pos same, if_pos same]
    change Option.map _ (if id = row.id then some row else _) = _
    rw [if_pos same]
    rfl
  · rw [if_neg same, if_neg same]
    change (if id = row.id then some row else _) = _
    rw [if_neg same]

/-- Opening a payment adds its dossier. -/
theorem dossier_opening {db : Database} {quote : FxQuote} {row : Transaction} {entry : LedgerEntry}
    {opened reserved : Nat} (owner : entry.transactionId = row.id)
    (entries : db.entriesOf row.id = []) (history : db.historyOf row.id = []) :
    ((openingOf quote row entry opened reserved).apply db).dossier row.id =
        some (openingDossier row entry opened reserved) ∧
      ∀ id, id ≠ row.id →
        ((openingOf quote row entry opened reserved).apply db).dossier id = db.dossier id := by
  have rows := get?_opening db quote row entry opened reserved
  have posted : ∀ id, ((openingOf quote row entry opened reserved).apply db).entriesOf id =
      db.entriesOf id ++ [entry].filter fun entry => decide (entry.transactionId = id) :=
    fun id => List.filter_append ..
  have recorded : ∀ id, ((openingOf quote row entry opened reserved).apply db).historyOf id =
      db.historyOf id ++ (openingDossier row entry opened reserved).history.filter
        fun row => decide (row.transactionId = id) :=
    fun id => List.filter_append ..
  constructor
  · unfold Database.dossier
    rw [rows, if_pos rfl, posted, recorded, entries, history]
    simp only [openingDossier, List.filter_cons, owner, decide_true, if_true, List.filter_nil,
      List.nil_append, Option.map_some]
  · intro id other
    unfold Database.dossier
    rw [rows, if_neg other, posted, recorded]
    have differs : ¬ row.id = id := Ne.symm other
    simp only [openingDossier, List.filter_cons, owner, decide_eq_false differs, if_false,
      List.filter_nil, List.append_nil, Bool.false_eq_true]

end Payroute
