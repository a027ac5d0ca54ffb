import Payroute.Model.Database

/-! # The migration of the disputed status

`AddDisputedStatus` adds a label to the type of the status column and, rolled back,
removes the history rows that mention it and replaces the type. The type is the list
of its labels. The column was created with a default, which is of its type too.
-/

namespace Payroute

open KeyedTable

/-- The tables, the labels of `transaction_status_enum` and the default of
`transactions.status`. -/
structure Catalog where
  statusLabels : List String
  statusDefault : Option String
  tables : Database

/-- `to_state = 'disputed' OR from_state = 'disputed'`. -/
def TransactionStateHistory.MentionsDispute (row : TransactionStateHistory) : Prop :=
  row.toState = "disputed" ∨ row.fromState = some "disputed"

instance (row : TransactionStateHistory) : Decidable row.MentionsDispute :=
  inferInstanceAs (Decidable (_ ∨ _))

namespace AddDisputedStatus

/-- The label is there already where the type has it. -/
def up (catalog : Catalog) : Catalog :=
  if "disputed" ∈ catalog.statusLabels then catalog
  else { catalog with statusLabels := catalog.statusLabels ++ ["disputed"] }

/-- The labels of the type before the migration. -/
def formerLabels : List String := ["initiated", "processing", "completed", "failed", "reversed"]

/-- The catalog after the migrations: `CreateTransactions` declares the column as
`NOT NULL DEFAULT 'initiated'`. -/
def migrated (tables : Database) : Catalog := up ⟨formerLabels, some "initiated", tables⟩

/-- `DELETE FROM transaction_state_history WHERE ...`. -/
def deleteDisputeHistory (db : Database) : Database :=
  { db with stateHistory := db.stateHistory.filter fun row => !decide row.MentionsDispute }

/-- `status::text::transaction_status_enum` for every row: the text of a label is kept,
and any other text makes the statement fail. -/
def castStatuses (labels : List String) (table : Table Transaction) :
    Except String (Table Transaction) :=
  match table.rows.find? fun row => decide (row.status.text ∉ labels) with
  | some row => .error ("invalid input value for enum transaction_status_enum: " ++ row.status.text)
  | none => .ok table

/-- `ALTER COLUMN status TYPE ... USING ...`. The expression says how the rows are cast.
It is not applied to the default of the column, and no cast leads from the renamed type
to the new one, so the statement fails where the column has a default. -/
def alterStatusType (labels : List String) (catalog : Catalog) : Except String Catalog :=
  match catalog.statusDefault with
  | some _ =>
      .error ("default for column status cannot be cast automatically to type " ++
        "transaction_status_enum")
  | none => do
      let transactions ← castStatuses labels catalog.tables.transactions
      return { catalog with
        statusLabels := labels
        tables := { catalog.tables with transactions := transactions } }

/-- The rollback. -/
def down (catalog : Catalog) : Except String Catalog :=
  alterStatusType formerLabels
    { catalog with tables := deleteDisputeHistory catalog.tables }

/-- The former type has a label for every status but the one the migration added. -/
theorem text_mem_formerLabels (status : TransactionStatus) :
    status.text ∈ formerLabels ↔ status ≠ .disputed := by
  cases status <;> decide

/-- The cast succeeds where no payment is disputed, and changes nothing. -/
theorem castStatuses_eq_ok {table last : Table Transaction} :
    castStatuses formerLabels table = .ok last ↔
      last = table ∧ ∀ row ∈ table.rows, row.status ≠ .disputed := by
  unfold castStatuses
  cases found : table.rows.find? fun row => decide (row.status.text ∉ formerLabels) with
  | some row =>
      have unlisted := of_decide_eq_true (List.find?_some found :)
      rw [text_mem_formerLabels, not_not] at unlisted
      constructor
      · intro absurd
        cases absurd
      · rintro ⟨_, undisputed⟩
        exact (undisputed row (List.mem_of_find?_eq_some found) unlisted).elim
  | none =>
      constructor
      · intro same
        refine ⟨(Except.ok.inj same).symm, fun row member => ?_⟩
        have listed := List.find?_eq_none.mp found row member
        rw [decide_eq_true_iff, text_mem_formerLabels, not_not] at listed
        exact listed
      · rintro ⟨rfl, _⟩
        rfl

/-- The rollback succeeds where the column has no default and no payment is disputed. -/
theorem down_eq_ok {first last : Catalog} :
    down first = .ok last ↔
      last = ⟨formerLabels, none, deleteDisputeHistory first.tables⟩ ∧
        first.statusDefault = none ∧
        ∀ row ∈ first.tables.transactions.rows, row.status ≠ .disputed := by
  obtain ⟨labels, default, tables⟩ := first
  unfold down alterStatusType
  cases default with
  | some value =>
      constructor
      · intro absurd
        cases absurd
      · rintro ⟨_, absurd, _⟩
        cases absurd
  | none =>
      constructor
      · intro done
        change (castStatuses formerLabels tables.transactions >>= fun _ => _) = _ at done
        cases cast : castStatuses formerLabels tables.transactions with
        | error message =>
            rw [cast] at done
            cases done
        | ok transactions =>
            rw [cast] at done
            obtain ⟨rfl, undisputed⟩ := castStatuses_eq_ok.mp cast
            exact ⟨(Except.ok.inj done).symm, rfl, undisputed⟩
      · rintro ⟨rfl, _, undisputed⟩
        have cast := castStatuses_eq_ok.mpr ⟨rfl, undisputed⟩
        change (castStatuses formerLabels tables.transactions >>= fun _ => _) = _
        rw [cast]
        rfl

/-- The migrations leave the column with its default. -/
theorem migrated_statusDefault (tables : Database) :
    (migrated tables).statusDefault = some "initiated" := rfl

end AddDisputedStatus
end Payroute
