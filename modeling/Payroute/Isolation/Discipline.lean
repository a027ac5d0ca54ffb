import Payroute.Isolation.Numbering
import Payroute.Isolation.Protection

/-! # The locking discipline

Every row version in an open transaction belongs to a row its process has
locked, and nobody else writes such a row before the lock is released. The
discipline is an invariant of the world (`World.Sound`); what it gives a process
is that the other processes leave its locked rows alone (`World.Frame`).
-/

namespace Payroute

open EffectSystem KeyedTable

/-- The invariant behind row locks and fresh identifiers. -/
structure World.Sound (world : World) : Prop where
  /-- Uncommitted row versions are guarded by a lock of their process. -/
  covered : ∀ who session, world.sessions who = some session → ∀ version ∈ session.log,
    ∀ row, version.guard = some row → world.rowLocks row = some who
  /-- No uncommitted balance breaks `CHK_accounts_balance_non_negative` or overflows. -/
  solvent : ∀ who session, world.sessions who = some session → ∀ version ∈ session.log,
    ∀ row, version = .account row → 0 ≤ row.balance ∧ Fits row.balance
  /-- Only open transactions hold locks. -/
  owned : ∀ row who, world.rowLocks row = some who → world.sessions who ≠ none
  /-- Transaction identifiers not handed out yet are unused. -/
  fresh : ∀ id, world.next .transaction ≤ id → world.db.transactions.get? id = none ∧
    world.db.entriesOf id = [] ∧ world.db.historyOf id = [] ∧
    world.rowLocks (.transaction id) = none
  /-- So are references and event identifiers. -/
  numbered : world.Numbered

/-- What the other processes leave as it is for `who`. -/
structure World.Frame (who : ProcessId) (first second : World) : Prop where
  session : second.sessions who = first.sessions who
  locks : ∀ row, first.rowLocks row = some who → second.rowLocks row = some who
  rows : ∀ row, first.rowLocks row = some who → first.db.AgreeAt second.db row
  persists : first.db.Persists second.db
  supplies : ∀ supply, first.next supply ≤ second.next supply

namespace World

variable {world : World} {who : ProcessId}

theorem Frame.refl (who : ProcessId) (world : World) : world.Frame who world where
  session := rfl
  locks := fun _ held => held
  rows := fun row _ => Database.AgreeAt.refl _ row
  persists := .refl _
  supplies := fun _ => Nat.le_refl _

theorem Frame.trans {first second third : World} (left : first.Frame who second)
    (right : second.Frame who third) : first.Frame who third where
  session := right.session.trans left.session
  locks := fun row held => right.locks row (left.locks row held)
  rows := fun row held => (left.rows row held).trans (right.rows row (left.locks row held))
  persists := left.persists.trans right.persists
  supplies := fun supply => (left.supplies supply).trans (right.supplies supply)

/-! ## Steps inside a transaction -/

/-- A step of `who` that changes no committed table: its uncommitted writes and
its locks may grow. -/
structure Inside (who : ProcessId) (first second : World) : Prop where
  db : second.db = first.db
  others : ∀ other, other ≠ who → second.sessions other = first.sessions other
  own : ∀ session, first.sessions who = some session →
    ∃ suffix, second.sessions who = some { session with log := session.log ++ suffix }
  closed : first.sessions who = none → second.sessions who = none
  held : ∀ row, first.rowLocks row = some who → second.rowLocks row = some who
  foreign : ∀ row other, other ≠ who →
    (second.rowLocks row = some other ↔ first.rowLocks row = some other)
  supplies : ∀ supply, first.next supply ≤ second.next supply

/-- The other processes do not notice a step inside a transaction. -/
theorem Inside.frame {first second : World} (inside : first.Inside who second)
    {other : ProcessId} (differs : other ≠ who) : first.Frame other second where
  session := inside.others other differs
  locks := fun row held => (inside.foreign row other differs).mpr held
  rows := fun row _ => by rw [inside.db]; exact Database.AgreeAt.refl _ row
  persists := by rw [inside.db]; exact .refl _
  supplies := inside.supplies

theorem Inside.refl (who : ProcessId) (world : World) : world.Inside who world where
  db := rfl
  others := fun _ _ => rfl
  own := fun session opened => ⟨[], by rw [List.append_nil]; exact opened⟩
  closed := id
  held := fun _ held => held
  foreign := fun _ _ _ => Iff.rfl
  supplies := fun _ => Nat.le_refl _

/-! ## Statements -/

end World

/-- What a statement may lock and write, for a process that holds the rows in
`held` and sees the tables `view`. -/
structure Outcome.Disciplined {ρ : Type} (outcome : Outcome ρ) (view : Database)
    (session : Session) (held : RowId → Prop) : Prop where
  guarded : ∀ version, outcome.writes = some version → ∀ row, version.guard = some row →
    outcome.locks = some row ∨ held row
  solvent : ∀ row, outcome.writes = some (.account row) → 0 ≤ row.balance ∧ Fits row.balance
  known : ∀ id, outcome.locks = some (.transaction id) →
    (∃ row, view.transactions.get? id = some row) ∨
      id = session.next .transaction ∧ outcome.draws = some .transaction

/-- The transaction row a statement needs to be locked already. -/
def Statement.needs : Statement → Option RowId
  | .insertEntry draft => some (.transaction draft.transactionId)
  | .insertHistory id _ _ => some (.transaction id)
  | _ => none

namespace Outcome

variable {ρ : Type} {outcome : Outcome ρ} {view : Database} {session : Session}
  {held : RowId → Prop}

/-- An outcome without locks whose write is not guarded. -/
theorem disciplined_of_free (free : ∀ version, outcome.writes = some version →
    version.guard = none) (unlocked : outcome.locks = none) :
    outcome.Disciplined view session held where
  guarded := fun version written row guard => by
    rw [free version written] at guard
    cases guard
  solvent := fun row written => by
    have guard := free _ written
    cases guard
  known := fun id locked => by
    rw [unlocked] at locked
    cases locked

end Outcome

theorem Database.byReference_get? {view : Database} {reference : ProviderReference}
    {row : Transaction} (found : view.byReference reference = some row) :
    view.transactions.get? row.id = some row :=
  Table.get?_of_mem (List.mem_of_find?_eq_some found)

namespace Statement

variable {view : Database} {session : Session} {held : RowId → Prop}

/-- The row a statement locks because it found it is in the view. -/
theorem known_of_target {statement : Statement} {id : TransactionId}
    (target : statement.target view = some (.transaction id)) :
    ∃ row, view.transactions.get? id = some row := by
  cases statement with
  | lockTransaction wanted nowait =>
      obtain ⟨row, found, same⟩ := Option.map_eq_some_iff.mp target
      cases same
      exact ⟨row, found⟩
  | lockTransactionByReference reference =>
      obtain ⟨row, found, same⟩ := Option.map_eq_some_iff.mp target
      cases same
      exact ⟨row, Database.byReference_get? found⟩
  | updateTransaction wanted patch =>
      obtain ⟨row, found, same⟩ := Option.map_eq_some_iff.mp target
      cases same
      exact ⟨row, found⟩
  | lockAccount wanted =>
      obtain ⟨row, found, same⟩ := Option.map_eq_some_iff.mp target
      cases same
  | updateBalance direction amount wanted =>
      obtain ⟨row, found, same⟩ := Option.map_eq_some_iff.mp target
      cases same
  | _ => cases target

/-- What a statement writes is disciplined. -/
theorem Written.disciplined {statement : Statement} {ρ : Type} {outcome : Outcome ρ}
    {version : Write} (writes : outcome.writes = some version)
    (written : statement.Written view session version outcome.locks outcome.draws)
    (needed : ∀ row, statement.needs = some row → held row) :
    outcome.Disciplined view session held := by
  obtain ⟨reply, draws, locks, _⟩ := outcome
  cases writes
  cases written with
  | balance direction amount found read solvent fits =>
      refine ⟨fun _ written _ guard => ?_, fun _ written => ?_, fun id locked => ?_⟩
      · cases written
        exact .inl guard
      · cases written
        exact ⟨solvent, fits⟩
      · cases locked
  | patch patch found =>
      refine ⟨fun _ written _ guard => ?_, fun _ written => ?_, fun id locked => ?_⟩
      · cases written
        exact .inl guard
      · cases written
      · cases locked
        exact .inl ⟨_, found⟩
  | payment draft =>
      refine ⟨fun _ written _ guard => ?_, fun _ written => ?_, fun id locked => ?_⟩
      · cases written
        exact .inl guard
      · cases written
      · cases locked
        exact .inr ⟨rfl, rfl⟩
  | entry _ | history _ _ _ =>
      refine ⟨fun _ written row guard => ?_, fun _ written => ?_, fun id locked => ?_⟩
      · cases written
        exact .inr (needed row guard)
      · cases written
      · cases locked
  | mark _ _ _ | quote _ _ | event _ _ | purgeEvents _ | key _ _ _ | answer _ _ _ _ | purgeKeys _ =>
      exact Outcome.disciplined_of_free (fun _ written => by cases written; rfl) rfl

/-- The outcome of a successful statement is disciplined. -/
theorem eval_disciplined {statement : Statement} {outcome : Outcome statement.Reply}
    (done : statement.eval view session = .ok outcome)
    (needed : ∀ row, statement.needs = some row → held row) :
    outcome.Disciplined view session held := by
  rcases eval_cases done with ⟨unwritten, _, locks⟩ | ⟨version, writes, written⟩
  · refine ⟨fun _ written => ?_, fun _ written => ?_, fun id locked => ?_⟩
    · rw [unwritten] at written
      cases written
    · rw [unwritten] at written
      cases written
    · rcases locks with none | target
      · rw [none] at locked
        cases locked
      · exact .inl (known_of_target (target.symm.trans locked))
  · exact written.disciplined writes needed

end Statement
end Payroute
