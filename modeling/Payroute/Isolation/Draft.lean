import Payroute.Books.Changes
import Payroute.Isolation.Contract

/-! # Drafting the changes of a transaction

Inside a transaction the row versions written so far amount to relative changes
of the committed tables, whatever those become before the commit, as long as the
locked rows stay as they are. `World.Drafts` states this, and each statement has
a rule saying how it extends the draft.
-/

namespace Payroute

open EffectSystem KeyedTable

/-- Rows of other identifiers are not affected by inserting rows. -/
theorem get?_putAll {transactions : Table Transaction} {rows : List Transaction}
    {id : TransactionId} (others : ∀ row ∈ rows, row.id ≠ id) :
    (rows.foldl Table.put transactions).get? id = transactions.get? id := by
  induction rows generalizing transactions with
  | nil => rfl
  | cons row rest ih =>
      rw [List.foldl_cons, ih fun other member => others other (List.mem_cons_of_mem _ member)]
      exact Table.get?_put_of_ne _ (Ne.symm (others row List.mem_cons_self))

/-- Changes that open only transactions with new identifiers keep what exists. -/
theorem Changes.persists {changes : Changes} {db : Database}
    (fresh : ∀ row ∈ changes.opened, db.transactions.get? row.id = none) :
    db.Persists (changes.apply db) where
  account := by
    intro id row found
    obtain ⟨rounds, step⟩ := get?_adjustAll changes.adjustments db.accounts id
    rw [found, Option.map_some] at step
    exact ⟨_, step, rfl⟩
  transaction := by
    intro id row found
    have others : ∀ opened ∈ changes.opened, opened.id ≠ id := by
      intro opened member same
      rw [← same, fresh opened member] at found
      cases found
    have step := get?_patchAll changes.patches
      (changes.opened.foldl Table.put db.transactions) id
    rw [get?_putAll others, found, Option.map_some] at step
    exact ⟨_, step, TransactionPatch.terms_applyAll _ row⟩

/-- The open transaction of the process has the given isolation and amounts to
the given changes. -/
structure World.Drafts (world : World) (who : ProcessId) (isolation : Isolation)
    (changes : Changes) : Prop where
  replays : ∃ session, world.sessions who = some session ∧ session.isolation = isolation ∧
    ∀ db : Database, (∀ row, world.rowLocks row = some who → db.rowAt row = world.db.rowAt row) →
      db.replay session.log = changes.apply db
  opened : ∀ row ∈ changes.opened, world.rowLocks (.transaction row.id) = some who ∧
    world.db.transactions.get? row.id = none

/-- The process sees the current version of the row. -/
def World.Reads (world : World) (who : ProcessId) (row : RowId) : Prop :=
  ∃ session, world.sessions who = some session ∧ (session.isolation = .readCommitted ∨
    world.rowLocks row = some who ∧ world.db.rowAt row = session.snapshot.rowAt row)

/-- The serializable transaction of the process has written nothing since it began on
the tables `seen`. -/
def World.Untouched (world : World) (who : ProcessId) (seen : Database) (startedAt : Nat) : Prop :=
  world.sessions who =
    some { isolation := .serializable, snapshot := seen, startedAt := startedAt, log := [] }

namespace World

variable {world : World} {who : ProcessId} {isolation : Isolation} {changes : Changes}

/-- A transaction at read committed reads the committed tables. -/
theorem base_readCommitted {session : OpenTransaction}
    (opened : world.sessions who = some session) (level : session.isolation = .readCommitted) :
    world.base who = world.db := by
  obtain ⟨_, snapshot, startedAt, log⟩ := session
  cases level
  unfold base
  rw [opened]

/-- A serializable one reads its snapshot. -/
theorem base_serializable {session : OpenTransaction}
    (opened : world.sessions who = some session) (level : session.isolation = .serializable) :
    world.base who = session.snapshot := by
  obtain ⟨_, snapshot, startedAt, log⟩ := session
  cases level
  unfold base
  rw [opened]

/-- `NOW()` of an open transaction is when it began. -/
theorem session_now {session : OpenTransaction} (opened : world.sessions who = some session) :
    (world.session who).now = session.startedAt := by
  unfold World.session
  simp only [opened]

/-- A row a process may read is current. -/
theorem Reads.current {row : RowId} (reads : world.Reads who row) : ¬ world.Stale who row := by
  obtain ⟨session, opened, current⟩ := reads
  unfold Stale
  rw [not_not]
  cases level : session.isolation with
  | readCommitted => rw [base_readCommitted opened level]
  | serializable =>
      rw [base_serializable opened level]
      rcases current with weaker | ⟨_, same⟩
      · rw [level] at weaker
        cases weaker
      · exact same

/-- A locked row that is not stale is read as it is. -/
theorem reads_of_current {session : OpenTransaction} {row : RowId}
    (opened : world.sessions who = some session) (held : world.rowLocks row = some who)
    (current : ¬ world.Stale who row) : world.Reads who row := by
  refine ⟨session, opened, ?_⟩
  cases level : session.isolation with
  | readCommitted => exact .inl rfl
  | serializable =>
      have same := not_not.mp current
      rw [base_serializable opened level] at same
      exact .inr ⟨held, same⟩

/-- It stays so while the process keeps its own. -/
theorem Reads.keeps {setting : Setting} {second : World} {row : RowId}
    (reads : world.Reads who row) (keeps : setting.Keeps who world second) :
    second.Reads who row := by
  obtain ⟨session, opened, current⟩ := reads
  obtain ⟨log, grown⟩ := keeps.session session opened
  refine ⟨_, grown, ?_⟩
  rcases current with level | ⟨held, same⟩
  · exact .inl level
  · exact .inr ⟨keeps.locks row held, ((keeps.rows row held).rowAt).trans same⟩

namespace Drafts

/-- A transaction that has just begun has an empty draft. -/
theorem begin (world : World) (who : ProcessId) (isolation : Isolation) :
    (world.begin who isolation).Drafts who isolation {} where
  replays := by
    refine ⟨_, Function.update_self _ _ _, rfl, fun db _ => ?_⟩
    rw [Changes.apply_empty]
    rfl
  opened := fun row member => by cases member

/-- At read committed every row may be read. -/
theorem reads (drafts : world.Drafts who .readCommitted changes) (row : RowId) :
    world.Reads who row := by
  obtain ⟨session, opened, level, _⟩ := drafts.replays
  exact ⟨session, opened, .inl level⟩

/-- A draft keeps the rows there are. -/
theorem persists (drafts : world.Drafts who isolation changes) :
    world.db.Persists (changes.apply world.db) :=
  Changes.persists fun row member => (drafts.opened row member).2

/-- The commit of a draft applies its changes. -/
theorem commits (drafts : world.Drafts who isolation changes) :
    world.db.replay (world.log who) = changes.apply world.db := by
  obtain ⟨session, opened, _, replays⟩ := drafts.replays
  rw [log_open opened]
  exact replays world.db fun _ _ => rfl

/-- At read committed the process sees the committed tables with its changes. -/
theorem view (drafts : world.Drafts who .readCommitted changes) :
    world.view who = changes.apply world.db := by
  obtain ⟨session, opened, level, _⟩ := drafts.replays
  rw [view_of_current (base_readCommitted opened level), drafts.commits]

/-- A row that is not stale is seen as the changes leave it, now and later. -/
theorem rowAt (drafts : world.Drafts who isolation changes) {row : RowId}
    (current : ¬ world.Stale who row) {db : Database}
    (agree : ∀ row, world.rowLocks row = some who → db.rowAt row = world.db.rowAt row)
    (same : db.rowAt row = world.db.rowAt row) :
    (changes.apply db).rowAt row = (world.view who).rowAt row := by
  obtain ⟨session, opened, _, replays⟩ := drafts.replays
  rw [← replays db agree, view_rowAt current, log_open opened]
  exact Database.rowAt_replay same _

/-- A current account is seen with the changes of the draft. -/
theorem account (drafts : world.Drafts who isolation changes) {id : AccountId}
    (current : ¬ world.Stale who (.account id)) :
    (world.view who).accounts.get? id = (changes.apply world.db).accounts.get? id :=
  (RowVersion.account.inj (drafts.rowAt current (fun _ _ => rfl) rfl)).symm

/-- So is a current payment. -/
theorem transaction (drafts : world.Drafts who isolation changes) {id : TransactionId}
    (current : ¬ world.Stale who (.transaction id)) :
    (world.view who).transactions.get? id = (changes.apply world.db).transactions.get? id :=
  (RowVersion.transaction.inj (drafts.rowAt current (fun _ _ => rfl) rfl)).symm

/-- Carrying out an outcome extends the draft by what it writes. -/
theorem apply (drafts : world.Drafts who isolation changes) {ρ : Type} {outcome : Outcome ρ}
    {extended : Changes}
    (next : ∀ db : Database,
      (∀ row, world.rowLocks row = some who → db.rowAt row = world.db.rowAt row) →
      (∀ row, outcome.locks = some row → db.rowAt row = world.db.rowAt row) →
      (match outcome.writes with
        | some version => (changes.apply db).write version
        | none => changes.apply db) = extended.apply db)
    (opened : ∀ row ∈ extended.opened, row ∈ changes.opened ∨
      outcome.locks = some (.transaction row.id) ∧
        world.db.transactions.get? row.id = none) :
    (world.apply who outcome).Drafts who isolation extended := by
  obtain ⟨session, current, level, replays⟩ := drafts.replays
  have shape := apply_open outcome current
  have same : (world.apply who outcome).db = world.db := by rw [shape]
  have keeps : ∀ row, world.rowLocks row = some who →
      (world.apply who outcome).rowLocks row = some who := by
    intro row held
    rw [shape]
    cases outcome.locks with
    | none => exact held
    | some wanted => exact lock_own held
  have takes : ∀ row, outcome.locks = some row →
      (world.apply who outcome).rowLocks row = some who := by
    intro row taken
    rw [shape]
    simp only [taken]
    exact Function.update_self _ _ _
  constructor
  · refine ⟨{ session with log := session.log ++ outcome.writes.toList }, ?_, level, ?_⟩
    · rw [shape]
      cases written : outcome.writes with
      | none =>
          change world.sessions who = _
          rw [current, Option.toList_none, List.append_nil]
      | some version => exact Function.update_self _ _ _
    · intro db agree
      rw [same] at agree
      have before : ∀ row, world.rowLocks row = some who → db.rowAt row = world.db.rowAt row :=
        fun row held => agree row (keeps row held)
      have step := next db before fun row taken => agree row (takes row taken)
      rw [← step]
      cases written : outcome.writes with
      | none =>
          rw [Option.toList_none, List.append_nil]
          exact replays db before
      | some version =>
          rw [Option.toList_some, Database.replay_concat, replays db before]
  · intro row member
    rw [same]
    rcases opened row member with old | ⟨taken, absent⟩
    · obtain ⟨held, absent⟩ := drafts.opened row old
      exact ⟨keeps _ held, absent⟩
    · exact ⟨takes _ taken, absent⟩

/-- An outcome that writes nothing keeps the draft. -/
theorem apply_read (drafts : world.Drafts who isolation changes) {ρ : Type} {outcome : Outcome ρ}
    (reads : outcome.writes = none) : (world.apply who outcome).Drafts who isolation changes := by
  apply drafts.apply
  · intro db _ _
    rw [reads]
  · exact fun row member => .inl member

/-- Leaving the database alone keeps the draft. -/
theorem aside {second : World} (drafts : world.Drafts who isolation changes)
    (aside : world.Aside second) : second.Drafts who isolation changes where
  replays := by
    rw [aside.sessions, aside.rowLocks, aside.db]
    exact drafts.replays
  opened := by
    rw [aside.rowLocks, aside.db]
    exact drafts.opened

/-- The steps of the others keep the draft. -/
theorem frame {second : World} (drafts : world.Drafts who isolation changes)
    (frame : world.Frame who second) : second.Drafts who isolation changes where
  replays := by
    obtain ⟨session, opened, level, replays⟩ := drafts.replays
    refine ⟨session, frame.session.trans opened, level, fun db agree => ?_⟩
    apply replays db
    intro row held
    rw [agree row (frame.locks row held)]
    exact (frame.rows row held).rowAt
  opened := by
    intro row member
    obtain ⟨held, absent⟩ := drafts.opened row member
    have agree := frame.rows _ held
    exact ⟨frame.locks _ held, agree.1.trans absent⟩

end Drafts

namespace Untouched

variable {seen : Database} {startedAt : Nat}

/-- A serializable transaction that has just begun is untouched. -/
theorem begin (world : World) (who : ProcessId) :
    (world.begin who .serializable).Untouched who world.db world.clock :=
  Function.update_self _ _ _

/-- The others do not touch it. -/
theorem frame {second : World} (untouched : world.Untouched who seen startedAt)
    (frame : world.Frame who second) : second.Untouched who seen startedAt :=
  frame.session.trans untouched

/-- An untouched transaction has an empty draft. -/
theorem drafts (untouched : world.Untouched who seen startedAt) :
    world.Drafts who .serializable {} where
  replays := by
    refine ⟨_, untouched, rfl, fun db _ => ?_⟩
    rw [Changes.apply_empty]
    rfl
  opened := fun row member => by cases member

/-- It sees its snapshot. -/
theorem view (untouched : world.Untouched who seen startedAt) : world.view who = seen := by
  unfold World.view
  rw [base_serializable untouched rfl, log_open untouched]
  rfl

/-- The setting's condition on dates holds of the calls it issues. -/
theorem dated {setting : Setting} {op : Operation} (untouched : world.Untouched who seen startedAt)
    (issues : setting.Issues who op world) : setting.dated startedAt seen op := by
  have issued := issues.dated
  rw [World.session_now untouched, base_serializable untouched rfl] at issued
  exact issued

/-- Locked rows are those of the snapshot. -/
theorem rowAt {setting : Setting} {last : World} (untouched : world.Untouched who seen startedAt)
    {row : RowId} (reads : world.Reads who row) (keeps : setting.Keeps who world last) :
    last.db.rowAt row = seen.rowAt row := by
  obtain ⟨session, opened, current⟩ := reads
  unfold Untouched at untouched
  rw [untouched] at opened
  cases opened
  rcases current with weaker | ⟨held, same⟩
  · cases weaker
  · rw [(keeps.rows row held).rowAt]
    exact same

end Untouched

end World
end Payroute
