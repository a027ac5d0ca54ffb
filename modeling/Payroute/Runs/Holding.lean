import Payroute.Runs.Concurrent
import Payroute.Runs.Locking

/-! # What a phase says about the world

Each phase of the locking protocol is a statement about the process's session and the
rows it has locked. Every call of the process moves it to a phase that fits again, and
the steps of the others leave the phase as it is.
-/

namespace Payroute

open EffectSystem KeyedTable

/-! ## Locks of single calls -/

/-- A statement locks the row it looks for, and an inserted payment. -/
theorem Statement.target_of_locks {statement : Statement} {view : Database} {session : Session}
    {outcome : Outcome statement.Reply} (done : statement.eval view session = .ok outcome)
    {row : RowId} (locks : outcome.locks = some row) :
    statement.target view = some row ∨ ∃ draft, statement = .insertTransaction draft := by
  rcases eval_cases done with ⟨_, _, none | target⟩ | ⟨version, _, written⟩
  · rw [none] at locks
    cases locks
  · exact .inl (target.symm.trans locks)
  · rw [locks] at written
    generalize outcome.draws = draws at written
    cases written with
    | balance direction amount found =>
        left
        change (view.accounts.get? _).map _ = _
        rw [found]
        rfl
    | patch patch found =>
        left
        change (view.transactions.get? _).map _ = _
        rw [found]
        rfl
    | payment draft => exact .inr ⟨draft, rfl⟩

/-- An inserted payment is locked. -/
theorem Statement.locks_of_insert {draft : TransactionDraft} {view : Database} {session : Session}
    {outcome : Outcome Transaction}
    (done : (Statement.insertTransaction draft).eval view session = .ok outcome) :
    outcome.locks = some (.transaction outcome.reply.id) := by
  simp only [eval, Database.insertTransaction] at done
  split at done
  · cases done
  · split at done <;> cases done
    rfl
  · cases done

namespace World

variable {world : World} {who : ProcessId}

/-- Inside a transaction a statement changes no committed table, keeps the locks and adds
at most the one it asks for. -/
theorem execute_opened {session : OpenTransaction} (opened : world.sessions who = some session)
    (statement : Statement) :
    (world.execute who statement).2.db = world.db ∧
      (∀ row, world.rowLocks row = some who →
        (world.execute who statement).2.rowLocks row = some who) ∧
      ∀ row, (world.execute who statement).2.rowLocks row = some who →
        world.rowLocks row = some who ∨ statement.target (world.view who) = some row ∨
          ∃ draft, statement = .insertTransaction draft := by
  rcases execute_cases world who statement with ⟨error, failed⟩ | ⟨outcome, done, _, ran⟩
  · rw [failed]
    exact ⟨rfl, fun _ held => held, fun _ held => .inl held⟩
  · rw [ran, apply_open outcome opened]
    cases locks : outcome.locks with
    | none => exact ⟨rfl, fun _ held => held, fun _ held => .inl held⟩
    | some taken =>
        refine ⟨rfl, fun _ held => lock_own held, fun row held => ?_⟩
        change Function.update world.rowLocks taken (some who) row = some who at held
        by_cases same : row = taken
        · subst same
          exact .inr (Statement.target_of_locks done locks)
        · rw [Function.update_of_ne same] at held
          exact .inl held

/-- What an outcome locks is locked when it is carried out. -/
theorem apply_locks {ρ : Type} {session : OpenTransaction}
    (opened : world.sessions who = some session) {outcome : Outcome ρ} {row : RowId}
    (locks : outcome.locks = some row) : (world.apply who outcome).rowLocks row = some who := by
  rw [apply_open outcome opened, locks]
  exact Function.update_self _ _ _

/-- A call locks no row for another process. -/
theorem exec_foreign {other : ProcessId} (differs : other ≠ who) (delivery : Delivery)
    (op : Operation) {row : RowId}
    (held : (World.exec who delivery op world).2.rowLocks row = some other) :
    world.rowLocks row = some other := by
  rcases exec_state who delivery op world with same | ran
  · rw [same] at held
    exact held
  · rw [ran] at held
    clear ran
    by_cases neutral : op.Neutral
    · rw [(perform_neutral neutral).rowLocks] at held
      exact held
    cases op with
    | begin isolation => exact held
    | commit => exact ((release_rowLocks row other).mp held).1
    | rollback => exact ((release_rowLocks row other).mp held).1
    | sql statement =>
        change (world.execute who statement).2.rowLocks row = some other at held
        rcases execute_cases world who statement with ⟨error, failed⟩ | ⟨outcome, _, free, done⟩
        · rw [failed] at held
          exact held
        · rw [done] at held
          cases opened : world.sessions who with
          | none =>
              rw [apply_closed outcome opened] at held
              exact held
          | some session =>
              rw [apply_open outcome opened] at held
              cases locks : outcome.locks with
              | none =>
                  rw [locks] at held
                  exact held
              | some taken =>
                  rw [locks] at held
                  exact (lock_foreign (free taken locks).1 row differs).mp held
    | _ => exact (neutral trivial).elim

end World

/-! ## Phases and worlds -/

namespace Locking

/-- The process has a transaction of the given isolation open in which it has written
nothing. -/
def Unwritten (world : World) (who : ProcessId) (isolation : Isolation) : Prop :=
  ∃ session, world.sessions who = some session ∧ session.isolation = isolation ∧ session.log = []

/-- The process has the payment's row locked, and nothing that the lock protects has
changed since. -/
structure Owns (world : World) (who : ProcessId) (seen : Database) (row : Transaction) : Prop where
  held : world.rowLocks (.transaction row.id) = some who
  found : seen.transactions.get? row.id = some row
  agree : seen.AgreeAt world.db (.transaction row.id)

/-- What the phase of a process says about the world. -/
def Phase.Fits (world : World) (who : ProcessId) : Phase → Prop
  | .outside => world.sessions who = none
  | .begun isolation => Unwritten world who isolation ∧ ∀ row, world.rowLocks row ≠ some who
  | .reserving sender => world.rowLocks (.account sender) = some who
  | .opened sender id => world.rowLocks (.account sender) = some who ∧
      world.rowLocks (.transaction id) = some who
  | .looking seen row => Unwritten world who .readCommitted ∧ Owns world who seen row ∧
      ∀ id, world.rowLocks (.account id) ≠ some who
  | .moving seen row done => Owns world who seen row ∧
      ∀ id, world.rowLocks (.account id) = some who → id ∈ done
  | .closing => True

section Fits

variable {world later : World} {who : ProcessId} {phase : Phase} {command : Command}

/-- A step of the others leaves the phase as it is. -/
theorem Phase.Fits.frame (fits : phase.Fits world who) (frame : world.Frame who later)
    (locks : ∀ row, later.rowLocks row = some who → world.rowLocks row = some who) :
    phase.Fits later who := by
  have unwritten : ∀ isolation, Unwritten world who isolation → Unwritten later who isolation := by
    intro isolation unwritten
    obtain ⟨session, opened, rest⟩ := unwritten
    exact ⟨session, frame.session.trans opened, rest⟩
  have owns : ∀ seen row, Owns world who seen row → Owns later who seen row := by
    intro seen row owns
    exact ⟨frame.locks _ owns.held, owns.found, owns.agree.trans (frame.rows _ owns.held)⟩
  cases phase with
  | outside => exact frame.session.trans fits
  | begun isolation => exact ⟨unwritten _ fits.1, fun row held => fits.2 row (locks row held)⟩
  | reserving sender => exact frame.locks _ fits
  | opened sender id => exact ⟨frame.locks _ fits.1, frame.locks _ fits.2⟩
  | looking seen row =>
      exact ⟨unwritten _ fits.1, owns _ _ fits.2.1, fun id held => fits.2.2 id (locks _ held)⟩
  | moving seen row done =>
      exact ⟨owns _ _ fits.1, fun id held => fits.2 id (locks _ held)⟩
  | closing => trivial

/-- A single call outside a transaction opens none. -/
theorem single_closed {op : Operation} (single : Single op) (closed : world.sessions who = none) :
    (world.perform who op).2.sessions who = none := by
  by_cases neutral : op.Neutral
  · rw [(World.perform_neutral neutral).sessions]
    exact closed
  · cases op with
    | begin _ => exact single.elim
    | commit => exact single.elim
    | rollback => exact single.elim
    | sql statement => exact World.execute_closed closed statement
    | _ => exact (neutral trivial).elim

/-- Code that needs no row takes and frees none. -/
theorem idle_locks {op : Operation} (idle : Idle op) {session : OpenTransaction}
    (opened : world.sessions who = some session) :
    (world.perform who op).2.db = world.db ∧
      ∀ row, (world.perform who op).2.rowLocks row = some who ↔ world.rowLocks row = some who := by
  by_cases neutral : op.Neutral
  · have aside : world.Aside (world.perform who op).2 := World.perform_neutral neutral
    exact ⟨aside.db, fun row => by rw [aside.rowLocks]⟩
  · cases op with
    | sql statement =>
        obtain ⟨same, kept, taken⟩ := World.execute_opened opened statement
        refine ⟨same, fun row => ⟨fun held => ?_, kept row⟩⟩
        rcases taken row held with before | asked | ⟨draft, rfl⟩
        · exact before
        · cases statement with
          | select _ => exact (neutral trivial).elim
          | updateEvent _ _ | insertEntry _ | insertQuote _ | insertHistory _ _ _ => cases asked
          | _ => exact idle.elim
        · exact idle.elim
    | begin _ | commit | rollback => exact idle.elim
    | _ => exact (neutral trivial).elim

/-- Holding a row means that a transaction is open. -/
theorem session_of_held (sound : world.Sound) {row : RowId}
    (held : world.rowLocks row = some who) : ∃ session, world.sessions who = some session :=
  Option.ne_none_iff_exists'.mp (sound.owned row who held)

theorem view_unwritten (unwritten : Unwritten world who .readCommitted) :
    world.view who = world.db := by
  obtain ⟨session, opened, level, empty⟩ := unwritten
  rw [World.view_of_current (World.base_readCommitted opened level), World.log_open opened, empty]
  rfl

/-- A locking read keeps an unwritten transaction unwritten. -/
theorem Unwritten.lock {isolation : Isolation} (unwritten : Unwritten world who isolation)
    {ρ : Type} {outcome : Outcome ρ} (reads : outcome.writes = none) :
    Unwritten (world.apply who outcome) who isolation := by
  obtain ⟨session, opened, rest⟩ := unwritten
  refine ⟨session, ?_, rest⟩
  rw [World.apply_open outcome opened, reads]
  exact opened

/-- A statement that returns was carried out. -/
theorem executed {statement : Statement} {value : statement.Reply}
    (returned : (world.execute who statement).1 = .ok value) :
    ∃ outcome, statement.eval (world.view who) (world.session who) = .ok outcome ∧
      outcome.reply = value ∧ (world.execute who statement).2 = world.apply who outcome := by
  rcases World.execute_cases world who statement with ⟨error, failed⟩ | ⟨outcome, done, _, ran⟩
  · rw [failed] at returned
    cases returned
  · rw [ran] at returned ⊢
    cases returned
    exact ⟨outcome, done, rfl, rfl⟩

/-- A payment found by a locking read is locked, and no account is. -/
theorem fits_looking {statement : Statement} {outcome : Outcome statement.Reply}
    (fits : (Phase.begun .readCommitted).Fits world who) {row : Transaction}
    (reads : outcome.writes = none) (locks : outcome.locks = some (.transaction row.id))
    (found : world.db.transactions.get? row.id = some row) :
    (Phase.looking world.db row).Fits (world.apply who outcome) who := by
  obtain ⟨unwritten, free⟩ := fits
  obtain ⟨session, opened, level, empty⟩ := unwritten
  have shape := World.apply_open outcome opened
  refine ⟨Unwritten.lock ⟨session, opened, level, empty⟩ reads, ?_, fun id held => ?_⟩
  · refine ⟨World.apply_locks opened locks, found, ?_⟩
    rw [shape]
    exact .refl _ _
  · rw [shape, locks] at held
    change Function.update world.rowLocks (.transaction row.id) (some who) (.account id) =
      some who at held
    rw [Function.update_of_ne fun same => by cases same] at held
    exact free _ held

/-- A balance update locks its account in addition. -/
theorem fits_moving {session : OpenTransaction} (opened : world.sessions who = some session)
    {seen : Database} {row : Transaction} {done : List AccountId} {direction : EntryType}
    {amount : Text} {account : AccountId} (owns : Owns world who seen row)
    (accounts : ∀ id, world.rowLocks (.account id) = some who → id ∈ done) :
    (Phase.moving seen row (done ++ [account])).Fits
      (world.perform who (.sql (.updateBalance direction amount account))).2 who := by
  obtain ⟨db, kept, taken⟩ := World.execute_opened opened (.updateBalance direction amount account)
  refine ⟨⟨kept _ owns.held, owns.found, ?_⟩, fun id held => ?_⟩
  · change seen.AgreeAt (world.execute who _).2.db _
    rw [db]
    exact owns.agree
  · rcases taken _ held with before | asked | ⟨draft, absurd⟩
    · exact List.mem_append_left _ (accounts id before)
    · obtain ⟨found, _, same⟩ := Option.map_eq_some_iff.mp asked
      cases same
      exact List.mem_append_right _ (List.mem_singleton_self _)
    · cases absurd

/-- Code that needs no row leaves a process in the phase it has reached. -/
theorem fits_idle (sound : world.Sound) (fits : phase.Fits world who) (settled : phase.Settled)
    {op : Operation} (idle : Idle op) : phase.Fits (world.perform who op).2 who := by
  cases phase with
  | outside | begun _ | looking _ _ => exact settled.elim
  | closing => trivial
  | reserving sender =>
      obtain ⟨session, opened⟩ := session_of_held sound fits
      exact ((idle_locks idle opened).2 _).mpr fits
  | opened sender id =>
      obtain ⟨session, opened⟩ := session_of_held sound fits.1
      obtain ⟨_, same⟩ := idle_locks idle opened
      exact ⟨(same _).mpr fits.1, (same _).mpr fits.2⟩
  | moving seen row done =>
      obtain ⟨owns, accounts⟩ := fits
      obtain ⟨session, opened⟩ := session_of_held sound owns.held
      obtain ⟨db, same⟩ := idle_locks idle opened
      refine ⟨⟨(same _).mpr owns.held, owns.found, ?_⟩, fun id held => ?_⟩
      · rw [db]
        exact owns.agree
      · exact accounts id ((same _).mp held)

/-- The first entry of a process that has locked the payment alone. -/
theorem fits_post {seen : Database} {row : Transaction}
    (fits : (Phase.looking seen row).Fits world who) (draft : EntryDraft) :
    (Phase.moving seen row []).Fits (world.perform who (.sql (.insertEntry draft))).2 who := by
  obtain ⟨⟨session, opened, _, _⟩, owns, free⟩ := fits
  have idle : Idle (.sql (.insertEntry draft)) := trivial
  obtain ⟨db, same⟩ := idle_locks idle opened
  refine ⟨⟨(same _).mpr owns.held, owns.found, ?_⟩, fun id held => ?_⟩
  · rw [db]
    exact owns.agree
  · exact (free id ((same _).mp held)).elim

/-- The call, answered so, moves the process to a phase that fits. -/
def Lands (command : Command) (phase : Phase) (world : World) (who : ProcessId) (op : Operation)
    (value : op.Reply) : Prop :=
  ∃ last, Takes command phase op value last ∧ last.Fits (world.perform who op).2 who

theorem lands_lockAccount {isolation : Isolation} (fits : (Phase.begun isolation).Fits world who)
    {id : AccountId} {value : Option Account}
    (returned : (world.execute who (.lockAccount id)).1 = .ok value) :
    Lands command (.begun isolation) world who (.sql (.lockAccount id)) value := by
  obtain ⟨⟨session, opened, _, _⟩, _⟩ := fits
  obtain ⟨outcome, done, rfl, ran⟩ := executed returned
  change ∃ last, Takes _ _ _ _ last ∧ last.Fits (world.execute who _).2 who
  rw [ran]
  cases done
  cases found : (world.view who).accounts.get? id with
  | none => exact ⟨_, .missAccount, trivial⟩
  | some account =>
      refine ⟨_, .lockAccount account, World.apply_locks opened ?_⟩
      change ((world.view who).accounts.get? _).map _ = _
      rw [found]
      rfl

theorem lands_insert (sound : world.Sound) {sender : AccountId}
    (fits : (Phase.reserving sender).Fits world who) {draft : TransactionDraft}
    {value : Transaction}
    (returned : (world.execute who (.insertTransaction draft)).1 = .ok value) :
    Lands command (.reserving sender) world who (.sql (.insertTransaction draft)) value := by
  obtain ⟨session, opened⟩ := session_of_held sound fits
  obtain ⟨outcome, done, rfl, ran⟩ := executed returned
  obtain ⟨_, kept, _⟩ := World.execute_opened opened (.insertTransaction draft)
  refine ⟨_, .insert _, kept _ fits, ?_⟩
  change (world.execute who _).2.rowLocks _ = _
  rw [ran]
  exact World.apply_locks opened (Statement.locks_of_insert done)

/-- The locking reads of a payment look at the committed tables: nothing is written yet. -/
theorem lands_lock (fits : (Phase.begun .readCommitted).Fits world who) {id : TransactionId}
    {nowait : Bool} {value : Option Transaction}
    (returned : (world.execute who (.lockTransaction id nowait)).1 = .ok value) :
    Lands command (.begun .readCommitted) world who (.sql (.lockTransaction id nowait)) value := by
  obtain ⟨outcome, done, rfl, ran⟩ := executed returned
  change ∃ last, Takes _ _ _ _ last ∧ last.Fits (world.execute who _).2 who
  rw [ran]
  cases done
  rw [view_unwritten fits.1]
  cases found : world.db.transactions.get? id with
  | none => exact ⟨_, .miss, trivial⟩
  | some row =>
      have same : row.id = id := Table.key_of_get? found
      refine ⟨_, .lock same found, fits_looking fits rfl ?_ (by rw [same]; exact found)⟩
      change (world.db.transactions.get? _).map _ = _
      rw [found, same]
      rfl

theorem lands_lockReference (fits : (Phase.begun .readCommitted).Fits world who)
    {reference : ProviderReference} {value : Option Transaction}
    (returned : (world.execute who (.lockTransactionByReference reference)).1 = .ok value) :
    Lands command (.begun .readCommitted) world who
      (.sql (.lockTransactionByReference reference)) value := by
  obtain ⟨outcome, done, rfl, ran⟩ := executed returned
  change ∃ last, Takes _ _ _ _ last ∧ last.Fits (world.execute who _).2 who
  rw [ran]
  cases done
  rw [view_unwritten fits.1]
  cases found : world.db.byReference reference with
  | none => exact ⟨_, .missReference, trivial⟩
  | some row =>
      have there := Database.byReference_get? found
      refine ⟨_, .lockReference there, fits_looking fits rfl ?_ there⟩
      change (world.db.byReference _).map _ = _
      rw [found]
      rfl

/-- What a process reads of the entries of the payment it has locked is what it saw. -/
theorem lands_count {seen : Database} {row : Transaction}
    (fits : (Phase.looking seen row).Fits world who) {value : Nat}
    (returned : (world.execute who (.select (.reversalCount row.id))).1 = .ok value) :
    Lands command (.looking seen row) world who (.sql (.select (.reversalCount row.id)))
      value := by
  have read : Query.eval (world.view who) (.reversalCount row.id) =
      Query.eval seen (.reversalCount row.id) := by
    rw [view_unwritten fits.1]
    exact congrArg (fun entries => (entries.filter LedgerEntry.isReversal).length)
      fits.2.1.agree.2.1
  cases returned
  change ∃ last, Takes command _ (.sql (.select (.reversalCount row.id)))
    (Query.eval (world.view who) (.reversalCount row.id)) last ∧ last.Fits world who
  rw [read]
  exact ⟨_, .count, fits⟩

theorem lands_debits {seen : Database} {row : Transaction}
    (fits : (Phase.looking seen row).Fits world who) {value : List LedgerEntry}
    (returned : (world.execute who (.select (.originalDebits row.id))).1 = .ok value) :
    Lands command (.looking seen row) world who (.sql (.select (.originalDebits row.id)))
      value := by
  have read : (world.view who).originalDebits row.id = seen.originalDebits row.id := by
    rw [view_unwritten fits.1]
    exact Database.originalDebits_congr fits.2.1.agree.2.1
  cases returned
  change ∃ last, Takes command _ (.sql (.select (.originalDebits row.id)))
    ((world.view who).originalDebits row.id) last ∧ last.Fits world who
  rw [read]
  exact ⟨_, .debits, fits⟩

/-- A call that returns moves the process to a phase that fits. -/
theorem Takes.fits (sound : world.Sound) (fits : phase.Fits world who) {op : Operation}
    {value : op.Reply} {guess : op.Reply} {next : Phase}
    (allowed : Takes command phase op guess next)
    (returned : (world.perform who op).1 = .ok value) :
    Lands command phase world who op value := by
  cases allowed with
  | single single _ => exact ⟨_, .single single _, single_closed single fits⟩
  | begin isolation =>
      refine ⟨_, .begin isolation, ⟨_, Function.update_self _ _ _, rfl, rfl⟩, fun row held => ?_⟩
      exact sound.owned row who held fits
  | commit inside => exact ⟨_, .commit inside, Function.update_self _ _ _⟩
  | rollback inside => exact ⟨_, .rollback inside, Function.update_self _ _ _⟩
  | idle settled idle _ => exact ⟨_, .idle settled idle value, fits_idle sound fits settled idle⟩
  | lockAccount _ | missAccount => exact lands_lockAccount fits returned
  | insert _ => exact lands_insert sound fits returned
  | reserve _ =>
      obtain ⟨session, opened⟩ := session_of_held sound fits.1
      obtain ⟨_, kept, _⟩ := World.execute_opened opened (.updateBalance _ _ _)
      exact ⟨_, .reserve value, kept _ fits.1, kept _ fits.2⟩
  | start =>
      obtain ⟨session, opened⟩ := session_of_held sound fits.1
      obtain ⟨_, kept, _⟩ := World.execute_opened opened (.updateTransaction _ _)
      exact ⟨_, .start, kept _ fits.1, kept _ fits.2⟩
  | lock _ _ | miss => exact lands_lock fits returned
  | lockReference _ | missReference => exact lands_lockReference fits returned
  | update => exact ⟨_, .update, trivial⟩
  | account _ => exact ⟨_, .account value, fits⟩
  | count => exact lands_count fits returned
  | debits => exact lands_debits fits returned
  | post => exact ⟨_, .post value, fits_post fits _⟩
  | @first seen row direction amount id ordered _ =>
      obtain ⟨⟨session, opened, _, _⟩, owns, free⟩ := fits
      have moved : (Phase.moving seen row ([] ++ [id])).Fits
          (world.perform who (.sql (.updateBalance direction amount id))).2 who :=
        fits_moving opened owns fun other held => (free other held).elim
      exact ⟨_, .first ordered value, moved⟩
  | move ordered _ =>
      obtain ⟨owns, accounts⟩ := fits
      obtain ⟨session, opened⟩ := session_of_held sound owns.held
      exact ⟨_, .move ordered value, fits_moving opened owns accounts⟩
  | close => exact ⟨_, .close, trivial⟩
  | finish => exact ⟨_, .finish, trivial⟩
  | note => exact ⟨_, .note, trivial⟩

/-- Only remote calls fail. -/
theorem remote_of_error {delivery : Delivery} {op : Operation} {error : Failure}
    (failed : (World.exec who delivery op world).1 = .error error) : op.isRemote = true := by
  by_contra near
  unfold World.exec at failed
  rw [if_neg near] at failed
  cases op with
  | rollback | scheduleCallback _ _ | emit _ | now | sleep _ | observe _ => cases failed
  | _ => exact near rfl

/-- A call that fails moves the process to a phase that fits. -/
theorem Phase.Fits.failed (fits : phase.Fits world who) {op : Operation} {guess : op.Reply}
    {next : Phase} (allowed : Takes command phase op guess next) (delivery : Delivery) :
    (phase.failed op).Fits (World.exec who delivery op world).2 who := by
  cases allowed with
  | single single _ =>
      have closed : (World.exec who delivery op world).2.sessions who = none := by
        rcases World.exec_state who delivery op world with same | ran
        · rw [same]
          exact fits
        · rw [ran]
          exact single_closed single fits
      cases op with
      | begin _ | commit | rollback => exact single.elim
      | _ => exact closed
  | begin _ => trivial
  | commit inside | rollback inside =>
      rw [Phase.failed_inside inside]
      trivial
  | idle settled _ _ =>
      rw [Phase.failed_inside settled.inside]
      trivial
  | _ => trivial

/-- Every call moves the process to a phase that fits. -/
theorem Moves.fits (sound : world.Sound) (fits : phase.Fits world who) {op : Operation}
    (allowed : (Moves command).Allows phase op) (delivery : Delivery) :
    ∃ last, Moves command phase op (World.exec who delivery op world).1 last ∧
      last.Fits (World.exec who delivery op world).2 who := by
  have taken : ∃ guess next, Takes command phase op guess next := by
    obtain ⟨reply, next, moves⟩ := allowed
    cases reply with
    | ok value => exact ⟨value, next, moves⟩
    | error error => exact moves.2.2
  obtain ⟨guess, next, taken⟩ := taken
  cases reply : (World.exec who delivery op world).1 with
  | ok value =>
      have ran := World.exec_of_ok reply
      rw [ran] at reply ⊢
      exact Takes.fits sound fits taken reply
  | error error =>
      exact ⟨phase.failed op, ⟨remote_of_error reply, rfl, guess, next, taken⟩,
        fits.failed taken delivery⟩

end Fits

/-! ## Runs -/

section Runs

variable {deployment : Deployment} {assigned : ProcessId → Command}
  {first last : Pool ProcessId Failure Operation.Reply World} {phases : ProcessId → Phase}

/-- Each process runs the operation it is assigned, any number of times. -/
def Assigned (deployment : Deployment) (assigned : ProcessId → Command) (who : ProcessId)
    (body : Service Unit) : Prop :=
  body = (assigned who).program deployment

/-- The contract of the operations, whatever they commit. -/
abbrev Valid (deployment : Deployment) (pool : Pool ProcessId Failure Operation.Reply World) :
    Prop :=
  concurrent.Valid (Command.CommitsOf concurrent deployment fun _ => True) (fun _ _ _ => True) pool

/-- Every process follows the protocol of its operation from its phase, and the phase
fits the world. -/
structure Obeys (assigned : ProcessId → Command)
    (pool : Pool ProcessId Failure Operation.Reply World) (phases : ProcessId → Phase) : Prop where
  fits : ∀ who, (phases who).Fits pool.shared who
  follows : ∀ who body, pool.running who = some body →
    Follows (Moves (assigned who)) (fun _ last => last = .outside) body (phases who)

/-- One process moves on, and the others stay where they are. -/
theorem Obeys.update (obeys : Obeys assigned first phases) {state : World} {who : ProcessId}
    {phase : Phase} {running : Option (Service Unit)} (fits : phase.Fits state who)
    (others : ∀ other, other ≠ who → (phases other).Fits state other)
    (follows : ∀ body, running = some body →
      Follows (Moves (assigned who)) (fun _ last => last = .outside) body phase) :
    Obeys assigned ⟨state, Function.update first.running who running⟩
      (Function.update phases who phase) := by
  refine ⟨fun other => ?_, fun other body current => ?_⟩
  · by_cases same : other = who
    · subst same
      rw [Function.update_self]
      exact fits
    · rw [Function.update_of_ne same]
      exact others other same
  · change Function.update first.running who running other = some body at current
    by_cases same : other = who
    · subst same
      rw [Function.update_self] at current ⊢
      exact follows body current
    · rw [Function.update_of_ne same] at current ⊢
      exact obeys.follows other body current

/-- A process without a running operation is in the phase outside. -/
theorem outside_fits (valid : Valid deployment first) {who : ProcessId}
    (free : first.running who = none) : Phase.outside.Fits first.shared who :=
  valid.resting who free

/-- Steps of assigned operations are steps of operations. -/
theorem step_of_assigned
    (step : Pool.Step backend (surroundings (Assigned deployment assigned)) first last) :
    Pool.Step backend (surroundings (Command.Starts deployment fun _ => True)) first last := by
  cases step with
  | spawn who body free started => exact .spawn who body free ⟨assigned who, trivial, started⟩
  | call who choice op next current ready => exact .call who choice op next current ready
  | finish who ended => exact .finish who ended
  | crash who alive => exact .crash who alive
  | drift next moved => exact .drift next moved

/-- One step of a pool keeps the phases. -/
theorem Obeys.step (valid : Valid deployment first) (obeys : Obeys assigned first phases)
    (step : Pool.Step backend (surroundings (Assigned deployment assigned)) first last) :
    ∃ later, Obeys assigned last later := by
  cases step with
  | spawn who body free started =>
      refine ⟨_, obeys.update (outside_fits valid free) (fun other _ => obeys.fits other) ?_⟩
      intro program current
      cases current
      rw [started]
      exact follows_program deployment (assigned who)
  | call who choice op next current ready =>
      obtain ⟨allowed, follows⟩ := obeys.follows who _ current
      obtain ⟨later, moved, fitting⟩ := Moves.fits valid.inv (obeys.fits who) allowed choice
      obtain ⟨_, granted, _⟩ := valid.running who _ current first.shared
        ((Setting.regular _ _).refl who _) valid.inv choice
        ⟨ready, concurrent_unguarded _ _ _⟩
      refine ⟨_, obeys.update fitting ?_ ?_⟩
      · intro other differs
        exact (obeys.fits other).frame (granted.frames other differs) fun row held =>
          World.exec_foreign differs choice op held
      · intro program same
        cases same
        exact follows _ later moved
  | finish who ended =>
      have final : phases who = .outside := by
        rcases ended with returned | ⟨error, failed⟩
        · exact obeys.follows who _ returned
        · exact obeys.follows who _ failed
      refine ⟨_, obeys.update (obeys.fits who) (fun other _ => obeys.fits other) ?_⟩
      intro program absurd
      cases absurd
  | crash who alive =>
      have closed : Phase.outside.Fits (World.crash who first.shared) who :=
        Function.update_self _ _ _
      refine ⟨_, obeys.update closed ?_ ?_⟩
      · intro other differs
        exact (obeys.fits other).frame (World.release_frame differs) fun row held =>
          ((World.release_rowLocks row other).mp held).1
      · intro program absurd
        cases absurd
  | drift next moved =>
      have aside := World.Elapses.aside moved
      refine ⟨phases, fun who => ?_, obeys.follows⟩
      exact (obeys.fits who).frame (aside.frame who) fun row held => by
        rw [← aside.rowLocks]
        exact held

/-- Every reachable state has phases that fit. -/
theorem Obeys.reachable {initial : World} (rest : initial.AtRest)
    (reached : Pool.Reachable backend (surroundings (Assigned deployment assigned)) initial last) :
    Valid deployment last ∧ ∃ phases, Obeys assigned last phases := by
  induction reached with
  | refl =>
      refine ⟨Setting.valid_quiet rest, fun _ => .outside, rest.sessions, fun who body absurd => ?_⟩
      cases absurd
  | tail _ step ih =>
      obtain ⟨valid, phases, obeys⟩ := ih
      exact ⟨(Command.pool_step valid (step_of_assigned step)).1, obeys.step valid step⟩

end Runs
end Locking
end Payroute
