import Payroute.Isolation.Discipline

/-! # Steps of the world under the discipline

What a statement inside a transaction, a call that does not touch the database,
a commit and a rollback do to the invariant and to the other processes.
-/

namespace Payroute

open EffectSystem KeyedTable

namespace World

variable {world : World} {who : ProcessId}

/-! ## Carrying out an outcome -/

section Apply

variable {ρ : Type} (outcome : Outcome ρ)

/-- Inside of a transaction an outcome adds to the session. -/
theorem apply_open {session : OpenTransaction} (opened : world.sessions who = some session) :
    world.apply who outcome =
      { world with
        next := match outcome.draws with
          | some supply => Function.update world.next supply (world.next supply + 1)
          | none => world.next
        rowLocks := match outcome.locks with
          | some row => Function.update world.rowLocks row (some who)
          | none => world.rowLocks
        sessions := match outcome.writes with
          | some version => Function.update world.sessions who
              (some { session with log := session.log ++ [version] })
          | none => world.sessions } := by
  obtain ⟨reply, draws, locks, writes⟩ := outcome
  cases draws <;> cases locks <;> cases writes <;>
    simp only [apply, draw, lock, write, opened]

/-- Outside of one it is committed at once. -/
theorem apply_closed (closed : world.sessions who = none) :
    world.apply who outcome =
      { world with
        next := match outcome.draws with
          | some supply => Function.update world.next supply (world.next supply + 1)
          | none => world.next
        db := match outcome.writes with
          | some version => world.db.write version
          | none => world.db } := by
  obtain ⟨reply, draws, locks, writes⟩ := outcome
  cases draws <;> cases locks <;> cases writes <;>
    simp only [apply, draw, lock, write, closed]

end Apply

/-- After a statement inside a transaction the process also sees what it wrote. -/
theorem view_apply {ρ : Type} {outcome : Outcome ρ} {session : OpenTransaction}
    (opened : world.sessions who = some session) :
    (world.apply who outcome).view who = match outcome.writes with
      | some version => (world.view who).write version
      | none => world.view who := by
  rw [apply_open outcome opened]
  obtain ⟨isolation, snapshot, startedAt, log⟩ := session
  cases written : outcome.writes with
  | none => rfl
  | some version =>
      simp only [view, base, World.log, Function.update_self, opened, Database.replay_concat]
      cases isolation <;> rfl

/-- A statement either fails without effect or carries out what it evaluates to,
on a row that is neither locked by another process nor stale. -/
theorem execute_cases (world : World) (who : ProcessId) (statement : Statement) :
    (∃ error, world.execute who statement = (.error error, world)) ∨
      ∃ outcome, statement.eval (world.view who) (world.session who) = .ok outcome ∧
        (∀ row, outcome.locks = some row → ¬ world.Blocked who row ∧ ¬ world.Stale who row) ∧
        world.execute who statement = (.ok outcome.reply, world.apply who outcome) := by
  unfold execute
  cases evaluated : statement.eval (world.view who) (world.session who) with
  | error error => exact .inl ⟨error, rfl⟩
  | ok outcome =>
      cases locked : outcome.locks with
      | none =>
          refine .inr ⟨outcome, rfl, ?_, ?_⟩
          · intro row taken
            rw [locked] at taken
            cases taken
          · simp only [locked]
      | some row =>
          simp only [locked]
          by_cases blocked : world.Blocked who row
          · exact .inl ⟨_, if_pos blocked⟩
          · by_cases stale : world.Stale who row
            · exact .inl ⟨_, by rw [if_neg blocked, if_pos stale]⟩
            · refine .inr ⟨outcome, rfl, ?_, ?_⟩
              · intro wanted same
                rw [locked] at same
                cases same
                exact ⟨blocked, stale⟩
              · rw [if_neg blocked, if_neg stale]

/-- What no statement reaches. -/
structure Apart (first second : World) : Prop where
  redisLocks : second.redisLocks = first.redisLocks
  cache : second.cache = first.cache
  jobs : second.jobs = first.jobs
  callbacks : second.callbacks = first.callbacks
  emitted : second.emitted = first.emitted
  journal : second.journal = first.journal
  clock : second.clock = first.clock

/-- A statement stays apart from what is not in the database. -/
theorem execute_apart (world : World) (who : ProcessId) (statement : Statement) :
    world.Apart (world.execute who statement).2 := by
  rcases execute_cases world who statement with ⟨error, refused⟩ | ⟨outcome, _, _, ran⟩
  · rw [refused]
    exact ⟨rfl, rfl, rfl, rfl, rfl, rfl, rfl⟩
  · rw [ran]
    cases opened : world.sessions who with
    | none =>
        rw [apply_closed outcome opened]
        exact ⟨rfl, rfl, rfl, rfl, rfl, rfl, rfl⟩
    | some session =>
        rw [apply_open outcome opened]
        exact ⟨rfl, rfl, rfl, rfl, rfl, rfl, rfl⟩

/-- A statement outside a transaction opens none. -/
theorem execute_closed (closed : world.sessions who = none) (statement : Statement) :
    (world.execute who statement).2.sessions who = none := by
  rcases execute_cases world who statement with ⟨error, refused⟩ | ⟨outcome, _, _, ran⟩
  · rw [refused]
    exact closed
  · rw [ran, apply_closed outcome closed]
    exact closed

/-- A row that is not stale is seen as in the committed tables with the own writes. -/
theorem view_rowAt {row : RowId} (current : ¬ world.Stale who row) :
    (world.view who).rowAt row = (world.db.replay (world.log who)).rowAt row :=
  Database.rowAt_replay (not_not.mp current).symm _

/-- Outside a transaction and at read committed a process sees the committed tables. -/
theorem view_of_current (current : world.base who = world.db) :
    world.view who = world.db.replay (world.log who) := by
  unfold view
  rw [current]

/-- What a process has written is the log of its session. -/
theorem log_open {session : OpenTransaction} (opened : world.sessions who = some session) :
    world.log who = session.log := by
  unfold log
  rw [opened]

/-- Outside of a transaction a process sees the committed tables. -/
theorem view_closed (closed : world.sessions who = none) : world.view who = world.db := by
  unfold view base log
  rw [closed]
  rfl

/-- A transaction the process sees and may lock has an identifier already handed out. -/
theorem Sound.known {session : OpenTransaction} (sound : world.Sound)
    (opened : world.sessions who = some session) {id : TransactionId} {row : Transaction}
    (current : ¬ world.Stale who (.transaction id))
    (seen : (world.view who).transactions.get? id = some row) : id < world.next .transaction := by
  by_contra beyond
  obtain ⟨absent, -, -, free⟩ := sound.fresh id (Nat.not_lt.mp beyond)
  have unguarded : ∀ version ∈ session.log, version.guard ≠ some (.transaction id) := by
    intro version member guard
    rw [sound.covered who session opened version member _ guard] at free
    cases free
  have kept := (world.db.agreeAt_replay unguarded).1
  have same := RowVersion.transaction.inj (view_rowAt current)
  rw [log_open opened] at same
  rw [same, kept, absent] at seen
  cases seen

/-- Taking a lock nobody else holds. -/
theorem lock_foreign {row : RowId} (free : ¬ world.Blocked who row) (wanted : RowId)
    {other : ProcessId} (differs : other ≠ who) :
    Function.update world.rowLocks row (some who) wanted = some other ↔
      world.rowLocks wanted = some other := by
  by_cases same : wanted = row
  · subst wanted
    rw [Function.update_self]
    constructor
    · intro equal
      exact (differs (Option.some.inj equal).symm).elim
    · intro held
      exact (free ⟨other, held, differs⟩).elim
  · rw [Function.update_of_ne same]

/-- A process that locks another row keeps those it has. -/
theorem lock_own {row wanted : RowId} (held : world.rowLocks wanted = some who) :
    Function.update world.rowLocks row (some who) wanted = some who := by
  by_cases same : wanted = row
  · rw [same, Function.update_self]
  · rw [Function.update_of_ne same]
    exact held

/-- Supplies only move on. -/
theorem le_next_draw (next : Supply → Nat) (drawn supply : Supply) :
    next supply ≤ Function.update next drawn (next drawn + 1) supply := by
  by_cases same : supply = drawn
  · rw [same, Function.update_self]
    exact Nat.le_succ _
  · rw [Function.update_of_ne same]

/-- An outcome whose row version is numbered keeps the world numbered. -/
theorem Numbered.apply {ρ : Type} (numbered : world.Numbered) (outcome : Outcome ρ)
    (below : ∀ version, outcome.writes = some version →
      version.Below (drawn world.next outcome.draws)) : (world.apply who outcome).Numbered := by
  have grows := drawn_grows world.next outcome.draws
  cases opened : world.sessions who with
  | none =>
      have shape := World.apply_closed outcome opened
      have next : (world.apply who outcome).next = drawn world.next outcome.draws := by
        rw [shape]
        cases outcome.draws <;> rfl
      have sessions : (world.apply who outcome).sessions = world.sessions := by rw [shape]
      have grows : ∀ supply, world.next supply ≤ (world.apply who outcome).next supply := by
        rw [next]
        exact grows
      refine ⟨?_, fun other session found => ?_, fun other session found version member => ?_⟩
      · rw [next, shape]
        cases written : outcome.writes with
        | none => exact numbered.db.mono (drawn_grows _ _)
        | some version => exact (numbered.db.mono (drawn_grows _ _)).write (below version written)
      · rw [sessions] at found
        exact (numbered.snapshots other session found).mono grows
      · rw [sessions] at found
        exact (numbered.logs other session found version member).mono grows
  | some session =>
      have shape := World.apply_open outcome opened
      have next : (world.apply who outcome).next = drawn world.next outcome.draws := by
        rw [shape]
        cases outcome.draws <;> rfl
      have db : (world.apply who outcome).db = world.db := by rw [shape]
      have held : (world.apply who outcome).db.Below (world.apply who outcome).next := by
        rw [db, next]
        exact numbered.db.mono grows
      have snapshot := (numbered.snapshots who session opened).mono grows
      cases written : outcome.writes with
      | none =>
          refine numbered.mono db ?_ ?_
          · rw [shape, written]
          · rw [next]
            exact grows
      | some version =>
          refine numbered.update who (some
            { session with log := session.log ++ [version] }) held ?_ ?_ ?_
          · rw [next]
            exact grows
          · rw [shape, written]
          · rintro _ ⟨⟩
            rw [next]
            refine ⟨snapshot, fun other member => ?_⟩
            rcases List.mem_append.mp member with old | new
            · exact (numbered.logs who session opened other old).mono grows
            · rw [List.mem_singleton.mp new]
              exact below version written

/-- What a statement does keeps the numbering. -/
theorem Numbered.apply_eval (numbered : world.Numbered) {statement : Statement}
    (numbers : statement.Numbers world.next) {outcome : Outcome statement.Reply}
    (done : statement.eval (world.view who) (world.session who) = .ok outcome) :
    (world.apply who outcome).Numbered :=
  numbered.apply outcome fun _ written =>
    (Statement.written_of_eval done written).below numbered.view numbers

section Apply

variable {ρ : Type} {outcome : Outcome ρ} {session : OpenTransaction}

/-- An outcome adds what it writes to the session of its process. -/
theorem apply_own (opened : world.sessions who = some session) :
    (world.apply who outcome).sessions who =
      some { session with log := session.log ++ outcome.writes.toList } := by
  rw [apply_open outcome opened]
  cases written : outcome.writes with
  | none =>
      change world.sessions who = _
      rw [opened, Option.toList_none, List.append_nil]
  | some version => exact Function.update_self _ _ _

/-- Carrying out an outcome inside a transaction that has the row to itself. -/
theorem inside_apply (opened : world.sessions who = some session)
    (free : ∀ row, outcome.locks = some row → ¬ world.Blocked who row) :
    world.Inside who (world.apply who outcome) where
  db := by rw [apply_open outcome opened]
  others := by
    intro other differs
    rw [apply_open outcome opened]
    cases written : outcome.writes with
    | none => rfl
    | some version => exact Function.update_of_ne differs _ _
  own := by
    intro found same
    rw [opened] at same
    cases same
    exact ⟨_, apply_own opened⟩
  closed := by
    intro closed
    rw [opened] at closed
    cases closed
  held := by
    intro row locked
    rw [apply_open outcome opened]
    cases taken : outcome.locks with
    | none => exact locked
    | some wanted => exact lock_own locked
  foreign := by
    intro row other differs
    rw [apply_open outcome opened]
    cases taken : outcome.locks with
    | none => exact Iff.rfl
    | some wanted => exact lock_foreign (free wanted taken) row differs
  supplies := by
    intro supply
    rw [apply_open outcome opened]
    cases outcome.draws with
    | none => exact Nat.le_refl _
    | some drawn => exact le_next_draw world.next drawn supply

/-- An identifier the supply has not handed out is unused after the outcome: the row it
locks was found or was given the identifier it drew. -/
theorem fresh_apply (sound : world.Sound) (opened : world.sessions who = some session)
    (disciplined : outcome.Disciplined (world.view who) (world.session who)
      fun row => world.rowLocks row = some who)
    (allowed : ∀ row, outcome.locks = some row →
      ¬ world.Blocked who row ∧ ¬ world.Stale who row) {id : TransactionId}
    (beyond : (world.apply who outcome).next .transaction ≤ id) :
    (world.apply who outcome).db.transactions.get? id = none ∧
      (world.apply who outcome).db.entriesOf id = [] ∧
      (world.apply who outcome).db.historyOf id = [] ∧
      (world.apply who outcome).rowLocks (.transaction id) = none := by
  have inside := inside_apply opened fun row locks => (allowed row locks).1
  have earlier : world.next .transaction ≤ id := (inside.supplies .transaction).trans beyond
  obtain ⟨absent, entries, history, free⟩ := sound.fresh id earlier
  rw [inside.db]
  refine ⟨absent, entries, history, ?_⟩
  rw [apply_open outcome opened] at beyond ⊢
  cases taken : outcome.locks with
  | none => exact free
  | some wanted =>
      change Function.update world.rowLocks wanted (some who) (.transaction id) = none
      by_cases same : wanted = .transaction id
      · subst wanted
        rcases disciplined.known id taken with ⟨row, seen⟩ | ⟨drawn, supply⟩
        · have known := sound.known opened (allowed _ taken).2 seen
          exact (Nat.not_lt.mpr earlier known).elim
        · simp only [supply, Function.update_self, drawn] at beyond
          exact (Nat.not_succ_le_self _ beyond).elim
      · rw [Function.update_of_ne (Ne.symm same)]
        exact free

/-- Carrying out a disciplined outcome inside a transaction. -/
theorem apply_inside (sound : world.Sound) (opened : world.sessions who = some session)
    (disciplined : outcome.Disciplined (world.view who) (world.session who)
      fun row => world.rowLocks row = some who)
    (allowed : ∀ row, outcome.locks = some row →
      ¬ world.Blocked who row ∧ ¬ world.Stale who row)
    (numbered : (world.apply who outcome).Numbered) :
    world.Inside who (world.apply who outcome) ∧ (world.apply who outcome).Sound := by
  have inside := inside_apply opened fun row locks => (allowed row locks).1
  have own : (world.apply who outcome).sessions who =
      some { session with log := session.log ++ outcome.writes.toList } := apply_own opened
  refine ⟨inside, ⟨?_, ?_, ?_, fun id => fresh_apply sound opened disciplined allowed, numbered⟩⟩
  · intro process found current version member row guard
    by_cases same : process = who
    · subst process
      rw [own] at current
      cases current
      rcases List.mem_append.mp member with old | new
      · exact inside.held row (sound.covered who session opened version old row guard)
      · rcases disciplined.guarded version (Option.mem_toList.mp new) row guard with taken | locked
        · rw [apply_open outcome opened, taken]
          exact Function.update_self _ _ _
        · exact inside.held row locked
    · rw [inside.others process same] at current
      exact (inside.foreign row process same).mpr
        (sound.covered process found current version member row guard)
  · intro process found current version member row account
    by_cases same : process = who
    · subst process
      rw [own] at current
      cases current
      rcases List.mem_append.mp member with old | new
      · exact sound.solvent who session opened version old row account
      · rw [account] at new
        exact disciplined.solvent row (Option.mem_toList.mp new)
    · rw [inside.others process same] at current
      exact sound.solvent process found current version member row account
  · intro row process locked
    by_cases same : process = who
    · subst process
      rw [own]
      exact Option.some_ne_none _
    · rw [inside.others process same]
      exact sound.owned row process ((inside.foreign row process same).mp locked)

end Apply

/-- A statement inside a transaction. -/
theorem execute_inside {session : OpenTransaction} (sound : world.Sound)
    (opened : world.sessions who = some session) {statement : Statement}
    (needed : ∀ row, statement.needs = some row → world.rowLocks row = some who)
    (numbers : statement.Numbers world.next) :
    world.Inside who (world.execute who statement).2 ∧ (world.execute who statement).2.Sound := by
  rcases execute_cases world who statement with ⟨error, failed⟩ | ⟨outcome, done, allowed, ran⟩
  · rw [failed]
    exact ⟨.refl who world, sound⟩
  · rw [ran]
    exact apply_inside sound opened (Statement.eval_disciplined done needed) allowed
      (sound.numbered.apply_eval numbers done)

/-! ## Calls that leave the database alone -/

/-- Nothing the locking discipline speaks about changes. -/
structure Aside (first second : World) : Prop where
  db : second.db = first.db
  sessions : second.sessions = first.sessions
  rowLocks : second.rowLocks = first.rowLocks
  supplies : ∀ supply, first.next supply ≤ second.next supply

/-- Nothing happened. -/
theorem Aside.refl (world : World) : world.Aside world := ⟨rfl, rfl, rfl, fun _ => Nat.le_refl _⟩

/-- What is aside of the database is a step inside any transaction. -/
theorem Aside.inside {first second : World} (aside : first.Aside second) (who : ProcessId) :
    first.Inside who second where
  db := aside.db
  others := fun other _ => congrFun aside.sessions other
  own := fun session opened =>
    ⟨[], by rw [aside.sessions, opened, List.append_nil]⟩
  closed := fun closed => by rw [aside.sessions, closed]
  held := fun row held => by rw [aside.rowLocks, held]
  foreign := fun row other _ => by rw [aside.rowLocks]
  supplies := aside.supplies

/-- It keeps a world sound. -/
theorem Aside.sound {first second : World} (aside : first.Aside second) (sound : first.Sound) :
    second.Sound where
  covered := by rw [aside.sessions, aside.rowLocks]; exact sound.covered
  solvent := by rw [aside.sessions]; exact sound.solvent
  owned := by rw [aside.sessions, aside.rowLocks]; exact sound.owned
  fresh := by
    rw [aside.db, aside.rowLocks]
    exact fun id beyond => sound.fresh id ((aside.supplies .transaction).trans beyond)
  numbered := sound.numbered.mono aside.db aside.sessions aside.supplies

/-- It is not noticed by a process. -/
theorem Aside.frame {first second : World} (aside : first.Aside second) (who : ProcessId) :
    first.Frame who second where
  session := congrFun aside.sessions who
  locks := fun row held => by rw [aside.rowLocks, held]
  rows := fun row _ => by rw [aside.db]; exact Database.AgreeAt.refl _ row
  persists := by rw [aside.db]; exact .refl _
  supplies := aside.supplies

end World

/-- Calls that neither change the database nor begin or end a transaction. -/
def Operation.Neutral : Operation → Prop
  | .begin _ => False
  | .commit => False
  | .rollback => False
  | .sql (.select _) => True
  | .sql _ => False
  | _ => True

namespace World

variable {world : World} {who : ProcessId}

/-- Drawing from a supply is aside of the database. -/
theorem aside_of_draw (supply : Supply) : world.Aside (world.draw supply) :=
  ⟨rfl, rfl, rfl, le_next_draw world.next supply⟩

/-- So is every neutral call. -/
theorem perform_neutral {op : Operation} (neutral : op.Neutral) :
    world.Aside (world.perform who op).2 := by
  cases op with
  | begin _ => exact neutral.elim
  | commit => exact neutral.elim
  | rollback => exact neutral.elim
  | sql statement =>
      cases statement with
      | select query => exact .refl world
      | _ => exact neutral.elim
  | acquireLock key ttlMs =>
      change world.Aside (world.acquireLock key ttlMs).2
      unfold acquireLock
      cases world.redisLocks key with
      | none => exact ⟨rfl, rfl, rfl, le_next_draw world.next .token⟩
      | some _ => exact aside_of_draw .token
  | releaseLock key token =>
      change world.Aside (world.releaseLock key token)
      unfold releaseLock
      split
      · exact ⟨rfl, rfl, rfl, fun _ => Nat.le_refl _⟩
      · exact .refl world
  | cacheGet _ => exact .refl world
  | cacheSet _ _ _ => exact ⟨rfl, rfl, rfl, fun _ => Nat.le_refl _⟩
  | cacheDelete _ => exact ⟨rfl, rfl, rfl, fun _ => Nat.le_refl _⟩
  | cacheDeleteLists => exact ⟨rfl, rfl, rfl, fun _ => Nat.le_refl _⟩
  | queueAdd data attempts jobId =>
      change world.Aside (world.queueAdd data attempts jobId)
      unfold queueAdd
      dsimp only
      split
      · exact .refl world
      · exact ⟨rfl, rfl, rfl, le_next_draw world.next .job⟩
  | queueGet _ => exact .refl world
  | queueRemove _ => exact ⟨rfl, rfl, rfl, fun _ => Nat.le_refl _⟩
  | scheduleCallback _ _ => exact ⟨rfl, rfl, rfl, le_next_draw world.next .reference⟩
  | emit _ => exact ⟨rfl, rfl, rfl, fun _ => Nat.le_refl _⟩
  | now => exact .refl world
  | sleep _ => exact .refl world
  | observe _ => exact ⟨rfl, rfl, rfl, fun _ => Nat.le_refl _⟩

/-- A call that is delivered is carried out. -/
theorem exec_delivered (who : ProcessId) (op : Operation) (world : World) :
    exec who .delivered op world = perform world who op := by
  unfold exec
  split <;> rfl

/-- A call is carried out or has no effect, and a call that returns was carried out. -/
theorem exec_cases (who : ProcessId) (delivery : Delivery) (op : Operation) (world : World) :
    exec who delivery op world = perform world who op ∨
      (exec who delivery op world).1 = .error .unavailable ∧
        ((exec who delivery op world).2 = world ∨
          (exec who delivery op world).2 = (perform world who op).2) := by
  unfold exec
  by_cases remote : op.isRemote = true
  · rw [if_pos remote]
    cases delivery with
    | delivered => exact .inl rfl
    | lost => exact .inr ⟨rfl, .inl rfl⟩
    | unacknowledged => exact .inr ⟨rfl, .inr rfl⟩
  · rw [if_neg remote]
    exact .inl rfl

/-- A call is carried out or changes nothing. -/
theorem exec_state (who : ProcessId) (delivery : Delivery) (op : Operation) (world : World) :
    (exec who delivery op world).2 = world ∨
      (exec who delivery op world).2 = (perform world who op).2 := by
  rcases exec_cases who delivery op world with ran | ⟨_, unchanged | ran⟩
  · exact .inr (congrArg Prod.snd ran)
  · exact .inl unchanged
  · exact .inr ran

/-- A call that returns was carried out. -/
theorem exec_of_ok {who : ProcessId} {delivery : Delivery} {op : Operation} {world : World}
    {reply : op.Reply} (returned : (exec who delivery op world).1 = .ok reply) :
    exec who delivery op world = perform world who op := by
  rcases exec_cases who delivery op world with ran | ⟨failed, _⟩
  · exact ran
  · rw [failed] at returned
    cases returned

/-- A neutral call stays aside of the database, also when it is lost. -/
theorem exec_neutral {delivery : Delivery} {op : Operation} (neutral : op.Neutral) :
    world.Aside (exec who delivery op world).2 := by
  rcases exec_state who delivery op world with same | ran
  · rw [same]
    exact .refl world
  · rw [ran]
    exact perform_neutral neutral

/-! ## Beginning and ending transactions -/

/-- A transaction begins in a sound world. -/
theorem begin_sound {isolation : Isolation} (sound : world.Sound) :
    (world.begin who isolation).Sound where
  covered := by
    intro process session current version member row guard
    change Function.update world.sessions who _ process = some session at current
    by_cases same : process = who
    · subst process
      rw [Function.update_self] at current
      cases current
      cases member
    · rw [Function.update_of_ne same] at current
      exact sound.covered process session current version member row guard
  solvent := by
    intro process session current version member row account
    change Function.update world.sessions who _ process = some session at current
    by_cases same : process = who
    · subst process
      rw [Function.update_self] at current
      cases current
      cases member
    · rw [Function.update_of_ne same] at current
      exact sound.solvent process session current version member row account
  owned := by
    intro row process held
    change Function.update world.sessions who _ process ≠ none
    by_cases same : process = who
    · subst process
      rw [Function.update_self]
      exact Option.some_ne_none _
    · rw [Function.update_of_ne same]
      exact sound.owned row process held
  fresh := sound.fresh
  numbered := sound.numbered.begin isolation

/-- The others do not notice it. -/
theorem begin_frame {isolation : Isolation} {other : ProcessId} (differs : other ≠ who) :
    world.Frame other (world.begin who isolation) where
  session := Function.update_of_ne differs _ _
  locks := fun _ held => held
  rows := fun row _ => Database.AgreeAt.refl _ row
  persists := .refl _
  supplies := fun _ => Nat.le_refl _

/-- Whether a row is still locked after a release. -/
theorem release_rowLocks (row : RowId) (other : ProcessId) :
    (world.release who).rowLocks row = some other ↔
      world.rowLocks row = some other ∧ other ≠ who := by
  change (if world.rowLocks row = some who then none else world.rowLocks row) = some other ↔ _
  by_cases held : world.rowLocks row = some who
  · rw [if_pos held, held]
    constructor
    · intro absurd
      cases absurd
    · rintro ⟨same, differs⟩
      exact (differs (Option.some.inj same).symm).elim
  · rw [if_neg held]
    constructor
    · intro same
      refine ⟨same, fun equal => held ?_⟩
      rw [same, equal]
    · exact And.left

/-- A process without a transaction holds nothing to release. -/
theorem release_of_closed (sound : world.Sound) (closed : world.sessions who = none) :
    world.release who = world := by
  have locks : (fun row => if world.rowLocks row = some who then none else world.rowLocks row) =
      world.rowLocks := by
    funext row
    exact if_neg fun held => sound.owned row who held closed
  unfold World.release
  rw [locks, ← closed, Function.update_eq_self]

/-- A transaction that ends frees its locks and leaves the world sound. -/
theorem release_sound (sound : world.Sound) : (world.release who).Sound where
  covered := by
    intro process session current version member row guard
    change Function.update world.sessions who none process = some session at current
    by_cases same : process = who
    · subst process
      rw [Function.update_self] at current
      cases current
    · rw [Function.update_of_ne same] at current
      exact (release_rowLocks row process).mpr
        ⟨sound.covered process session current version member row guard, same⟩
  solvent := by
    intro process session current version member row account
    change Function.update world.sessions who none process = some session at current
    by_cases same : process = who
    · subst process
      rw [Function.update_self] at current
      cases current
    · rw [Function.update_of_ne same] at current
      exact sound.solvent process session current version member row account
  owned := by
    intro row process held
    obtain ⟨locked, differs⟩ := (release_rowLocks row process).mp held
    change Function.update world.sessions who none process ≠ none
    rw [Function.update_of_ne differs]
    exact sound.owned row process locked
  fresh := by
    intro id beyond
    obtain ⟨absent, entries, history, free⟩ := sound.fresh id beyond
    refine ⟨absent, entries, history, ?_⟩
    change (if world.rowLocks (.transaction id) = some who then none
      else world.rowLocks (.transaction id)) = none
    rw [free]
    rfl
  numbered := sound.numbered.release

/-- The others do not notice it. -/
theorem release_frame {other : ProcessId} (differs : other ≠ who) :
    world.Frame other (world.release who) where
  session := Function.update_of_ne differs _ _
  locks := fun row held => (release_rowLocks row other).mpr ⟨held, differs⟩
  rows := fun row _ => Database.AgreeAt.refl _ row
  persists := .refl _
  supplies := fun _ => Nat.le_refl _

/-- The rows a process is about to change are locked by it. -/
theorem Sound.covered_log (sound : world.Sound) {version : Write}
    (member : version ∈ world.log who) {row : RowId} (guard : version.guard = some row) :
    world.rowLocks row = some who := by
  cases opened : world.sessions who with
  | none =>
      rw [log, opened] at member
      cases member
  | some session =>
      rw [log_open opened] at member
      exact sound.covered who session opened version member row guard

/-- The own writes touch only own rows. -/
theorem Sound.agreeAt_log (sound : world.Sound) {row : RowId} {other : ProcessId}
    (held : world.rowLocks row = some other) (differs : other ≠ who) :
    world.db.AgreeAt (world.db.replay (world.log who)) row := by
  apply Database.agreeAt_replay
  intro version member guard
  rw [sound.covered_log member guard] at held
  exact differs (Option.some.inj held).symm

/-- The other processes notice of a commit only what no lock of theirs protects. -/
theorem commit_frame (sound : world.Sound)
    (persists : world.db.Persists (world.db.replay (world.log who))) {other : ProcessId}
    (differs : other ≠ who) : world.Frame other (world.commit who) where
  session := Function.update_of_ne differs _ _
  locks := fun row held => (release_rowLocks row other).mpr ⟨held, differs⟩
  rows := fun _ held => sound.agreeAt_log held differs
  persists := persists
  supplies := fun _ => Nat.le_refl _

/-- So does one that commits. -/
theorem commit_sound (sound : world.Sound) : (world.commit who).Sound where
  covered := (release_sound sound).covered
  solvent := (release_sound sound).solvent
  owned := (release_sound sound).owned
  fresh := by
    intro id beyond
    obtain ⟨absent, entries, history, free⟩ := sound.fresh id beyond
    have unlocked := ((release_sound sound : (world.release who).Sound).fresh id beyond).2.2.2
    have unguarded : ∀ version ∈ world.log who, version.guard ≠ some (.transaction id) := by
      intro version member guard
      rw [sound.covered_log member guard] at free
      cases free
    obtain ⟨same, posted, recorded⟩ := world.db.agreeAt_replay unguarded
    exact ⟨same.trans absent, posted.trans entries, recorded.trans history, unlocked⟩
  numbered := sound.numbered.commit

end World
end Payroute
