import Payroute.Runs.Keys
import Payroute.Runs.References

/-! # Requests with one key

Any number of requests with one idempotency key run at the same time, each with a handler
of its own. Their calls interleave in every order with each other and with whatever else
the backend does, as long as that leaves the key alone; the calls of the interceptor are
answered. Every step is a move of the protocol of the key.
-/

namespace Payroute

open EffectSystem KeyedTable Program IdempotencyInterceptor

/-! ## What the handlers leave alone -/

/-- A row version in the table of the idempotency keys. -/
def Write.OnKeys : Write → Prop
  | .key _ | .purgeKeys _ => True
  | _ => False

section Tables

variable {db : Database} {version : Write}

theorem Database.write_keys (apart : ¬ version.OnKeys) :
    (db.write version).idempotencyKeys = db.idempotencyKeys := by
  cases version with
  | key _ | purgeKeys _ => exact (apart trivial).elim
  | _ => rfl

theorem Database.replay_keys {log : List Write} (apart : ∀ version ∈ log, ¬ version.OnKeys) :
    (db.replay log).idempotencyKeys = db.idempotencyKeys := by
  induction log generalizing db with
  | nil => rfl
  | cons version rest ih =>
      have first : (db.write version).idempotencyKeys = db.idempotencyKeys :=
        write_keys (apart version List.mem_cons_self)
      exact (ih fun later member => apart later (List.mem_cons_of_mem _ member)).trans first

/-- Ordinary statements write no idempotency keys. -/
theorem Statement.keyless_of_eval {statement : Statement} {session : Session}
    {outcome : Outcome statement.Reply} (ordinary : Operation.OrdinaryStatement statement)
    (done : statement.eval db session = .ok outcome) :
    ∀ version, outcome.writes = some version → ¬ version.OnKeys := by
  intro version written onKeys
  have writes := written_of_eval done written
  generalize outcome.locks = locks, outcome.draws = draws at writes
  cases writes with
  | key _ _ _ | answer _ _ _ _ | purgeKeys _ => exact ordinary.elim
  | _ => exact onKeys.elim

end Tables

/-- What the requests with the key share in a world. -/
def World.shared (key : String) (world : World) : Shared where
  lock := (world.redisLocks (.idempotency key)).map RedisLock.token
  cached := cachedResponse (world.cache (.idempotency key))
  row := (world.db.idempotencyKeys.get? key).map recorded
  journal := world.journal

section Exec

variable {world : World} {who : ProcessId} {key : String}

/-- The process is not about to change idempotency keys. -/
def World.Keyless (who : ProcessId) (world : World) : Prop :=
  ∀ version ∈ world.log who, ¬ version.OnKeys

theorem World.keyless_of_closed (closed : world.sessions who = none) : world.Keyless who := by
  unfold Keyless log
  rw [closed]
  exact fun _ member => (List.not_mem_nil member).elim

/-- What a handler's call does: it leaves alone what the requests share, and its own
transaction touches no keys. -/
structure World.KeepsKey (key : String) (who : ProcessId) (first last : World) : Prop where
  shared : last.shared key = first.shared key
  keyless : last.Keyless who

namespace World

theorem KeepsKey.refl (keyless : world.Keyless who) : world.KeepsKey key who world :=
  ⟨rfl, keyless⟩

theorem apply_keepsKey (keyless : world.Keyless who) {ρ : Type} {outcome : Outcome ρ}
    (apart : ∀ version, outcome.writes = some version → ¬ version.OnKeys) :
    world.KeepsKey key who (world.apply who outcome) := by
  cases opened : world.sessions who with
  | none =>
      rw [apply_closed outcome opened]
      refine ⟨?_, keyless_of_closed opened⟩
      unfold shared
      cases written : outcome.writes with
      | none => rfl
      | some version => simp only [Database.write_keys (apart version written)]
  | some session =>
      rw [apply_open outcome opened]
      cases written : outcome.writes with
      | none => exact ⟨rfl, keyless⟩
      | some version =>
          refine ⟨rfl, fun later member => ?_⟩
          unfold log at member
          simp only [Function.update_self] at member
          rcases List.mem_append.mp member with old | new
          · refine keyless later ?_
            rw [log_open opened]
            exact old
          · rw [List.mem_singleton.mp new]
            exact apart version written

/-- A call that changes neither tables nor transactions and keeps off the key. -/
theorem keepsKey_of_neutral {op : Operation} (neutral : op.Neutral) (keyless : world.Keyless who)
    (lock : (world.perform who op).2.redisLocks (.idempotency key) =
      world.redisLocks (.idempotency key))
    (cache : (world.perform who op).2.cache (.idempotency key) = world.cache (.idempotency key))
    (journal : (world.perform who op).2.journal = world.journal) :
    world.KeepsKey key who (world.perform who op).2 := by
  have aside : world.Aside (world.perform who op).2 := perform_neutral neutral
  refine ⟨?_, ?_⟩
  · unfold shared
    rw [aside.db, lock, cache, journal]
  · unfold Keyless log
    rw [aside.sessions]
    exact keyless

theorem perform_keepsKey (keyless : world.Keyless who) {op : Operation} (ordinary : op.Ordinary) :
    world.KeepsKey key who (world.perform who op).2 := by
  cases op with
  | begin isolation =>
      refine ⟨rfl, ?_⟩
      unfold Keyless log
      simp only [perform, begin, Function.update_self]
      exact fun _ member => (List.not_mem_nil member).elim
  | commit =>
      refine ⟨?_, keyless_of_closed (Function.update_self ..)⟩
      have same : (world.db.replay (world.log who)).idempotencyKeys = world.db.idempotencyKeys :=
        Database.replay_keys keyless
      unfold shared
      simp only [perform, commit, same]
      rfl
  | rollback => exact ⟨rfl, keyless_of_closed (Function.update_self ..)⟩
  | sql statement =>
      change world.KeepsKey key who (world.execute who statement).2
      rcases execute_cases world who statement with ⟨error, refused⟩ | ⟨outcome, done, _, ran⟩
      · rw [refused]
        exact .refl keyless
      · rw [ran]
        exact apply_keepsKey keyless (Statement.keyless_of_eval ordinary done)
  | acquireLock wanted ttlMs =>
      have differs : .idempotency key ≠ wanted := by
        intro same
        subst same
        exact ordinary
      refine keepsKey_of_neutral trivial keyless ?_ ?_ ?_
      all_goals
        simp only [perform, acquireLock]
        cases world.redisLocks wanted with
        | none => first | rfl | exact Function.update_of_ne differs ..
        | some _ => rfl
  | releaseLock wanted token =>
      have differs : .idempotency key ≠ wanted := by
        intro same
        subst same
        exact ordinary
      refine keepsKey_of_neutral trivial keyless ?_ ?_ ?_
      all_goals
        simp only [perform, releaseLock]
        split
        · first | rfl | exact Function.update_of_ne differs ..
        · rfl
  | cacheSet wanted value ttlMs =>
      refine keepsKey_of_neutral trivial keyless rfl (Function.update_of_ne ?_ ..) rfl
      intro same
      subst same
      exact ordinary
  | cacheDelete wanted =>
      refine keepsKey_of_neutral trivial keyless rfl (Function.update_of_ne ?_ ..) rfl
      intro same
      rw [← same] at ordinary
      cases ordinary
  | queueAdd data attempts jobId =>
      refine keepsKey_of_neutral trivial keyless ?_ ?_ ?_
      all_goals
        simp only [perform, queueAdd]
        split
        · rfl
        · rfl
  | scheduleCallback _ _ | observe _ => exact ordinary.elim
  | cacheGet _ | cacheDeleteLists | queueGet _ | queueRemove _ | emit _ | now | sleep _ =>
      exact keepsKey_of_neutral trivial keyless rfl rfl rfl

theorem exec_keepsKey (keyless : world.Keyless who) (delivery : Delivery) {op : Operation}
    (ordinary : op.Ordinary) : world.KeepsKey key who (exec who delivery op world).2 := by
  rcases exec_state who delivery op world with same | ran
  · rw [same]
    exact .refl keyless
  · rw [ran]
    exact perform_keepsKey keyless ordinary

/-- Whether a transaction is open is known after each call. -/
theorem exec_closed {opened : Bool} (closed : opened = false → world.sessions who = none)
    (delivery : Delivery) {op : Operation}
    (ends : op.leavesOpen opened (exec who delivery op world).1 = false) :
    (exec who delivery op world).2.sessions who = none := by
  have aside : ∀ op : Operation, op.Neutral → opened = false →
      (exec who delivery op world).2.sessions who = none := by
    intro op neutral unopened
    rw [(exec_neutral neutral).sessions]
    exact closed unopened
  cases op with
  | begin isolation => cases ends
  | commit =>
      rcases exec_cases who delivery .commit world with ran | ⟨failed, same | ran⟩
      · rw [ran]
        exact Function.update_self ..
      · rw [failed] at ends
        rw [same]
        exact closed ends
      · rw [ran]
        exact Function.update_self ..
  | rollback => exact Function.update_self ..
  | sql statement =>
      have unopened := closed ends
      rcases exec_state who delivery (.sql statement) world with same | ran
      · rw [same]
        exact unopened
      · rw [ran]
        exact execute_closed unopened statement
  | acquireLock _ _ | releaseLock _ _ | cacheGet _ | cacheSet _ _ _ | cacheDelete _
  | cacheDeleteLists | queueAdd _ _ _ | queueGet _ | queueRemove _ | scheduleCallback _ _ | emit _
  | now | sleep _ | observe _ => exact aside _ trivial ends

/-! ### The calls of the interceptor -/

theorem shared_acquireLock (ttlMs : Nat) :
    (∃ token, (world.acquireLock (.idempotency key) ttlMs).1 = some token ∧
        (world.shared key).lock = none ∧
        (world.acquireLock (.idempotency key) ttlMs).2.shared key =
          { world.shared key with lock := some token }) ∨
      (world.acquireLock (.idempotency key) ttlMs).1 = none ∧
        (world.acquireLock (.idempotency key) ttlMs).2.shared key = world.shared key := by
  unfold acquireLock
  cases taken : world.redisLocks (.idempotency key) with
  | some lock => exact .inr ⟨rfl, rfl⟩
  | none =>
      refine .inl ⟨world.next .token, rfl, ?_, ?_⟩
      · unfold shared
        rw [taken]
        rfl
      · unfold shared
        simp only [Function.update_self, Option.map_some]
        rfl

theorem shared_releaseLock (token : LockToken) :
    (world.releaseLock (.idempotency key) token).shared key = (world.shared key).release token := by
  unfold releaseLock Shared.release
  by_cases holds : (world.redisLocks (.idempotency key)).map RedisLock.token = some token
  · rw [if_pos holds, if_pos (show (world.shared key).lock = some token from holds)]
    unfold shared
    simp only [Function.update_self, Option.map_none]
  · rw [if_neg holds, if_neg (show ¬ (world.shared key).lock = some token from holds)]

theorem shared_cacheSet (response : Response) (ttlMs : Nat) :
    ((world.perform who (.cacheSet (.idempotency key)
      (.response response.body response.statusCode) ttlMs)).2).shared key =
        { world.shared key with cached := some response } := by
  unfold shared
  simp only [perform, Function.update_self, cachedResponse]

theorem shared_insertKey (closed : world.sessions who = none) (expiresAt : Nat) :
    (world.execute who (.insertKey key expiresAt)).1 = .ok () ∧
      (world.execute who (.insertKey key expiresAt)).2.shared key =
        { world.shared key with row := some (world.shared key).row.join } := by
  have done : (Statement.insertKey key expiresAt).eval (world.view who) (world.session who) =
      .ok (world.db.insertKey key expiresAt) := by
    rw [view_closed closed]
    rfl
  unfold execute
  rw [done]
  unfold Database.insertKey
  cases found : world.db.idempotencyKeys.get? key with
  | some row =>
      simp only [apply_closed _ closed]
      refine ⟨trivial, ?_⟩
      unfold shared
      rw [found]
      rfl
  | none =>
      simp only [apply_closed _ closed]
      refine ⟨trivial, ?_⟩
      have inserted : ∀ row : IdempotencyKey, row.key = key →
          (world.db.write (.key row)).idempotencyKeys.get? key = some row := by
        intro row named
        exact (Table.get?_put ..).trans (if_pos named.symm)
      unfold shared
      simp only [found, inserted]
      rfl

theorem shared_updateKey (closed : world.sessions who = none) (body : Transaction) :
    (world.execute who (.updateKey key body created)).1 = .ok () ∧
      (world.execute who (.updateKey key body created)).2.shared key =
        { world.shared key with
          row := (world.shared key).row.map fun _ => some ⟨body, created⟩ } := by
  have done : (Statement.updateKey key body created).eval (world.view who) (world.session who) =
      .ok (world.db.updateKey key body created) := by
    rw [view_closed closed]
    rfl
  unfold execute
  rw [done]
  unfold Database.updateKey
  cases found : world.db.idempotencyKeys.get? key with
  | none =>
      simp only [apply_closed _ closed]
      refine ⟨trivial, ?_⟩
      unfold shared
      rw [found]
      rfl
  | some row =>
      simp only [apply_closed _ closed]
      refine ⟨trivial, ?_⟩
      have updated : ∀ later : IdempotencyKey, later.key = row.key →
          (world.db.write (.key later)).idempotencyKeys.get? key = some later := by
        intro later named
        have same : row.key = key := Table.key_of_get? found
        exact (Table.get?_put ..).trans (if_pos (named.trans same).symm)
      unfold shared
      simp only [found, updated]
      rfl

/-- A call the protocol allows is a move of the protocol: the reply is one the protocol
foresees, and what is shared changes accordingly. -/
theorem perform_advances {phase : Phase} {op : Operation} (allowed : (Moves key).Allows phase op)
    (interceptor : ∀ token opened, phase = .handling token opened → ¬ op.Ordinary)
    (closed : world.sessions who = none) :
    ∃ later, Moves key phase op (world.perform who op).1 later ∧
      Advance who (world.shared key) phase ((world.perform who op).2.shared key) later := by
  obtain ⟨reply, later, moved⟩ := allowed
  cases moved with
  | readHit | readMiss =>
      cases cached : cachedResponse (world.cache (.idempotency key)) with
      | some response => exact ⟨_, .readHit cached, .readHit cached⟩
      | none => exact ⟨_, .readMiss cached, .readMiss cached⟩
  | lock | wait =>
      have acquired : ∀ outcome, (world.acquireLock (.idempotency key) lockTtlMs).1 = outcome →
          (world.perform who (.acquireLock (.idempotency key) lockTtlMs)).1 = .ok outcome :=
        fun _ same => congrArg Except.ok same
      rcases shared_acquireLock lockTtlMs with ⟨token, took, free, same⟩ | ⟨refused, same⟩
      · rw [acquired _ took]
        exact ⟨_, .lock token, same.symm ▸ .lock token free⟩
      · rw [acquired _ refused]
        exact ⟨_, .wait, same.symm ▸ .wait⟩
  | sleep => exact ⟨_, .sleep, .pollMiss⟩
  | pollHit | pollMiss =>
      cases cached : cachedResponse (world.cache (.idempotency key)) with
      | some response => exact ⟨_, .pollHit cached, .pollHit cached⟩
      | none => exact ⟨_, .pollMiss cached, .pollMiss⟩
  | giveUp => exact ⟨_, .giveUp, .giveUp⟩
  | find | miss =>
      have row : (world.shared key).row.join =
        (world.db.idempotencyKeys.get? key).bind recorded := by
        unfold shared
        cases world.db.idempotencyKeys.get? key <;> rfl
      have selected : (world.perform who (.sql (.select (.idempotencyKey key)))).1 =
          .ok (world.db.idempotencyKeys.get? key) := by
        rw [← view_closed closed]
        rfl
      rw [selected]
      cases found : (world.db.idempotencyKeys.get? key).bind recorded with
      | some response => exact ⟨_, .find found, .find (row.trans found)⟩
      | none => exact ⟨_, .miss found, .miss (row.trans found)⟩
  | restore => exact ⟨_, .restore, (shared_cacheSet ..).symm ▸ .restore⟩
  | free => exact ⟨_, .free, (shared_releaseLock _).symm ▸ .free⟩
  | clock => exact ⟨_, .clock _, .clock⟩
  | insert expiresAt =>
      rename_i token
      obtain ⟨reply, same⟩ : _ ∧ (world.execute who (.insertKey key expiresAt)).2.shared key = _ :=
        shared_insertKey closed expiresAt
      refine ⟨.starting token, ?_, ?_⟩
      · change Moves key _ (.sql (.insertKey key expiresAt))
          (world.execute who (.insertKey key expiresAt)).1 _
        rw [reply]
        exact .insert expiresAt
      · change Advance who _ _ ((world.execute who (.insertKey key expiresAt)).2.shared key) _
        rw [same]
        exact .insert
  | start => exact ⟨_, .start, .start⟩
  | work ordinary => exact (interceptor _ _ rfl ordinary).elim
  | succeed body => exact ⟨_, .succeed body, .succeed body⟩
  | throw error => exact ⟨_, .throw error, .throw error⟩
  | release => exact ⟨_, .release, (shared_releaseLock _).symm ▸ .release⟩
  | respond => exact ⟨_, .respond, .respond⟩
  | cache => exact ⟨_, .cache, (shared_cacheSet ⟨_, created⟩ _).symm ▸ .cache⟩
  | store =>
      rename_i token body cached
      obtain ⟨reply, same⟩ :
          _ ∧ (world.execute who (.updateKey key body created)).2.shared key = _ :=
        shared_updateKey closed body
      refine ⟨.persisting token body cached true, ?_, ?_⟩
      · change Moves key _ (.sql (.updateKey key body created))
          (world.execute who (.updateKey key body created)).1 _
        rw [reply]
        exact .store
      · change Advance who _ _ ((world.execute who (.updateKey key body created)).2.shared key) _
        rw [same]
        exact .store
  | conclude => exact ⟨_, .conclude, (shared_releaseLock _).symm ▸ .conclude⟩
  | answer => exact ⟨_, .answer, .answer⟩
  | refuse => exact ⟨_, .refuse, .refuse⟩

/-- The calls of the interceptor reach their destination, outside of transactions. -/
theorem interceptor_call {phase : Phase} {op : Operation} (allowed : (Moves key).Allows phase op)
    (interceptor : ∀ token opened, phase = .handling token opened → ¬ op.Ordinary)
    {delivery : Delivery} (answered : ¬ op.Ordinary → delivery = .delivered) :
    exec who delivery op world = perform world who op ∧ phase.opened = false ∧
      ∀ reply, op.leavesOpen false reply = false := by
  have reached : ¬ op.Ordinary → exec who delivery op world = perform world who op := by
    intro own
    rw [answered own]
    exact exec_delivered _ op _
  obtain ⟨reply, later, moved⟩ := allowed
  cases moved with
  | sleep | clock => exact ⟨rfl, rfl, fun _ => rfl⟩
  | work ordinary => exact (interceptor _ _ rfl ordinary).elim
  | _ => exact ⟨reached fun ordinary => ordinary.elim, rfl, fun _ => rfl⟩

/-- One call of a request is one move of the protocol of the key. -/
theorem exec_advances {phase : Phase} {op : Operation} (allowed : (Moves key).Allows phase op)
    (closed : phase.opened = false → world.sessions who = none) (keyless : world.Keyless who)
    {delivery : Delivery} (answered : ¬ op.Ordinary → delivery = .delivered) :
    ∃ later, Moves key phase op (exec who delivery op world).1 later ∧
      Advance who (world.shared key) phase ((exec who delivery op world).2.shared key) later ∧
      (later.opened = false → (exec who delivery op world).2.sessions who = none) ∧
      (exec who delivery op world).2.Keyless who := by
  by_cases working : ∃ token opened, phase = .handling token opened ∧ op.Ordinary
  · obtain ⟨token, opened, rfl, ordinary⟩ := working
    have kept : world.KeepsKey key who (exec who delivery op world).2 :=
      exec_keepsKey keyless delivery ordinary
    refine ⟨_, .work ordinary _, ?_, exec_closed closed delivery, kept.keyless⟩
    rw [kept.shared]
    exact .work _ _
  · have interceptor : ∀ token opened, phase = .handling token opened → ¬ op.Ordinary :=
      fun token opened current ordinary => working ⟨token, opened, current, ordinary⟩
    obtain ⟨ran, unopened, begins⟩ :
        exec who delivery op world = perform world who op ∧ _ :=
      interceptor_call allowed interceptor answered
    have ended : (exec who delivery op world).2.sessions who = none :=
      exec_closed (fun _ => closed unopened) delivery (begins _)
    obtain ⟨later, moved, advance⟩ := perform_advances allowed interceptor (closed unopened)
    rw [ran] at ended ⊢
    exact ⟨later, moved, advance, fun _ => ended, keyless_of_closed ended⟩

end World

end Exec

/-! ## Runs -/

/-- The world, the programs of the requests that run in it, and the requests that have
arrived so far. -/
structure Traffic where
  world : World
  running : ProcessId → Option (Service Unit)
  arrived : List ProcessId

/-- A change that leaves the key and the transactions of the requests alone. -/
structure Traffic.Elsewhere (key : String) (traffic : Traffic) (next : World) : Prop where
  shared : next.shared key = traffic.world.shared key
  sessions : ∀ who ∈ traffic.arrived, next.sessions who = traffic.world.sessions who

/-- One step of the requests with the key, or of anything else. -/
inductive Traffic.Step (key : String) : Traffic → Traffic → Prop
  | arrive {traffic : Traffic} (who : ProcessId) (cacheFirst : Bool) (handler : Handler)
      (fresh : who ∉ traffic.arrived) (closed : traffic.world.sessions who = none) :
      Step key traffic ⟨traffic.world,
        Function.update traffic.running who (some (request cacheFirst key handler.body)),
        who :: traffic.arrived⟩
  | call {traffic : Traffic} (who : ProcessId) (delivery : Delivery) (op : Operation)
      (next : Except Failure op.Reply → Service Unit)
      (current : traffic.running who = some (.call op next))
      (ready : backend.ready who delivery op traffic.world)
      (answered : ¬ op.Ordinary → delivery = .delivered) :
      Step key traffic ⟨(backend.exec who delivery op traffic.world).2,
        Function.update traffic.running who
          (some (next (backend.exec who delivery op traffic.world).1)), traffic.arrived⟩
  | finish {traffic : Traffic} (who : ProcessId)
      (ended : traffic.running who = some (.ret ()) ∨
        ∃ error, traffic.running who = some (.fail error)) :
      Step key traffic ⟨traffic.world, Function.update traffic.running who none, traffic.arrived⟩
  | elsewhere {traffic : Traffic} (next : World) (apart : traffic.Elsewhere key next) :
      Step key traffic ⟨next, traffic.running, traffic.arrived⟩

/-- Any number of steps. -/
abbrev Traffic.Steps (key : String) : Traffic → Traffic → Prop :=
  Relation.ReflTransGen (Traffic.Step key)

/-- A world in which no request has arrived. -/
def Traffic.quiet (world : World) : Traffic := ⟨world, fun _ => none, []⟩


/-! ## Refinement -/

/-- The phase a process is in, given the program it runs and whether its request has
arrived. -/
structure World.Stands (key : String) (world : World) (who : ProcessId)
    (running : Option (Service Unit)) (arrived : Prop) (phase : Phase) : Prop where
  program : ∀ program, running = some program →
    Follows (Moves key) (fun outcome last => outcome = .ok () ∧ last = .ended) program phase
  absent : phase = .absent ↔ ¬ arrived
  idle : running = none → phase = .absent ∨ phase = .ended
  closed : arrived → phase.opened = false → world.sessions who = none
  keyless : arrived → world.Keyless who

/-- The requests of the protocol that a state of a run stands for. -/
structure Traffic.Matches (key : String) (traffic : Traffic) (requests : Requests) : Prop where
  shared : requests.shared = traffic.world.shared key
  stands : ∀ who, traffic.world.Stands key who (traffic.running who) (who ∈ traffic.arrived)
    (requests.phase who)

section Refinement

variable {key : String} {world next : World} {who : ProcessId} {running : Option (Service Unit)}
  {phase : Phase} {first second : Traffic} {requests : Requests}

/-- A process whose transaction is as it was is in the phase it was in. -/
theorem World.Stands.of_sessions {arrived later : Prop}
    (stands : world.Stands key who running arrived phase) (same : later ↔ arrived)
    (sessions : arrived → next.sessions who = world.sessions who) :
    next.Stands key who running later phase := by
  refine ⟨stands.program, stands.absent.trans (not_congr same).symm, stands.idle, ?_, ?_⟩
  · intro present unopened
    exact (sessions (same.mp present)).trans (stands.closed (same.mp present) unopened)
  · intro present
    unfold Keyless
    rw [log_of_sessions (sessions (same.mp present))]
    exact stands.keyless (same.mp present)

/-- A request that runs a program has arrived. -/
theorem World.Stands.arrived {arrived : Prop} {program : Service Unit}
    (stands : world.Stands key who (some program) arrived phase) : arrived := by
  by_contra missing
  have follows := stands.program program rfl
  rw [stands.absent.mpr missing] at follows
  cases program with
  | ret value => cases follows.2
  | fail error => cases follows.1
  | call op next =>
      obtain ⟨⟨_, _, moved⟩, _⟩ := follows
      cases moved

/-- One process moves on, and the others stand where they stood. -/
theorem Traffic.Matches.update (matched : first.Matches key requests) {arrived : List ProcessId}
    (own : next.Stands key who running (who ∈ arrived) phase)
    (others : ∀ other, other ≠ who → (other ∈ arrived ↔ other ∈ first.arrived))
    (sessions : ∀ other, other ≠ who → next.sessions other = first.world.sessions other) :
    Traffic.Matches key ⟨next, Function.update first.running who running, arrived⟩
      ⟨next.shared key, Function.update requests.phase who phase⟩ := by
  refine ⟨rfl, fun other => ?_⟩
  change next.Stands key other (Function.update first.running who running other) _
    (Function.update requests.phase who phase other)
  by_cases same : other = who
  · subst same
    rw [Function.update_self, Function.update_self]
    exact own
  · rw [Function.update_of_ne same, Function.update_of_ne same]
    exact (matched.stands other).of_sessions (others other same) fun _ => sessions other same

theorem Traffic.Matches.arrive (matched : first.Matches key requests) (cacheFirst : Bool)
    (handler : Handler) (closed : first.world.sessions who = none) :
    Traffic.Matches key ⟨first.world,
        Function.update first.running who (some (request cacheFirst key handler.body)),
        who :: first.arrived⟩
      ⟨first.world.shared key, Function.update requests.phase who .arrived⟩ := by
  refine matched.update ?_ ?_ fun _ _ => rfl
  · refine ⟨?_, ?_, ?_, fun _ _ => closed, fun _ => World.keyless_of_closed closed⟩
    · intro program same
      cases same
      exact follows_request cacheFirst handler
    · exact iff_of_false (fun absurd => by cases absurd) fun missing => missing List.mem_cons_self
    · intro absurd
      cases absurd
  · intro other differs
    exact List.mem_cons.trans (or_iff_right differs)

theorem Traffic.Matches.call (matched : first.Matches key requests)
    {delivery : Delivery} {op : Operation} {rest : Except Failure op.Reply → Service Unit}
    (current : first.running who = some (.call op rest))
    (answered : ¬ op.Ordinary → delivery = .delivered) :
    ∃ later, Requests.Steps requests later ∧
      Traffic.Matches key ⟨(backend.exec who delivery op first.world).2,
        Function.update first.running who
          (some (rest (backend.exec who delivery op first.world).1)), first.arrived⟩ later := by
  have stands := matched.stands who
  rw [current] at stands
  have arrived := stands.arrived
  obtain ⟨allowed, follows⟩ := stands.program _ rfl
  obtain ⟨later, moved, advance, closed, keyless⟩ :=
    World.exec_advances allowed (stands.closed arrived) (stands.keyless arrived) answered
  rw [← matched.shared] at advance
  refine ⟨_, .single (.advance who advance), matched.update ⟨?_, ?_, ?_, ?_, ?_⟩ ?_ ?_⟩
  · intro program same
    cases same
    exact follows _ later moved
  · exact iff_of_false advance.arrived fun missing => missing arrived
  · intro absurd
    cases absurd
  · exact fun _ => closed
  · exact fun _ => keyless
  · exact fun _ _ => Iff.rfl
  · exact fun other differs => World.exec_sessions differs delivery op

theorem Traffic.Matches.finish (matched : first.Matches key requests)
    (ended : first.running who = some (.ret ()) ∨
      ∃ error, first.running who = some (.fail error)) :
    Traffic.Matches key ⟨first.world, Function.update first.running who none, first.arrived⟩
      requests := by
  have stands := matched.stands who
  have final : requests.phase who = .ended := by
    rcases ended with returned | ⟨error, failed⟩
    · exact (stands.program _ returned).2
    · cases (stands.program _ failed).1
  refine ⟨matched.shared, fun other => ?_⟩
  change first.world.Stands key other (Function.update first.running who none other) _ _
  by_cases same : other = who
  · subst same
    rw [Function.update_self]
    refine ⟨?_, stands.absent, fun _ => .inr final, stands.closed, stands.keyless⟩
    intro _ absurd
    cases absurd
  · rw [Function.update_of_ne same]
    exact matched.stands other

/-- Every step of a run is a step of the protocol, or none. -/
theorem Traffic.Step.refines (step : Traffic.Step key first second)
    (matched : first.Matches key requests) :
    ∃ later, Requests.Steps requests later ∧ second.Matches key later := by
  cases step with
  | arrive who cacheFirst handler fresh closed =>
      have absent := (matched.stands who).absent.mpr fresh
      have arrived := matched.arrive cacheFirst handler closed
      rw [← matched.shared] at arrived
      exact ⟨_, .single (.arrive who absent), arrived⟩
  | call who delivery op next current ready answered => exact matched.call current answered
  | finish who ended => exact ⟨requests, .refl, matched.finish ended⟩
  | elsewhere next apart =>
      refine ⟨requests, .refl, matched.shared.trans apart.shared.symm, fun who => ?_⟩
      exact (matched.stands who).of_sessions Iff.rfl (apart.sessions who)

/-- Every run from a quiet start is a run of the protocol. -/
theorem Traffic.Steps.refines {last : Traffic} (run : Traffic.Steps key (.quiet world) last) :
    ∃ requests, Requests.Steps ⟨world.shared key, fun _ => .absent⟩ requests ∧
      last.Matches key requests := by
  induction run with
  | refl =>
      refine ⟨_, .refl, rfl, fun who => ?_⟩
      have missing : ¬ who ∈ ([] : List ProcessId) := List.not_mem_nil
      refine ⟨?_, iff_of_true rfl missing, fun _ => .inl rfl, fun present => (missing present).elim,
        fun present => (missing present).elim⟩
      intro _ absurd
      cases absurd
  | tail _ step ih =>
      obtain ⟨requests, steps, matched⟩ := ih
      obtain ⟨later, more, refined⟩ := step.refines matched
      exact ⟨later, steps.trans more, refined⟩

end Refinement
end Payroute
