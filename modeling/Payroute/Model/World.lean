import Payroute.Effects.Rely
import Payroute.Model.Statement

/-! # The world of the services

The shared state of the backend: the committed database with the open
transactions and row locks on it, Redis, the provider queue, the provider's
scheduled callbacks and the emitted events. A statement outside a transaction
commits at once; one inside a transaction writes row versions only its own
process sees. Rows locked stay locked until the transaction ends.
-/

namespace Payroute

open EffectSystem KeyedTable

abbrev ProcessId := Nat
abbrev LockToken := Nat

inductive Isolation where
  | readCommitted | serializable
  deriving DecidableEq, Repr

/-- An open database transaction. -/
structure OpenTransaction where
  isolation : Isolation
  /-- The committed tables when the transaction began. -/
  snapshot : Database
  /-- `NOW()` inside the transaction. -/
  startedAt : Nat
  log : List Write

/-- The keys of the Redis locks. -/
inductive LockKey where
  | account (id : AccountId)
  | refund (id : TransactionId)
  | idempotency (key : String)
  deriving DecidableEq, Repr

/-- A lock's current holder and the lifetime it was given. -/
structure RedisLock where
  token : LockToken
  ttlMs : Nat
  deriving DecidableEq, Repr

/-- The keys of the Redis cache. -/
inductive CacheKey where
  | idempotency (key : String)
  | rate (fromCurrency toCurrency : String)
  | stats
  | list (page limit : Nat) (status : Option TransactionStatus)
  deriving DecidableEq, Repr

/-- Whether `payments:list:*` matches the key. -/
def CacheKey.isList : CacheKey → Bool
  | .list _ _ _ => true
  | _ => false

inductive CacheValue where
  | response (body : Transaction) (statusCode : Nat)
  | rate (units : Nat)
  | page (page : PaymentsPage)
  | stats (stats : StatsResult)
  deriving DecidableEq, Repr

/-- What an outside observer of a request notes down. -/
inductive Note where
  | handlerStarted
  | handlerReturned (body : Transaction)
  | handlerThrew (error : Failure)
  | responded (body : Transaction) (statusCode : Nat)
  | rejected (error : Failure)
  deriving DecidableEq, Repr

structure World where
  db : Database
  sessions : ProcessId → Option OpenTransaction
  rowLocks : RowId → Option ProcessId
  redisLocks : LockKey → Option RedisLock
  cache : CacheKey → Option CacheValue
  jobs : Table ProviderJob
  callbacks : List ProviderCallback
  emitted : List PaymentEvent
  clock : Nat
  next : Supply → Nat
  journal : List (ProcessId × Note)

/-- The external calls of the services. -/
inductive Operation where
  | begin (isolation : Isolation)
  | commit
  | rollback
  | sql (statement : Statement)
  | acquireLock (key : LockKey) (ttlMs : Nat)
  | releaseLock (key : LockKey) (token : LockToken)
  | cacheGet (key : CacheKey)
  | cacheSet (key : CacheKey) (value : CacheValue) (ttlMs : Nat)
  | cacheDelete (key : CacheKey)
  | cacheDeleteLists
  | queueAdd (data : ProviderJobData) (attempts : Nat) (jobId : Option JobId)
  | queueGet (id : JobId)
  | queueRemove (id : JobId)
  | scheduleCallback (amount : Text) (currency : String)
  | emit (event : PaymentEvent)
  | now
  | sleep (ms : Nat)
  | observe (note : Note)
  deriving DecidableEq

namespace Operation

/-- What a successful call returns. -/
@[reducible] def Reply : Operation → Type
  | sql statement => statement.Reply
  | acquireLock _ _ => Option LockToken
  | cacheGet _ => Option CacheValue
  | queueGet _ => Option ProviderJob
  | scheduleCallback _ _ => ProviderReference
  | now => Nat
  | _ => Unit

/-- Whether the call talks to another party and so may fail to reach it. A
rollback always happens, if need be by the server dropping the connection. -/
def isRemote : Operation → Bool
  | rollback => false
  | scheduleCallback _ _ => false
  | emit _ => false
  | now => false
  | sleep _ => false
  | observe _ => false
  | _ => true

end Operation

/-- A program of the backend. -/
abbrev Service (α : Type) := Program Failure Operation.Reply α

namespace World

variable (world : World) (who : ProcessId)

/-! ## Transactions and row locks -/

/-- The committed tables a statement of the process starts from. -/
def base : Database :=
  match world.sessions who with
  | some { isolation := .serializable, snapshot, .. } => snapshot
  | _ => world.db

/-- The writes of the process that are not committed yet. -/
def log : List Write :=
  match world.sessions who with
  | some session => session.log
  | none => []

/-- The tables as the process sees them. -/
def view : Database := (world.base who).replay (world.log who)

/-- What the statements of the process are given besides the tables. -/
def session : Session where
  next := world.next
  now := match world.sessions who with
    | some session => session.startedAt
    | none => world.clock

/-- Whether another process has the row locked. -/
def Blocked (row : RowId) : Prop := ∃ other, world.rowLocks row = some other ∧ other ≠ who

instance (row : RowId) : Decidable (world.Blocked who row) :=
  match holder : world.rowLocks row with
  | none => .isFalse fun ⟨_, held, _⟩ => by rw [holder] at held; cases held
  | some other =>
      if same : other = who then
        .isFalse fun ⟨found, held, differs⟩ => differs (by
          rw [holder] at held
          exact (Option.some.inj held).symm.trans same)
      else .isTrue ⟨other, holder, same⟩

/-- Whether the row changed since the transaction's snapshot, so that a
serializable transaction may not lock or write it any more. -/
def Stale (row : RowId) : Prop := world.db.rowAt row ≠ (world.base who).rowAt row

instance (row : RowId) : Decidable (world.Stale who row) := inferInstanceAs (Decidable (_ ≠ _))

/-- Take a row lock. Outside a transaction it ends with the statement. -/
def lock (row : RowId) : World :=
  match world.sessions who with
  | some _ => { world with rowLocks := Function.update world.rowLocks row (some who) }
  | none => world

/-- Write a row version: privately inside a transaction, at once outside. -/
def write (version : Write) : World :=
  match world.sessions who with
  | some session =>
      { world with
        sessions := Function.update world.sessions who
          (some { session with log := session.log ++ [version] }) }
  | none => { world with db := world.db.write version }

/-- Take one identifier from a supply. -/
def draw (supply : Supply) : World :=
  { world with next := Function.update world.next supply (world.next supply + 1) }

/-- Carry out what a statement does. -/
def apply {ρ : Type} (outcome : Outcome ρ) : World :=
  let drawn := match outcome.draws with
    | some supply => world.draw supply
    | none => world
  let locked := match outcome.locks with
    | some row => drawn.lock who row
    | none => drawn
  match outcome.writes with
  | some version => locked.write who version
  | none => locked

/-- Execute a statement. -/
def execute (statement : Statement) : Except Failure statement.Reply × World :=
  match statement.eval (world.view who) (world.session who) with
  | .error error => (.error error, world)
  | .ok outcome =>
      match outcome.locks with
      | some row =>
          if world.Blocked who row then (.error .lockNotAvailable, world)
          else if world.Stale who row then (.error .serialization, world)
          else (.ok outcome.reply, world.apply who outcome)
      | none => (.ok outcome.reply, world.apply who outcome)

/-- `START TRANSACTION`. -/
def begin (isolation : Isolation) : World :=
  { world with
    sessions := Function.update world.sessions who
      (some { isolation, snapshot := world.db, startedAt := world.clock, log := [] }) }

/-- End the transaction of the process and free its rows. -/
def release : World :=
  { world with
    sessions := Function.update world.sessions who none
    rowLocks := fun row => if world.rowLocks row = some who then none else world.rowLocks row }

/-- `COMMIT`. -/
def commit : World := { (world.release who) with db := world.db.replay (world.log who) }

/-! ## Redis and the queue -/

/-- `SET key token PX ttl NX`. -/
def acquireLock (key : LockKey) (ttlMs : Nat) : Option LockToken × World :=
  match world.redisLocks key with
  | some _ => (none, world.draw .token)
  | none => (some (world.next .token),
      { (world.draw .token) with
        redisLocks := Function.update world.redisLocks key
          (some { token := world.next .token, ttlMs := ttlMs }) })

/-- `RELEASE_LOCK_SCRIPT`: delete the key if it still holds the caller's token. -/
def releaseLock (key : LockKey) (token : LockToken) : World :=
  if (world.redisLocks key).map RedisLock.token = some token then
    { world with redisLocks := Function.update world.redisLocks key none }
  else world

/-- `queue.add`; a job whose identifier exists already is not added again. -/
def queueAdd (data : ProviderJobData) (attempts : Nat) (jobId : Option JobId) : World :=
  let id := jobId.getD (.serial (world.next .job))
  match world.jobs.get? id with
  | some _ => world
  | none => { (world.draw .job) with
      jobs := world.jobs.put
        { id := id, data := data, attempts := attempts, attemptsMade := 0, state := .waiting } }

/-- `job.remove()`; a job that is being worked on stays. -/
def queueRemove (id : JobId) : World :=
  { world with jobs := world.jobs.filter fun job => !decide (job.id = id ∧ job.state ≠ .active) }

/-- The effect of one call that reaches its destination. -/
def perform : (op : Operation) → Except Failure op.Reply × World
  | .begin isolation => (.ok (), world.begin who isolation)
  | .commit => (.ok (), world.commit who)
  | .rollback => (.ok (), world.release who)
  | .sql statement => world.execute who statement
  | .acquireLock key ttlMs =>
      (.ok (world.acquireLock key ttlMs).1, (world.acquireLock key ttlMs).2)
  | .releaseLock key token => (.ok (), world.releaseLock key token)
  | .cacheGet key => (.ok (world.cache key), world)
  | .cacheSet key value _ =>
      (.ok (), { world with cache := Function.update world.cache key (some value) })
  | .cacheDelete key => (.ok (), { world with cache := Function.update world.cache key none })
  | .cacheDeleteLists => (.ok (), { world with
      cache := fun key => if CacheKey.isList key then none else world.cache key })
  | .queueAdd data attempts jobId => (.ok (), world.queueAdd data attempts jobId)
  | .queueGet id => (.ok (world.jobs.get? id), world)
  | .queueRemove id => (.ok (), world.queueRemove id)
  | .scheduleCallback amount currency =>
      (.ok (world.next .reference),
        { (world.draw .reference) with
          callbacks := world.callbacks ++
            [{ reference := world.next .reference, amount := amount, currency := currency }] })
  | .emit event => (.ok (), { world with emitted := world.emitted ++ [event] })
  -- JavaScript dates have milliseconds.
  | .now => (.ok (world.clock / 1000 * 1000), world)
  | .sleep _ => (.ok (), world)
  | .observe note => (.ok (), { world with journal := world.journal ++ [(who, note)] })

end World

/-! ## The machine -/

/-- What becomes of one call: it is carried out and answered, it does not get
through, or it is carried out and the answer is lost. -/
inductive Delivery where
  | delivered | lost | unacknowledged
  deriving DecidableEq, Repr

instance : Inhabited Delivery := ⟨.delivered⟩

namespace World

/-- One call under the given delivery. -/
def exec (who : ProcessId) (delivery : Delivery) (op : Operation) (world : World) :
    Except Failure op.Reply × World :=
  if op.isRemote then
    match delivery with
    | .delivered => perform world who op
    | .lost => (.error .unavailable, world)
    | .unacknowledged => (.error .unavailable, (perform world who op).2)
  else perform world who op

/-- Whether the call need not wait for a row lock. A `NOWAIT` request fails
instead of waiting. -/
def Ready (who : ProcessId) (op : Operation) (world : World) : Prop :=
  match op with
  | .sql statement => statement.nowait = true ∨
      ∀ row, statement.target (world.view who) = some row → ¬ world.Blocked who row
  | _ => True

instance (who : ProcessId) (world : World) : (op : Operation) → Decidable (world.Ready who op)
  | .sql statement =>
      inferInstanceAs (Decidable (statement.nowait = true ∨
        ∀ row ∈ statement.target (world.view who), ¬ world.Blocked who row))
  | .begin _ | .commit | .rollback | .acquireLock _ _ | .releaseLock _ _ | .cacheGet _
  | .cacheSet _ _ _ | .cacheDelete _ | .cacheDeleteLists | .queueAdd _ _ _ | .queueGet _
  | .queueRemove _ | .scheduleCallback _ _ | .emit _ | .now | .sleep _ | .observe _ =>
      .isTrue trivial

/-- A process died: its transaction is rolled back. -/
def crash (who : ProcessId) (world : World) : World := world.release who

end World

/-- The machine that runs the backend's programs. -/
def backend : Machine ProcessId Delivery Failure Operation.Reply World where
  exec := World.exec
  ready := fun who _ op world => world.Ready who op

instance (who : ProcessId) (choice : Delivery) (op : Operation) (world : World) :
    Decidable (backend.ready who choice op world) :=
      inferInstanceAs (Decidable (world.Ready who op))

end Payroute
