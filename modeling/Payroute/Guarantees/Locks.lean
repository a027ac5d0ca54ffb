import Payroute.Runs.Serial
import Payroute.Runs.Tokens

/-! # Lock ownership

Whatever clients do with the Redis locks, and whichever of them lapse, a lock has the
token of the one acquisition that its client has not released and that has not lapsed.
While there is one nobody else acquires the lock, and a client whose lock lapsed releases
nothing, however late it tries. The services are such clients.
-/

namespace Payroute

open EffectSystem Leases

/-- What the locks are after the given events. -/
structure LocksOwned (trace : List LockEvent) (world : World) : Prop where
  /-- The current token is that of the acquisition that is outstanding. -/
  current : ∀ key token, (world.redisLocks key).map RedisLock.token = some token ↔
    ∃ who, Outstanding trace who key token
  /-- There is one at most. -/
  unique : ∀ key who token other second, Outstanding trace who key token →
    Outstanding trace other key second → other = who ∧ second = token
  /-- `acquireLock` returns a token only where the lock has none. -/
  acquires : ∀ key ttlMs token, (world.acquireLock key ttlMs).1 = some token →
    world.redisLocks key = none
  /-- Nobody acquires a lock before it is released by its client or lapses. -/
  excludes : ∀ key who token, Outstanding trace who key token →
    ∀ ttlMs, (world.acquireLock key ttlMs).1 = none
  /-- A release with another token than the current one changes nothing. -/
  stale : ∀ key token, (world.redisLocks key).map RedisLock.token ≠ some token →
    world.releaseLock key token = world
  /-- A release by a client whose acquisition is not outstanding any more changes
  nothing. -/
  late : ∀ key who token, .acquire who key (some token) ∈ trace →
    ¬ Outstanding trace who key token → world.releaseLock key token = world
  /-- Nor does it free the lock of the successor. -/
  successor : ∀ key who token other second, .acquire who key (some token) ∈ trace →
    Outstanding trace other key second → other ≠ who →
      ((world.releaseLock key token).redisLocks key).map RedisLock.token = some second

theorem LockRun.owned {initial last : World} (unlocked : ∀ key, initial.redisLocks key = none)
    {trace : List LockEvent} (run : LockRun initial trace last) (honest : Honest trace) :
    LocksOwned trace last := by
  have leases := run.leases
  have free : ∀ key, initial.leases.holder key = none := by
    intro key
    change (initial.redisLocks key).map _ = none
    rw [unlocked key]
    rfl
  have holds : ∀ {who key token}, Outstanding trace who key token →
      (last.redisLocks key).map RedisLock.token = some token :=
    fun outstanding => leases.holds honest outstanding
  have once : ∀ {who other key token}, .acquire who key (some token) ∈ trace →
      Outstanding trace other key token → other = who :=
    fun granted outstanding => (leases.once granted outstanding.granted).1
  have late : ∀ key who token, .acquire who key (some token) ∈ trace →
      ¬ Outstanding trace who key token → last.releaseLock key token = last := by
    intro key who token granted lost
    refine World.releaseLock_stale fun current => lost ?_
    obtain ⟨owner, outstanding⟩ := leases.outstanding free current
    rw [← once granted outstanding]
    exact outstanding
  have unique : ∀ key who token other second, Outstanding trace who key token →
      Outstanding trace other key second → other = who ∧ second = token := by
    intro key who token other second first outstanding
    have same : second = token := Option.some.inj ((holds outstanding).symm.trans (holds first))
    rw [same] at outstanding
    exact ⟨once first.granted outstanding, same⟩
  refine ⟨fun key token => ⟨leases.outstanding free, ?_⟩, unique, ?_, ?_, ?_, late, ?_⟩
  · rintro ⟨who, outstanding⟩
    exact holds outstanding
  · exact fun key ttlMs token => World.free_of_acquireLock
  · intro key who token outstanding ttlMs
    cases held : last.redisLocks key with
    | none =>
        have absurd := holds outstanding
        rw [held] at absurd
        cases absurd
    | some lock => rw [World.acquireLock_held held]
  · exact fun key token => World.releaseLock_stale
  · intro key who token other second granted outstanding differ
    rw [late key who token granted fun own => differ (unique key who token other second own
      outstanding).1]
    exact holds outstanding

/-- In every run of clients that acquire and release locks, in any order and however late,
while locks lapse, the locks are owned in every state; and the calls of any number of
operations and requests, any of which may fail or die, are such a run. -/
theorem lock_ownership {initial : World} (unlocked : ∀ key, initial.redisLocks key = none) :
    (∀ trace last, LockRun initial trace last → Honest trace → LocksOwned trace last) ∧
    ∀ (deployment : Deployment) (pool : Pool ProcessId Failure Operation.Reply World),
      Pool.Reachable backend (surroundings (Serves deployment)) initial pool →
      ∃ trace, LockRun initial trace pool.shared ∧ Honest trace := by
  constructor
  · exact fun trace last run honest => run.owned unlocked honest
  · exact fun deployment pool reached =>
      LockRun.of_pool (fun who body serves => serves.returning) reached

/-! ## A late release -/

/-- One client acquires the lock of a refund. -/
def firstHeld : World := (sampleWorld.acquireLock (.refund 7) 15000).2

/-- The lock lapses before the refund is done. -/
def lockLapsed : World := { firstHeld with redisLocks := fun _ => none }

/-- Another client acquires it. -/
def secondHeld : World := (lockLapsed.acquireLock (.refund 7) 15000).2

/-- The first client is done and releases its lock. -/
def lateReleased : World := secondHeld.releaseLock (.refund 7) 0

def lateRelease : List LockEvent :=
  [.acquire 0 (.refund 7) (some 0), .lapse fun key => lockLapsed.redisLocks key ≠
    firstHeld.redisLocks key, .acquire 1 (.refund 7) (some 1), .release 0 (.refund 7) 0]

theorem lateRelease_run : LockRun sampleWorld lateRelease lateReleased := by
  have first : LockRun sampleWorld (lateRelease.take 1) firstHeld :=
    .snoc .nil (.acquire 0 (.refund 7) 15000)
  have lapsed : LockRun sampleWorld (lateRelease.take 2) lockLapsed :=
    .snoc first (.elapse (fun _ => .inr rfl) (Nat.le_refl _))
  have second : LockRun sampleWorld (lateRelease.take 3) secondHeld :=
    .snoc lapsed (.acquire 1 (.refund 7) 15000)
  exact .snoc second (.release 0 (.refund 7) 0)

theorem lateRelease_honest : Honest lateRelease := by
  have before : Honest (lateRelease.take 3) :=
    ((honest_nil.snoc nofun).snoc nofun).snoc nofun
  refine before.snoc fun who key token same => ?_
  cases same
  exact List.mem_cons_self

/-- The second client still holds the lock. -/
theorem lock_ownership_sample : LocksOwned lateRelease lateReleased ∧
    (lateReleased.redisLocks (.refund 7)).map RedisLock.token = some 1 :=
  ⟨(@lock_ownership sampleWorld fun _ => rfl).1 lateRelease lateReleased lateRelease_run
    lateRelease_honest, rfl⟩

end Payroute
