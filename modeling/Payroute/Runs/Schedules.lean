import Payroute.Effects.Unwinding
import Payroute.Runs.Concurrent

/-! # Schedules

A schedule is a run written down: which operation starts when, which process makes its next
call and what becomes of the call, which process ends or dies, and what time does. Played
from the same pool a schedule always gives the same run, every schedule that can be played
is a run, and every run is one of a schedule.
-/

namespace Payroute

open EffectSystem KeyedTable

/-- One entry of a schedule. -/
inductive Entry where
  | start (who : ProcessId) (command : Command)
  | call (who : ProcessId) (delivery : Delivery)
  | finish (who : ProcessId)
  | die (who : ProcessId)
  /-- Time passes, the chosen Redis keys lapse, and the queue updates its jobs. -/
  | elapse (time : Nat) (lockLapses : LockKey → Bool) (entryLapses : CacheKey → Bool)
      (jobs : Table ProviderJob)

/-- The world after some time. -/
def World.elapse (world : World) (time : Nat) (lockLapses : LockKey → Bool)
    (entryLapses : CacheKey → Bool) (jobs : Table ProviderJob) : World :=
  { world with
    clock := world.clock + time
    redisLocks := fun key => if lockLapses key then none else world.redisLocks key
    cache := fun key => if entryLapses key then none else world.cache key
    jobs := jobs }

/-- The jobs are ones the queue has already, perhaps in another state. -/
def Queued (jobs old : Table ProviderJob) : Prop :=
  ∀ job ∈ jobs.rows, ∃ known ∈ old.rows,
    known.id = job.id ∧ known.data = job.data ∧ known.attempts = job.attempts

instance (jobs old : Table ProviderJob) : Decidable (Queued jobs old) :=
  inferInstanceAs (Decidable (∀ job ∈ jobs.rows, ∃ known ∈ old.rows,
    known.id = job.id ∧ known.data = job.data ∧ known.attempts = job.attempts))

theorem World.elapses_elapse {world : World} {jobs : Table ProviderJob}
    (queued : Queued jobs world.jobs) (time : Nat) (lockLapses : LockKey → Bool)
    (entryLapses : CacheKey → Bool) :
    world.Elapses (world.elapse time lockLapses entryLapses jobs) where
  db := rfl
  sessions := rfl
  rowLocks := rfl
  next := rfl
  callbacks := rfl
  emitted := rfl
  journal := rfl
  clock := Nat.le_add_right _ _
  redisLocks := by
    intro key
    cases lapses : lockLapses key with
    | true => exact .inr (if_pos lapses)
    | false => exact .inl (if_neg (by rw [lapses]; exact Bool.false_ne_true))
  cache := by
    intro key
    cases lapses : entryLapses key with
    | true => exact .inr (if_pos lapses)
    | false => exact .inl (if_neg (by rw [lapses]; exact Bool.false_ne_true))
  jobs := queued

/-- Whatever time does is one such entry. -/
theorem World.Elapses.elapse {first second : World} (elapses : first.Elapses second) :
    first.elapse (second.clock - first.clock) (fun key => (second.redisLocks key).isNone)
      (fun key => (second.cache key).isNone) second.jobs = second := by
  have locks : (fun key => if (second.redisLocks key).isNone then none
      else first.redisLocks key) = second.redisLocks := by
    funext key
    cases held : second.redisLocks key with
    | none => rfl
    | some lock =>
        rcases elapses.redisLocks key with same | gone
        · exact same.symm.trans held
        · rw [held] at gone
          cases gone
  have entries : (fun key => if (second.cache key).isNone then none else first.cache key) =
      second.cache := by
    funext key
    cases cached : second.cache key with
    | none => rfl
    | some value =>
        rcases elapses.cache key with same | gone
        · exact same.symm.trans cached
        · rw [cached] at gone
          cases gone
  unfold World.elapse
  rw [locks, entries, Nat.add_sub_cancel' elapses.clock]
  obtain ⟨db, sessions, rowLocks, next, callbacks, emitted, journal, _, _, _, _⟩ := elapses
  rw [← db, ← sessions, ← rowLocks, ← next, ← callbacks, ← emitted, ← journal]

namespace Entry

/-- Carry out an entry, without checking that it is allowed. -/
def play (deployment : Deployment) (pool : Pool ProcessId Failure Operation.Reply World) :
    Entry → Pool ProcessId Failure Operation.Reply World
  | start who command => Pool.play backend pool (.spawn who (command.program deployment))
  | call who delivery => Pool.play backend pool (.call who delivery)
  | finish who => ⟨pool.shared, Function.update pool.running who none⟩
  | die who => ⟨pool.shared.crash who, Function.update pool.running who none⟩
  | elapse time lockLapses entryLapses jobs =>
      ⟨pool.shared.elapse time lockLapses entryLapses jobs, pool.running⟩

/-- Whether a program has come to its end. -/
def Ended : Option (Service Unit) → Prop
  | some (.ret _) | some (.fail _) => True
  | _ => False

instance : (body : Option (Service Unit)) → Decidable (Ended body)
  | some (.ret _) | some (.fail _) => .isTrue trivial
  | some (.call _ _) | none => .isFalse id

/-- Whether an entry can be carried out. -/
def Playable (pool : Pool ProcessId Failure Operation.Reply World) : Entry → Prop
  | start who _ => (pool.running who).isNone = true
  | call who delivery => Pool.Playable backend pool (.call who delivery)
  | finish who => Ended (pool.running who)
  | die who => (pool.running who).isSome = true
  | elapse _ _ _ jobs => Queued jobs pool.shared.jobs

instance (pool : Pool ProcessId Failure Operation.Reply World) :
    (entry : Entry) → Decidable (entry.Playable pool)
  | start who _ => inferInstanceAs (Decidable ((pool.running who).isNone = true))
  | call who delivery =>
      inferInstanceAs (Decidable (Pool.Playable backend pool (.call who delivery)))
  | finish who => inferInstanceAs (Decidable (Ended (pool.running who)))
  | die who => inferInstanceAs (Decidable ((pool.running who).isSome = true))
  | elapse _ _ _ jobs => inferInstanceAs (Decidable (Queued jobs pool.shared.jobs))

/-- What a schedule leaves. -/
def playAll (deployment : Deployment) (schedule : List Entry)
    (pool : Pool ProcessId Failure Operation.Reply World) :
    Pool ProcessId Failure Operation.Reply World :=
  schedule.foldl (play deployment) pool

/-- Whether every entry of a schedule can be carried out when its turn comes. -/
def PlayableAll (deployment : Deployment) :
    List Entry → Pool ProcessId Failure Operation.Reply World → Prop
  | [], _ => True
  | entry :: rest, pool =>
      entry.Playable pool ∧ PlayableAll deployment rest (entry.play deployment pool)

instance PlayableAll.decidable (deployment : Deployment) :
    (schedule : List Entry) → (pool : Pool ProcessId Failure Operation.Reply World) →
      Decidable (PlayableAll deployment schedule pool)
  | [], _ => .isTrue trivial
  | entry :: rest, pool =>
      have := PlayableAll.decidable deployment rest (entry.play deployment pool)
      inferInstanceAs (Decidable (entry.Playable pool ∧ _))

variable {deployment : Deployment} {pool last : Pool ProcessId Failure Operation.Reply World}

/-- An entry that can be carried out is a step, unless it changes nothing. -/
theorem play_step (deployment : Deployment) {entry : Entry} (playable : entry.Playable pool) :
    entry.play deployment pool = pool ∨
      Pool.Step backend (surroundings (Command.Starts deployment fun _ => True)) pool
        (entry.play deployment pool) := by
  cases entry with
  | start who command =>
      change Pool.play backend pool (.spawn who (command.program deployment)) = pool ∨ _
      refine Pool.play_step playable ?_
      intro starter body same
      cases same
      exact ⟨command, trivial, rfl⟩
  | call who delivery =>
      change Pool.play backend pool (.call who delivery) = pool ∨ _
      refine Pool.play_step playable ?_
      intro starter body same
      cases same
  | finish who =>
      refine .inr (.finish who ?_)
      change Ended (pool.running who) at playable
      cases current : pool.running who with
      | none =>
          rw [current] at playable
          exact playable.elim
      | some body =>
          cases body with
          | ret value => exact .inl rfl
          | fail error => exact .inr ⟨error, rfl⟩
          | call op next =>
              rw [current] at playable
              exact playable.elim
  | die who => exact .inr (.crash who (Option.isSome_iff_ne_none.mp playable))
  | elapse time lockLapses entryLapses jobs =>
      exact .inr (.drift _ (World.elapses_elapse playable time lockLapses entryLapses))

/-- Every step is an entry that can be carried out. -/
theorem exists_of_step
    (step : Pool.Step backend (surroundings (Command.Starts deployment fun _ => True)) pool last) :
    ∃ entry : Entry, entry.Playable pool ∧ entry.play deployment pool = last := by
  cases step with
  | spawn who body free started =>
      obtain ⟨command, _, rfl⟩ := started
      exact ⟨.start who command, by rw [Playable, free]; rfl, rfl⟩
  | call who delivery op next current ready =>
      refine ⟨.call who delivery, ?_, Pool.play_call current delivery⟩
      simp only [Playable, Pool.Playable, current, Pool.Poised]
      exact ready
  | finish who ended =>
      refine ⟨.finish who, ?_, rfl⟩
      rcases ended with returned | ⟨error, failed⟩
      · rw [Playable, returned]
        trivial
      · rw [Playable, failed]
        trivial
  | crash who alive => exact ⟨.die who, Option.isSome_iff_ne_none.mpr alive, rfl⟩
  | drift next moved =>
      have elapses : pool.shared.Elapses next := moved
      refine ⟨.elapse (next.clock - pool.shared.clock) (fun key => (next.redisLocks key).isNone)
        (fun key => (next.cache key).isNone) next.jobs, elapses.jobs, ?_⟩
      exact congrArg (Pool.mk · pool.running) elapses.elapse

/-- A schedule that can be played is a run. -/
theorem steps_of_playable {schedule : List Entry}
    (playable : PlayableAll deployment schedule pool) :
    Pool.Steps backend (surroundings (Command.Starts deployment fun _ => True)) pool
      (playAll deployment schedule pool) := by
  induction schedule generalizing pool with
  | nil => exact .refl
  | cons entry rest ih =>
      have later := ih playable.2
      rcases play_step deployment playable.1 with same | step
      · rw [same] at later
        change Pool.Steps _ _ pool (playAll deployment rest (entry.play deployment pool))
        rw [same]
        exact later
      · exact .head step later

/-- Every run is one of a schedule. -/
theorem exists_of_steps
    (steps : Pool.Steps backend (surroundings (Command.Starts deployment fun _ => True)) pool
      last) :
    ∃ schedule, PlayableAll deployment schedule pool ∧ playAll deployment schedule pool = last := by
  induction steps using Relation.ReflTransGen.head_induction_on with
  | refl => exact ⟨[], trivial, rfl⟩
  | head step _ ih =>
      obtain ⟨entry, able, rfl⟩ := exists_of_step step
      obtain ⟨schedule, playable, rfl⟩ := ih
      exact ⟨entry :: schedule, ⟨able, playable⟩, rfl⟩

/-- The entries of the full run of two can be carried out. -/
theorem along_of_playable {schedule : List Entry} (kept : Entry → Bool)
    (playable : PlayableAll deployment schedule pool) :
    Along (play deployment) kept (fun _ full entry => entry.Playable full) schedule last pool := by
  induction schedule generalizing pool last with
  | nil => trivial
  | cons entry rest ih => exact ⟨playable.1, ih playable.2⟩

end Entry
end Payroute
