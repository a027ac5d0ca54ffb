import Payroute.Commits.Refinement
import Payroute.Runs.Attempts
import Payroute.Runs.Solo

/-! # Refunds of accepted payments

The dead-letter handler fails a payment on the strength of its status alone, and an
attempt submits one on the strength of a row it has read before. Both checks are enough
in every run of attempts, handlers and sweeps in which no handler finds a job of the
payment exhausted after it was submitted, and no attempt submits it that was beside such
a handler since it read the row.
-/

namespace Payroute

open EffectSystem KeyedTable Program

/-- The attempts of the jobs of one payment, the dead-letter handlers and the sweeps. -/
def Command.Provides (id : TransactionId) : Command → Prop
  | .process data => data.transactionId = id
  | .onProviderJobExhausted _ _ => True
  | .retryStuckPayments => True
  | _ => False

instance (id : TransactionId) : (command : Command) → Decidable (command.Provides id)
  | .process data => inferInstanceAs (Decidable (data.transactionId = id))
  | .onProviderJobExhausted _ _ | .retryStuckPayments => .isTrue trivial
  | .createPayment _ _ | .processWebhook _ _ _ | .refundPayment _ _ | .raiseDispute _ _
  | .resolveDispute _ _ | .cleanupExpiredIdempotencyKeys
  | .cleanupOldProcessedWebhookEvents => .isFalse fun absurd => absurd

/-- The status and the postings of the payment are the same. -/
structure Database.Retains (first second : Database) (id : TransactionId) : Prop where
  status : second.statusOf id = first.statusOf id
  entries : second.entriesOf id = first.entriesOf id

/-- The queue holds a job of the payment that has used up its attempts. -/
def World.Exhausted (world : World) (id : TransactionId) (jobId : JobId) : Prop :=
  ∃ job, world.jobs.get? jobId = some job ∧ job.data.transactionId = id ∧
    job.attempts ≤ job.attemptsMade

/-- A handler looks up a job of the payment, finds it exhausted and goes on to fail the
payment. -/
def FindsExhausted (id : TransactionId)
    (first second : Pool ProcessId Failure Operation.Reply World) (who : ProcessId) : Prop :=
  ∃ jobId reason,
    first.running who = some (DeadLetterHandler.onProviderJobExhausted jobId reason) ∧
      first.shared.Exhausted id jobId ∧
      second.running who = some (DeadLetterHandler.failPayment id reason)

/-- A pool, which handlers have found a job of the payment exhausted and are still at
work, and which processes were beside one since they read the row. -/
structure Attended where
  pool : Pool ProcessId Failure Operation.Reply World
  failing : ProcessId → Prop
  beside : ProcessId → Prop

/-- The state after a step. -/
def Attended.after (id : TransactionId) (first : Attended)
    (next : Pool ProcessId Failure Operation.Reply World) : Attended where
  pool := next
  failing := fun who => next.running who ≠ none ∧
    (first.failing who ∨ FindsExhausted id first.pool next who)
  beside := fun who => (∃ other, first.failing other) ∨
    ¬ Reading id first.pool who ∧ first.beside who

/-- A step of the attempts, the handlers and the sweeps. No handler finds a job of the
payment exhausted once it was submitted, and nobody submits it who was beside such a
handler since it read the row. -/
inductive DeadLetterStep (deployment : Deployment) (id : TransactionId) (initial : World) :
    Attended → Attended → Prop
  | submit {first : Attended} (who : ProcessId) (delivery : Delivery)
      (calling : CallsProvider first.pool who) (prompt : ¬ first.beside who)
      (alone : ∀ other, ¬ first.failing other) :
      DeadLetterStep deployment id initial first
        (first.after id (Pool.play backend first.pool (.call who delivery)))
  | other {first : Attended} {next : Pool ProcessId Failure Operation.Reply World}
      (step : Pool.Step backend (surroundings (Command.Starts deployment (Command.Provides id)))
        first.pool next)
      (same : next.shared.callbacks = first.pool.shared.callbacks)
      (unsubmitted : ∀ who, FindsExhausted id first.pool next who →
        first.pool.shared.callbacks = initial.callbacks) :
      DeadLetterStep deployment id initial first (first.after id next)

/-- Any number of such steps. -/
abbrev DeadLetterRun (deployment : Deployment) (id : TransactionId) (initial : World) :
    Attended → Attended → Prop :=
  Relation.ReflTransGen (DeadLetterStep deployment id initial)

/-! ## The programs of the pool -/

/-- The call asks for no lock on the row of the payment. -/
def Operation.Spares (id : TransactionId) : Operation → Prop
  | .sql (.lockTransaction wanted _) | .sql (.updateTransaction wanted _) => wanted ≠ id
  | .sql (.lockTransactionByReference _) | .sql (.insertTransaction _) => False
  | _ => True

/-- Where a process may stand that has not found a job of the payment exhausted: at work
on another payment, or outside of transactions. -/
def Harmless (id : TransactionId) (world : World) (who : ProcessId) (body : Service Unit) : Prop :=
  body.OnlyCalls (Operation.Spares id) ∨ world.sessions who = none ∧
    (body.OnlyCalls Locking.Single ∨
      ∃ jobId reason, body = DeadLetterHandler.onProviderJobExhausted jobId reason)

section Programs

variable {deployment : Deployment} {id : TransactionId} {who : ProcessId} {world : World}

theorem spares_failPayment {other : TransactionId} (differs : other ≠ id) (reason : String) :
    (DeadLetterHandler.failPayment other reason).OnlyCalls (Operation.Spares id) := by
  have body : (DeadLetterHandler.exhaustedBody other).OnlyCalls (Operation.Spares id) :=
    DeadLetterHandler.onlyCalls_exhaustedBody other differs
      (PaymentsService.onlyCalls_returnFunds other trivial trivial (fun _ => trivial)
        fun _ _ _ => trivial) differs fun _ _ => trivial
  exact .swallow (.bind (onlyCalls_transaction trivial trivial trivial body) fun _ =>
    onlyCalls_perform trivial)

/-- A statement that asks for no lock on the row does not lock it. -/
theorem World.execute_spares {statement : Statement} {session : OpenTransaction}
    (opened : world.sessions who = some session) (spares : (Operation.sql statement).Spares id)
    (held : (world.execute who statement).2.rowLocks (.transaction id) = some who) :
    world.rowLocks (.transaction id) = some who := by
  rcases (World.execute_opened opened statement).2.2 _ held with before | asked | ⟨_, rfl⟩
  · exact before
  · cases statement with
    | lockTransaction wanted refuse =>
        obtain ⟨_, _, same⟩ := Option.map_eq_some_iff.mp asked
        cases same
        exact (spares rfl).elim
    | updateTransaction wanted patch =>
        obtain ⟨_, _, same⟩ := Option.map_eq_some_iff.mp asked
        cases same
        exact (spares rfl).elim
    | lockTransactionByReference _ => exact spares.elim
    | lockAccount _ | updateBalance _ _ _ =>
        obtain ⟨_, _, absurd⟩ := Option.map_eq_some_iff.mp asked
        cases absurd
    | _ => cases asked
  · exact spares.elim

/-- A call that asks for no lock on the row does not lock it. -/
theorem World.exec_spares {op : Operation} (spares : op.Spares id) (delivery : Delivery)
    (held : (World.exec who delivery op world).2.rowLocks (.transaction id) = some who) :
    world.rowLocks (.transaction id) = some who := by
  rcases World.exec_state who delivery op world with same | ran
  · rw [same] at held
    exact held
  rw [ran] at held
  by_cases neutral : op.Neutral
  · rw [(World.perform_neutral neutral).rowLocks] at held
    exact held
  cases op with
  | begin isolation => exact held
  | commit => exact ((World.release_rowLocks _ who).mp held).1
  | rollback => exact ((World.release_rowLocks _ who).mp held).1
  | sql statement =>
      cases opened : world.sessions who with
      | some session => exact World.execute_spares opened spares held
      | none =>
          change (world.execute who statement).2.rowLocks _ = _ at held
          rcases World.execute_cases world who statement with ⟨error, failed⟩ | ⟨outcome, _, _, ran⟩
          · rw [failed] at held
            exact held
          · rw [ran, World.apply_closed outcome opened] at held
            exact held
  | _ => exact (neutral trivial).elim

/-- The programs that start in the pool. -/
theorem Command.Starts.provides {body : Service Unit}
    (started : Command.Starts deployment (Command.Provides id) who body) :
    (Unattached body ∨ Checks id body) ∧ (body.OnlyCalls Locking.Single ∨
      ∃ jobId reason, body = DeadLetterHandler.onProviderJobExhausted jobId reason) := by
  obtain ⟨command, provides, rfl⟩ := started
  cases command with
  | process data => exact ⟨.inr (checks_process provides), .inl (Locking.single_process data)⟩
  | onProviderJobExhausted jobId reason =>
      exact ⟨.inl (Command.unattached deployment fun _ absurd => by cases absurd),
        .inr ⟨jobId, reason, rfl⟩⟩
  | retryStuckPayments =>
      refine ⟨.inl (Command.unattached deployment fun _ absurd => by cases absurd), .inl ?_⟩
      refine StuckPaymentScheduler.sweeping_retryStuckPayments.mono fun op sweeps => ?_
      cases op with
      | begin _ | commit | rollback => exact sweeps.elim
      | _ => trivial
  | _ => exact provides.elim

theorem Harmless.congr {later : World} {body : Service Unit} (harmless : Harmless id world who body)
    (same : later.sessions who = world.sessions who) : Harmless id later who body :=
  harmless.imp_right fun ⟨closed, stands⟩ => ⟨same.trans closed, stands⟩

/-- What a harmless process does next is harmless, unless it has found a job of the
payment exhausted and is to fail the payment. -/
theorem Harmless.exec {op : Operation} {next : Except Failure op.Reply → Service Unit}
    (harmless : Harmless id world who (.call op next)) (delivery : Delivery) :
    let outcome := World.exec who delivery op world
    Harmless id outcome.2 who (next outcome.1) ∨
      ∃ jobId reason,
        (.call op next : Service Unit) = DeadLetterHandler.onProviderJobExhausted jobId reason ∧
        world.Exhausted id jobId ∧
        next outcome.1 = DeadLetterHandler.failPayment id reason := by
  intro outcome
  rcases harmless with spares | ⟨closed, single | ⟨jobId, reason, same⟩⟩
  · exact .inl (.inl (spares.2 _))
  · refine .inl (.inr ⟨?_, .inl (single.2 _)⟩)
    rcases World.exec_state who delivery op world with kept | ran
    · rw [show outcome.2 = world from kept]
      exact closed
    · rw [show outcome.2 = (world.perform who op).2 from ran]
      exact Locking.single_closed single.1 closed
  · have current : (.call op next : Service Unit) = .call (.queueGet jobId) _ := same
    cases current
    have none : ∀ error, Harmless id outcome.2 who (.fail error) := fun _ => .inl trivial
    cases answered : outcome.1 with
    | error error => exact .inl (.inl trivial)
    | ok found =>
        have ran : outcome = world.perform who (.queueGet jobId) := World.exec_of_ok answered
        have looked : world.jobs.get? jobId = found := by
          rw [ran] at answered
          exact Except.ok.inj answered
        cases found with
        | none => exact .inl (.inl trivial)
        | some job =>
            change Harmless id outcome.2 who (if job.attemptsMade < job.attempts then _ else _) ∨
              ∃ _ _, _ ∧ _ ∧ (if job.attemptsMade < job.attempts then _ else _) = _
            by_cases left : job.attemptsMade < job.attempts
            · rw [if_pos left]
              exact .inl (.inl trivial)
            · rw [if_neg left]
              by_cases own : job.data.transactionId = id
              · subst own
                exact .inr ⟨jobId, reason, rfl, ⟨job, looked, rfl, Nat.le_of_not_lt left⟩, rfl⟩
              · exact .inl (.inl (spares_failPayment own reason))

/-- Nor does a harmless process lock the row. -/
theorem Harmless.locks {op : Operation} {next : Except Failure op.Reply → Service Unit}
    (harmless : Harmless id world who (.call op next)) (delivery : Delivery)
    (opened : (World.exec who delivery op world).2.sessions who ≠ none)
    (held : (World.exec who delivery op world).2.rowLocks (.transaction id) = some who) :
    world.rowLocks (.transaction id) = some who := by
  rcases harmless with spares | ⟨closed, stands⟩
  · exact World.exec_spares spares.1 delivery held
  have single : Locking.Single op := by
    rcases stands with single | ⟨jobId, reason, same⟩
    · exact single.1
    · have current : (.call op next : Service Unit) = .call (.queueGet jobId) _ := same
      cases current
      trivial
  refine (opened ?_).elim
  rcases World.exec_state who delivery op world with kept | ran
  · rw [kept]
    exact closed
  · rw [ran]
    exact Locking.single_closed single closed

end Programs

section Commits

variable {setting : Setting} {first second : Database} {id other : TransactionId}

theorem Database.Retains.of_agreeAt (agree : first.AgreeAt second (.transaction id)) :
    first.Retains second id where
  status := congrArg (Option.map Transaction.status) agree.1
  entries := agree.2.1

theorem Database.Retains.trans {third : Database} (left : first.Retains second id)
    (right : second.Retains third id) : first.Retains third id :=
  ⟨right.status.trans left.status, right.entries.trans left.entries⟩

theorem Assigns.retains
    (assigns : Assigns setting other first second) : first.Retains second id := by
  refine ⟨assigns.statusOf id, ?_⟩
  obtain ⟨_, reference, _, _, _, rfl⟩ := assigns
  rw [Settlement.entriesOf_apply]
  exact List.append_nil _

/-- The dead-letter handler fails one payment and leaves the others alone. -/
theorem Exhausts.fails (exhausts : Exhausts setting other first second) :
    first.Retains second id ∨
      first.statusOf id = some .processing ∧ second.statusOf id = some .failed ∧
        second.historyOf id ≠ first.historyOf id := by
  obtain ⟨row, entries, timestamp, _, found, processing, returns, rfl⟩ := exhausts
  by_cases same : id = other
  · subst same
    refine .inr ⟨?_, ?_, ?_⟩
    · unfold Database.statusOf
      rw [found, Option.map_some, processing]
    · unfold Database.statusOf
      rw [Settlement.get?_apply, if_pos rfl, found]
      rfl
    · rw [Settlement.historyOf_apply]
      simp
  · exact .inl (.of_agreeAt (Settlement.agreeAt_other ⟨returns.own, history_own⟩ first same))

/-- What the operations of the pool commit. -/
theorem Command.CommitsOf.provides {deployment : Deployment}
    (commits : Command.CommitsOf setting deployment (Command.Provides id) first second) :
    first.Retains second id ∨
      first.statusOf id = some .processing ∧ second.statusOf id = some .failed ∧
        second.historyOf id ≠ first.historyOf id := by
  obtain ⟨command, provides, commits⟩ := commits
  cases command with
  | process data => exact .inl (Assigns.retains commits)
  | onProviderJobExhausted jobId failedReason =>
      obtain ⟨other, exhausts⟩ := commits
      exact exhausts.fails
  | retryStuckPayments => exact commits.elim
  | _ => exact provides.elim

end Commits

/-- A process that has not locked the payment changes its row or its history, but not
both at once. -/
theorem World.exec_unlocked {world : World} {who : ProcessId} {id : TransactionId}
    (sound : world.Sound) (free : world.rowLocks (.transaction id) ≠ some who) (delivery : Delivery)
    (op : Operation) :
    let next := (World.exec who delivery op world).2
    next.db.transactions.get? id = world.db.transactions.get? id ∨
      next.db.historyOf id = world.db.historyOf id := by
  intro next
  rcases exec_state who delivery op world with same | ran
  · rw [show next = world from same]
    exact .inl rfl
  rw [show next = (world.perform who op).2 from ran]
  have ends : ∀ last : World, world.Aside last →
      last.db.transactions.get? id = world.db.transactions.get? id ∨
        last.db.historyOf id = world.db.historyOf id := fun last aside => .inl (by rw [aside.db])
  cases op with
  | begin isolation => exact .inl rfl
  | rollback => exact .inl rfl
  | commit =>
      have unguarded : ∀ version ∈ world.log who, version.guard ≠ some (.transaction id) := by
        intro version member guard
        cases opened : world.sessions who with
        | none =>
            rw [World.log, opened] at member
            exact List.not_mem_nil member
        | some session =>
            rw [log_open opened] at member
            exact free (sound.covered who session opened version member _ guard)
      exact .inl (world.db.agreeAt_replay unguarded).1
  | sql statement =>
      change (world.execute who statement).2.db.transactions.get? id = _ ∨
        (world.execute who statement).2.db.historyOf id = _
      rcases execute_cases world who statement with ⟨error, refused⟩ | ⟨outcome, _, _, ran⟩
      · rw [refused]
        exact .inl rfl
      · rw [ran]
        cases opened : world.sessions who with
        | some session =>
            rw [apply_open outcome opened]
            exact .inl rfl
        | none =>
            rw [apply_closed outcome opened]
            cases outcome.writes with
            | none => exact .inl rfl
            | some version =>
                cases version with
                | transaction row => exact .inr rfl
                | _ => exact .inl rfl
  | acquireLock _ _ | releaseLock _ _ | cacheGet _ | cacheSet _ _ _ | cacheDelete _
  | cacheDeleteLists | queueAdd _ _ _ | queueGet _ | queueRemove _ | scheduleCallback _ _ | emit _
  | now | sleep _ | observe _ => exact ends _ (perform_neutral trivial)


/-! ## The invariant -/

section Steps

variable {deployment : Deployment} {id : TransactionId} {initial : World} {first : Attended}
  {next : Pool ProcessId Failure Operation.Reply World} {who : ProcessId}

/-- A step that fails the payment is made by a process that has its row locked. -/
theorem locked_of_fails {starts : ProcessId → Service Unit → Prop}
    {before after : Pool ProcessId Failure Operation.Reply World} (sound : before.shared.Sound)
    (step : Pool.Step backend (surroundings starts) before after)
    (status : after.shared.db.statusOf id ≠ before.shared.db.statusOf id)
    (history : after.shared.db.historyOf id ≠ before.shared.db.historyOf id) :
    ∃ who, before.shared.rowLocks (.transaction id) = some who := by
  cases step with
  | spawn who body free started => exact (status rfl).elim
  | call who choice op rest current ready =>
      refine ⟨who, ?_⟩
      by_contra unlocked
      rcases World.exec_unlocked sound unlocked choice op with row | same
      · exact status (congrArg (Option.map Transaction.status) row)
      · exact history same
  | finish who ended => exact (status rfl).elim
  | crash who alive => exact (status rfl).elim
  | drift next moved =>
      refine (status ?_).elim
      change next.db.statusOf id = _
      rw [World.Elapses.db moved]

/-- What every state of a run satisfies: only handlers that found a job of the payment
exhausted lock its row, and they did so before it was submitted; a process that is about
to submit it, and was beside no such handler, has seen it in progress; and unless nothing
was submitted, the payment has kept its status and its postings. -/
structure Attended.Heeds (deployment : Deployment) (id : TransactionId) (initial : World)
    (attended : Attended) : Prop where
  valid : concurrent.Valid (Command.CommitsOf concurrent deployment (Command.Provides id))
    (fun _ _ _ => True) attended.pool
  stages : ∀ who body, attended.pool.running who = some body →
    Stage id attended.pool.shared who body
  harmless : ∀ who body, attended.pool.running who = some body → ¬ attended.failing who →
    Harmless id attended.pool.shared who body
  locked : ∀ who, attended.pool.shared.rowLocks (.transaction id) = some who →
    attended.failing who
  early : ∀ who, attended.failing who → attended.pool.shared.callbacks = initial.callbacks
  checked : ∀ who body, attended.pool.running who = some body → Forwards id body →
    ¬ attended.beside who → (∀ other, ¬ attended.failing other) →
    attended.pool.shared.db.statusOf id = some .processing
  retained : initial.db.Retains attended.pool.shared.db id ∨
    attended.pool.shared.db.statusOf id = some .failed ∧
      attended.pool.shared.callbacks = initial.callbacks

/-- Who stands where it stood has found nothing. -/
theorem not_finds_of_same {pool : Pool ProcessId Failure Operation.Reply World}
    (same : next.running who = pool.running who) : ¬ FindsExhausted id pool next who := by
  rintro ⟨jobId, reason, looks, _, fails⟩
  have absurd := looks.symm.trans (same.symm.trans fails)
  cases Option.some.inj absurd

/-- A process that is about to submit the payment and is beside no handler was beside none
before the step, and nobody was failing the payment. -/
theorem Attended.not_beside {body : Service Unit} (current : first.pool.running who = some body)
    (forwards : Forwards id body) (prompt : ¬ (first.after id next).beside who) :
    ¬ first.beside who ∧ ∀ other, ¬ first.failing other :=
  ⟨fun beside => prompt (.inr ⟨forwards.not_reading current, beside⟩),
    fun other failing => prompt (.inl ⟨other, failing⟩)⟩

/-- What a step does to the payment: nothing, or a handler that has found one of its jobs
exhausted fails it. -/
theorem Attended.Heeds.moves (heeds : first.Heeds deployment id initial)
    (step : Pool.Step backend (surroundings (Command.Starts deployment (Command.Provides id)))
      first.pool next) :
    first.pool.shared.db.Retains next.shared.db id ∨
      next.shared.db.statusOf id = some .failed ∧
        first.pool.shared.callbacks = initial.callbacks ∧ ∃ who, first.failing who := by
  rcases (Command.pool_step heeds.valid step).2 with beside | commits
  · exact .inl (.of_agreeAt (beside.books.agreeAt _))
  rcases commits.provides with retains | ⟨before, after, recorded⟩
  · exact .inl retains
  obtain ⟨who, held⟩ := locked_of_fails heeds.valid.inv step (fun same => by
    rw [before, after] at same
    cases same) recorded
  have failing := heeds.locked who held
  exact .inr ⟨after, heeds.early who failing, who, failing⟩

/-- A step that does not submit the payment. -/
theorem Attended.Heeds.keep (heeds : first.Heeds deployment id initial)
    (step : Pool.Step backend (surroundings (Command.Starts deployment (Command.Provides id)))
      first.pool next)
    (same : next.shared.callbacks = first.pool.shared.callbacks)
    (unsubmitted : ∀ who, FindsExhausted id first.pool next who →
      first.pool.shared.callbacks = initial.callbacks)
    (stages : ∀ who body, next.running who = some body → Stage id next.shared who body)
    (harmless : ∀ who body, next.running who = some body → ¬ first.failing who →
      ¬ FindsExhausted id first.pool next who → Harmless id next.shared who body)
    (locks : ∀ who, next.shared.rowLocks (.transaction id) = some who → first.failing who)
    (checked : ∀ who body, next.running who = some body → Forwards id body →
      ¬ (first.after id next).beside who → (∀ other, ¬ first.failing other) →
      first.pool.shared.db.statusOf id = some .processing) :
    (first.after id next).Heeds deployment id initial := by
  have valid := (Command.pool_step heeds.valid step).1
  have moves := heeds.moves step
  refine ⟨valid, stages, fun who body current unfailing => ?_, fun who held => ?_,
    fun who failing => ?_, fun who body current forwards prompt alone => ?_, ?_⟩
  · have alive : next.running who ≠ none := by
      rw [show next.running who = some body from current]
      exact fun absurd => by cases absurd
    exact harmless who body current (fun failing => unfailing ⟨alive, .inl failing⟩)
      fun finds => unfailing ⟨alive, .inr finds⟩
  · have alive : next.running who ≠ none :=
      fun ended => valid.inv.owned _ who held (valid.resting who ended)
    exact ⟨alive, .inl (locks who held)⟩
  · rcases failing.2 with failing | finds
    · exact same.trans (heeds.early who failing)
    · exact same.trans (unsubmitted who finds)
  · have nobody : ∀ other, ¬ first.failing other :=
      fun other failing => prompt (.inl ⟨other, failing⟩)
    rcases moves with retains | ⟨_, _, other, failing⟩
    · exact retains.status.trans (checked who body current forwards prompt nobody)
    · exact (nobody other failing).elim
  · rcases moves with retains | ⟨failed, unsent, _⟩
    · exact heeds.retained.imp (fun kept => kept.trans retains) fun ⟨failed, unsent⟩ =>
        ⟨retains.status.trans failed, same.trans unsent⟩
    · exact .inr ⟨failed, same.trans unsent⟩

/-- A step of one process that does not submit the payment. -/
theorem Attended.Heeds.move (heeds : first.Heeds deployment id initial) {world : World}
    {body : Option (Service Unit)}
    (step : Pool.Step backend (surroundings (Command.Starts deployment (Command.Provides id)))
      first.pool ⟨world, Function.update first.pool.running who body⟩)
    (same : world.callbacks = first.pool.shared.callbacks)
    (unsubmitted : ∀ other, FindsExhausted id first.pool
      ⟨world, Function.update first.pool.running who body⟩ other →
        first.pool.shared.callbacks = initial.callbacks)
    (sessions : ∀ other, other ≠ who → world.sessions other = first.pool.shared.sessions other)
    (locks : ∀ other, world.rowLocks (.transaction id) = some other → first.failing other)
    (stage : ∀ rest, body = some rest → Stage id world who rest)
    (harmless : ∀ rest, body = some rest → ¬ first.failing who →
      ¬ FindsExhausted id first.pool ⟨world, Function.update first.pool.running who body⟩ who →
      Harmless id world who rest)
    (checked : ∀ rest, body = some rest → Forwards id rest →
      ¬ (first.after id ⟨world, Function.update first.pool.running who body⟩).beside who →
      (∀ other, ¬ first.failing other) →
      first.pool.shared.db.statusOf id = some .processing) :
    (first.after id ⟨world, Function.update first.pool.running who body⟩).Heeds deployment id
      initial := by
  refine heeds.keep step same unsubmitted (fun other found current => ?_)
    (fun other found current unfailing finds => ?_) locks
    fun other found current forwards prompt alone => ?_
  all_goals
    change Function.update first.pool.running who body other = some found at current
    by_cases differs : other = who
  · subst differs
    rw [Function.update_self] at current
    exact stage found current
  · rw [Function.update_of_ne differs] at current
    exact (heeds.stages other found current).congr (sessions other differs)
  · subst differs
    rw [Function.update_self] at current
    exact harmless found current unfailing finds
  · rw [Function.update_of_ne differs] at current
    exact (heeds.harmless other found current unfailing).congr (sessions other differs)
  · subst differs
    rw [Function.update_self] at current
    exact checked found current forwards prompt alone
  · rw [Function.update_of_ne differs] at current
    exact heeds.checked other found current forwards
      (Attended.not_beside current forwards prompt).1 alone

/-- A call that does not submit the payment. -/
theorem Attended.Heeds.call (heeds : first.Heeds deployment id initial) {op : Operation}
    {rest : Except Failure op.Reply → Service Unit} (delivery : Delivery)
    (current : first.pool.running who = some (.call op rest))
    (step : Pool.Step backend (surroundings (Command.Starts deployment (Command.Provides id)))
      first.pool ⟨(World.exec who delivery op first.pool.shared).2,
        Function.update first.pool.running who
          (some (rest (World.exec who delivery op first.pool.shared).1))⟩)
    (same : (World.exec who delivery op first.pool.shared).2.callbacks =
      first.pool.shared.callbacks)
    (unsubmitted : ∀ other, FindsExhausted id first.pool
      ⟨(World.exec who delivery op first.pool.shared).2,
        Function.update first.pool.running who
          (some (rest (World.exec who delivery op first.pool.shared).1))⟩ other →
      first.pool.shared.callbacks = initial.callbacks) :
    (first.after id ⟨(World.exec who delivery op first.pool.shared).2,
      Function.update first.pool.running who
        (some (rest (World.exec who delivery op first.pool.shared).1))⟩).Heeds deployment id
      initial := by
  have valid := (Command.pool_step heeds.valid step).1
  have stage := heeds.stages who _ current
  refine heeds.move step same unsubmitted
    (fun other differs => World.exec_sessions differs delivery op) (fun other held => ?_)
    (fun body equal => ?_) (fun body equal unfailing finds => ?_)
    fun body equal forwards prompt nobody => ?_
  · by_cases own : other = who
    · subst own
      by_contra unfailing
      exact unfailing (heeds.locked _ ((heeds.harmless _ _ current unfailing).locks delivery
        (valid.inv.owned _ _ held) held))
    · exact heeds.locked _ (World.exec_foreign own delivery op held)
  · cases equal
    exact stage.exec delivery
  · cases equal
    rcases (heeds.harmless who _ current unfailing).exec delivery with
      harmless | ⟨jobId, reason, looks, exhausted, fails⟩
    · exact harmless
    · refine (finds ⟨jobId, reason, current.trans (congrArg some looks), exhausted, ?_⟩).elim
      exact (Function.update_self _ _ _).trans (congrArg some fails)
  · cases equal
    rcases stage with unattached | ⟨closed, checks | ahead | ⟨reference, rfl, unattached⟩⟩
    · exact (forwards.attached (unattached.2 _)).elim
    · obtain ⟨rfl, unattached | ⟨_, txn, found, eligible⟩⟩ := checks.exec closed delivery
      · exact (forwards.attached unattached).elim
      · unfold Database.statusOf
        rw [found, Option.map_some, eligible.1]
    · rcases @Forwards.exec id who first.pool.shared op rest ahead delivery with
        ⟨amount, currency, rfl, _⟩ | ⟨⟨ms, rfl⟩, _⟩
      · have called : first.pool.shared.callbacks ++ [_] = first.pool.shared.callbacks := same
        exact absurd (congrArg List.length called) (by simp)
      · exact heeds.checked who _ current ahead
          (Attended.not_beside current ahead prompt).1 nobody
    · exact (forwards.attached (unattached _)).elim

/-- A call of the provider finds nothing. -/
theorem not_finds_of_calling {pool : Pool ProcessId Failure Operation.Reply World}
    (calling : CallsProvider pool who) (delivery : Delivery) (other : ProcessId) :
    ¬ FindsExhausted id pool (Pool.play backend pool (.call who delivery)) other := by
  intro finds
  obtain ⟨amount, currency, rest, current⟩ := calling
  by_cases own : other = who
  · obtain ⟨jobId, reason, looks, _⟩ := finds
    rw [own, current] at looks
    cases looks
  · rw [Pool.play_call current delivery] at finds
    exact not_finds_of_same (Function.update_of_ne own _ _) finds

/-- Who was beside no handler since it read the row submits the payment. -/
theorem Attended.Heeds.submit (heeds : first.Heeds deployment id initial) (delivery : Delivery)
    (calling : CallsProvider first.pool who) (prompt : ¬ first.beside who)
    (alone : ∀ other, ¬ first.failing other) :
    (first.after id (Pool.play backend first.pool (.call who delivery))).Heeds deployment id
      initial := by
  have unfailing : ∀ other, ¬ (first.after id
      (Pool.play backend first.pool (.call who delivery))).failing other :=
    fun other failing => failing.2.elim (alone other) (not_finds_of_calling calling delivery other)
  obtain ⟨amount, currency, rest, current⟩ := calling
  let world := (World.exec who delivery (.scheduleCallback amount currency) first.pool.shared).2
  let reply := (World.exec who delivery (.scheduleCallback amount currency) first.pool.shared).1
  have played : Pool.play backend first.pool (.call who delivery) =
      ⟨world, Function.update first.pool.running who (some (rest reply))⟩ :=
    Pool.play_call current delivery
  rw [played] at unfailing ⊢
  have step : Pool.Step backend
      (surroundings (Command.Starts deployment (Command.Provides id))) first.pool
      ⟨world, Function.update first.pool.running who (some (rest reply))⟩ :=
    .call who delivery (Operation.scheduleCallback amount currency) rest current trivial
  have aside : first.pool.shared.Aside world := World.exec_neutral trivial
  have processing : world.db.statusOf id = some .processing := by
    rw [aside.db]
    exact heeds.checked who _ current (heeds.stages who _ current).forwards prompt alone
  refine ⟨(Command.pool_step heeds.valid step).1, fun other found there => ?_,
    fun other found there _ => ?_, fun other held => ?_,
    fun other failing => (unfailing other failing).elim, fun _ _ _ _ _ _ => processing, .inl ?_⟩
  · change Function.update first.pool.running who (some (rest reply)) other = some found at there
    by_cases own : other = who
    · subst own
      rw [Function.update_self] at there
      cases there
      exact (heeds.stages _ _ current).exec delivery
    · rw [Function.update_of_ne own] at there
      exact (heeds.stages other found there).congr (congrFun aside.sessions other)
  · change Function.update first.pool.running who (some (rest reply)) other = some found at there
    by_cases own : other = who
    · subst own
      rw [Function.update_self] at there
      cases there
      rcases (heeds.harmless _ _ current (alone _)).exec delivery with
        harmless | ⟨_, _, looks, _⟩
      · exact harmless
      · cases looks
    · rw [Function.update_of_ne own] at there
      exact (heeds.harmless other found there (alone other)).congr (congrFun aside.sessions other)
  · change world.rowLocks (.transaction id) = some other at held
    rw [aside.rowLocks] at held
    exact (alone other (heeds.locked other held)).elim
  · change initial.db.Retains world.db id
    rcases heeds.retained with kept | ⟨failed, _⟩
    · rw [aside.db]
      exact kept
    · rw [aside.db, failed] at processing
      cases processing

/-- Every step keeps the invariant. -/
theorem Attended.Heeds.step {second : Attended} (heeds : first.Heeds deployment id initial)
    (step : DeadLetterStep deployment id initial first second) :
    second.Heeds deployment id initial := by
  cases step with
  | submit who delivery calling prompt alone => exact heeds.submit delivery calling prompt alone
  | other step same unsubmitted =>
      cases step with
      | spawn who body free started =>
          have started : Command.Starts deployment (Command.Provides id) who body := started
          have closed := heeds.valid.resting who free
          obtain ⟨stage, harmless⟩ := started.provides
          refine heeds.move (.spawn who body free started) same unsubmitted (fun _ _ => rfl)
            heeds.locked (fun rest equal => ?_) (fun rest equal _ _ => ?_)
            fun rest equal forwards _ _ => ?_
          · cases equal
            exact stage.imp_right fun checks => ⟨closed, .inl checks⟩
          · cases equal
            exact .inr ⟨closed, harmless⟩
          · cases equal
            rcases stage with unattached | checks
            · exact (forwards.attached unattached).elim
            · exact (checks.not_forwards forwards).elim
      | call who choice op rest current ready =>
          exact heeds.call choice current (.call who choice op rest current ready) same unsubmitted
      | finish who ended =>
          exact heeds.move (.finish who ended) same unsubmitted (fun _ _ => rfl) heeds.locked
            (fun _ absurd => by cases absurd) (fun _ absurd => by cases absurd)
            fun _ absurd => by cases absurd
      | crash who alive =>
          refine heeds.move (.crash who alive) same unsubmitted
            (fun other differs => Function.update_of_ne differs _ _) (fun other held => ?_)
            (fun _ absurd => by cases absurd) (fun _ absurd => by cases absurd)
            fun _ absurd => by cases absurd
          exact heeds.locked other ((World.release_rowLocks _ _).mp held).1
      | drift next moved =>
          have aside : first.pool.shared.Aside next := World.Elapses.aside moved
          refine heeds.keep (.drift next moved) same unsubmitted
            (fun who body current => (heeds.stages who body current).congr
              (congrFun aside.sessions who))
            (fun who body current unfailing _ => (heeds.harmless who body current unfailing).congr
              (congrFun aside.sessions who))
            (fun who held => ?_) fun who body current forwards prompt nobody =>
              heeds.checked who body current forwards
                (Attended.not_beside current forwards prompt).1 nobody
          change next.rowLocks (.transaction id) = some who at held
          rw [aside.rowLocks] at held
          exact heeds.locked who held

end Steps

/-! ## The guarantee -/

/-- The pool before anything runs. -/
def Attended.quiet (initial : World) : Attended :=
  ⟨Pool.quiet initial, fun _ => False, fun _ => False⟩

theorem Attended.heeds_quiet {deployment : Deployment} {id : TransactionId} {initial : World}
    (rest : initial.AtRest) : (Attended.quiet initial).Heeds deployment id initial where
  valid := Setting.valid_quiet rest
  stages := fun _ _ absurd => by cases absurd
  harmless := fun _ _ absurd => by cases absurd
  locked := by
    intro who held
    change initial.rowLocks (.transaction id) = some who at held
    rw [rest.rowLocks] at held
    cases held
  early := fun _ absurd => absurd.elim
  checked := fun _ _ absurd => by cases absurd
  retained := .inl ⟨rfl, rfl⟩

/-- Where no handler finds a job of the payment exhausted once it was submitted, and no
attempt submits it that was beside such a handler since it read the row, a submitted
payment is neither failed nor compensated by the dead-letter handler. -/
theorem accepted_not_refunded (deployment : Deployment) (id : TransactionId) {initial : World}
    (rest : initial.AtRest) {last : Attended}
    (run : DeadLetterRun deployment id initial (Attended.quiet initial) last)
    (submitted : last.pool.shared.callbacks ≠ initial.callbacks) :
    last.pool.shared.db.statusOf id = initial.db.statusOf id ∧
      last.pool.shared.db.entriesOf id = initial.db.entriesOf id := by
  have heeds : last.Heeds deployment id initial := by
    clear submitted
    induction run with
    | refl => exact Attended.heeds_quiet rest
    | tail _ step ih => exact ih.step step
  rcases heeds.retained with retained | ⟨_, unsent⟩
  · exact ⟨retained.status, retained.entries⟩
  · exact (submitted unsent).elim

/-! ## Concrete runs -/

/-- Whether every entry of a schedule submits nothing and leaves no job exhausted. -/
def PendingAll : Pool ProcessId Failure Operation.Reply World →
    List (Pool.Move ProcessId Delivery Failure Operation.Reply) → Prop
  | _, [] => True
  | pool, move :: rest => (∀ job ∈ pool.shared.jobs.rows, job.attemptsMade < job.attempts) ∧
      (Pool.play backend pool move).shared.callbacks = pool.shared.callbacks ∧
      PendingAll (Pool.play backend pool move) rest

instance PendingAll.decidable : (pool : Pool ProcessId Failure Operation.Reply World) →
    (schedule : List (Pool.Move ProcessId Delivery Failure Operation.Reply)) →
    Decidable (PendingAll pool schedule)
  | _, [] => .isTrue trivial
  | pool, move :: rest =>
      have := PendingAll.decidable (Pool.play backend pool move) rest
      inferInstanceAs (Decidable (_ ∧ _))

/-- Nobody is failing the payment, or was beside somebody who did. -/
structure Attended.Calm (attended : Attended) : Prop where
  alone : ∀ who, ¬ attended.failing who
  prompt : ∀ who, ¬ attended.beside who

theorem Attended.calm_quiet (initial : World) : (Attended.quiet initial).Calm :=
  ⟨fun _ absurd => absurd, fun _ absurd => absurd⟩

theorem Attended.Calm.after {id : TransactionId} {first : Attended}
    {next : Pool ProcessId Failure Operation.Reply World} (calm : first.Calm)
    (unfound : ∀ who, ¬ FindsExhausted id first.pool next who) : (first.after id next).Calm where
  alone := fun who failing => failing.2.elim (calm.alone who) (unfound who)
  prompt := fun who beside => beside.elim (fun ⟨other, failing⟩ => calm.alone other failing)
    fun beside => calm.prompt who beside.2

/-- Such a schedule is a run, and keeps the calm. -/
theorem playAll_pending {deployment : Deployment} {id : TransactionId} {initial : World}
    (schedule : List (Pool.Move ProcessId Delivery Failure Operation.Reply)) {first : Attended}
    (playable : Pool.PlayableAll backend first.pool schedule)
    (pending : PendingAll first.pool schedule)
    (starts : ∀ who body, .spawn who body ∈ schedule →
      Command.Starts deployment (Command.Provides id) who body) (calm : first.Calm) :
    ∃ last, last.pool = Pool.playAll backend first.pool schedule ∧
      DeadLetterRun deployment id initial first last ∧ last.Calm := by
  induction schedule generalizing first with
  | nil => exact ⟨first, rfl, .refl, calm⟩
  | cons move rest ih =>
      obtain ⟨playable, later⟩ := playable
      obtain ⟨left, same, pending⟩ := pending
      have played : Pool.play backend first.pool move = first.pool ∨
          Pool.Step backend (surroundings (Command.Starts deployment (Command.Provides id)))
            first.pool (Pool.play backend first.pool move) :=
        Pool.play_step playable fun who body same => starts who body (same ▸ List.mem_cons_self)
      have starts : ∀ who body, .spawn who body ∈ rest →
          Command.Starts deployment (Command.Provides id) who body :=
        fun who body member => starts who body (List.mem_cons_of_mem _ member)
      rcases played with still | step
      · rw [still] at later pending
        obtain ⟨last, reached, run⟩ := ih later pending starts calm
        refine ⟨last, ?_, run⟩
        rw [reached]
        exact congrArg (Pool.playAll backend · rest) still.symm
      · have unfound : ∀ who,
            ¬ FindsExhausted id first.pool (Pool.play backend first.pool move) who := by
          rintro who ⟨jobId, reason, _, ⟨job, found, _, exhausted⟩, _⟩
          exact absurd (left job (Table.mem_of_get? found)) (by omega)
        obtain ⟨last, reached, run, calmly⟩ :=
          @ih (first.after id (Pool.play backend first.pool move)) later pending starts
            (calm.after unfound)
        exact ⟨last, reached, run.head (.other step same fun who finds =>
          (unfound who finds).elim), calmly⟩

/-- The turns of such a schedule. -/
theorem takeTurns_pending {deployment : Deployment} {id : TransactionId} {initial : World}
    {turns : List Turn} {first : Attended}
    {pool : Pool ProcessId Failure Operation.Reply World} (here : first.pool = pool)
    (calm : first.Calm) (playable : TurnsPlayable backend deployment turns pool)
    (pending : PendingAll pool (turns.flatMap (Turn.moves deployment)))
    (provides : ∀ turn ∈ turns, ∀ command ∈ turn.starts, command.Provides id) :
    ∃ last, last.pool = takeTurns backend deployment turns pool ∧
      DeadLetterRun deployment id initial first last ∧ last.Calm := by
  subst here
  refine playAll_pending _ playable pending (fun who body member => ?_) calm
  obtain ⟨turn, taken, command, started, rfl, rfl⟩ := starts_of_turns member
  exact ⟨command, provides turn taken command started, rfl⟩

/-- The handler finds a job that is not exhausted, and the job is attempted up to its
provider call. -/
def sampleAcceptance : List Turn :=
  [{ who := 1, starts := some (.onProviderJobExhausted (.serial 0) "failed") },
    { who := 0, starts := some (.process sampleJob), calls := 2 }]

theorem accepted_not_refunded_sample :
    let checked := takeTurns backend sampleDeployment sampleAcceptance (Pool.quiet createdWorld)
    let called := Pool.play backend checked (.call 0 .delivered)
    let last := takeTurns backend sampleDeployment [{ who := 0, calls := 2 }] called
    (last.shared.callbacks ≠ createdWorld.callbacks ∧ last.shared.db.referenceOf 0 = some 0) ∧
      last.shared.db.statusOf 0 = createdWorld.db.statusOf 0 ∧
      last.shared.db.entriesOf 0 = createdWorld.db.entriesOf 0 := by
  intro checked called last
  have submitted : last.shared.callbacks ≠ createdWorld.callbacks := by decide +kernel
  refine ⟨⟨submitted, by decide +kernel⟩, ?_⟩
  have calling : CallsProvider checked 0 := by decide +kernel
  have stores : TurnsPlayable backend sampleDeployment [{ who := 0, calls := 2 }] called := by
    decide +kernel
  have pending : PendingAll called
      ([({ who := 0, calls := 2 } : Turn)].flatMap (Turn.moves sampleDeployment)) := by
    decide +kernel
  have attempted : TurnsPlayable backend sampleDeployment sampleAcceptance
      (Pool.quiet createdWorld) := by
    decide +kernel
  obtain ⟨first, reached, before, calm⟩ : ∃ first, first.pool = checked ∧
      DeadLetterRun sampleDeployment 0 createdWorld (Attended.quiet createdWorld) first ∧
      first.Calm :=
    takeTurns_pending rfl (Attended.calm_quiet _) attempted (by decide +kernel) (by decide +kernel)
  clear_value checked
  subst reached
  obtain ⟨third, same, after, _⟩ : ∃ third, third.pool = last ∧
      DeadLetterRun sampleDeployment 0 createdWorld (first.after 0 called) third ∧ third.Calm :=
    takeTurns_pending rfl (calm.after (not_finds_of_calling calling .delivered)) stores pending
      (by decide +kernel)
  have run := (before.tail (.submit 0 .delivered calling (calm.prompt 0) calm.alone)).trans after
  clear_value last
  subst same
  exact accepted_not_refunded sampleDeployment 0 createdWorld_atRest run submitted

/-- An attempt that submits the payment and cannot store its reference. -/
def lostAttempt (who : ProcessId) : List Turn :=
  [{ who := who, starts := some (.process sampleJob), calls := 3 },
    { who := who, calls := 1, delivery := .lost }]

/-- All three attempts of the job. -/
def lostAttempts : List Turn := lostAttempt 0 ++ lostAttempt 1 ++ lostAttempt 2

/-- The provider has accepted a payment whose reference could not be stored, and the
dead-letter handler returns its money. -/
theorem exhaustion_refunds_accepted :
    ∃ (initial : World) (last : Pool ProcessId Failure Operation.Reply World), initial.AtRest ∧
      Pool.Steps backend (surroundings (Command.Starts sampleDeployment (Command.Provides 0)))
        (Pool.quiet initial) last ∧
      last.shared.callbacks ≠ initial.callbacks ∧
      initial.db.statusOf 0 = some .processing ∧ last.shared.db.statusOf 0 = some .failed ∧
      (last.shared.db.entriesOf 0).map LedgerEntry.isReversal = [false, true] := by
  let middle := takeTurns backend sampleDeployment lostAttempts (Pool.quiet createdWorld)
  let drifted : Pool ProcessId Failure Operation.Reply World :=
    ⟨middle.shared.giveUp, middle.running⟩
  let last := takeTurns backend sampleDeployment
    [{ who := 3, starts := some (.onProviderJobExhausted (.serial 0) "failed") }] drifted
  have attempts : Pool.Steps backend
      (surroundings (Command.Starts sampleDeployment (Command.Provides 0)))
      (Pool.quiet createdWorld) middle :=
    takeTurns_commands (by decide +kernel) (by decide +kernel)
  have handles : Pool.Steps backend
      (surroundings (Command.Starts sampleDeployment (Command.Provides 0))) drifted last :=
    takeTurns_commands (by decide +kernel) (by decide +kernel)
  have exhausts : Pool.Step backend
      (surroundings (Command.Starts sampleDeployment (Command.Provides 0))) middle drifted :=
    .drift _ middle.shared.giveUp_elapses
  exact ⟨createdWorld, last, createdWorld_atRest, (attempts.tail exhausts).trans handles,
    by decide +kernel⟩

end Payroute
