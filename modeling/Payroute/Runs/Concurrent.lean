import Payroute.Commits.Commands

/-! # Concurrent runs

Any number of operations run at the same time. Their calls interleave, every
call may fail before or after it took effect, a process may die between two of
its calls, Redis keys may lapse and time passes.
-/

namespace Payroute

open EffectSystem KeyedTable

/-- What happens beside the operations: time passes, Redis keys expire or lapse,
and the queue keeps its own books about its jobs. -/
structure World.Elapses (first second : World) : Prop where
  db : second.db = first.db
  sessions : second.sessions = first.sessions
  rowLocks : second.rowLocks = first.rowLocks
  next : second.next = first.next
  callbacks : second.callbacks = first.callbacks
  emitted : second.emitted = first.emitted
  journal : second.journal = first.journal
  clock : first.clock ≤ second.clock
  redisLocks : ∀ key, second.redisLocks key = first.redisLocks key ∨ second.redisLocks key = none
  cache : ∀ key, second.cache key = first.cache key ∨ second.cache key = none
  jobs : ∀ job ∈ second.jobs.rows, ∃ old ∈ first.jobs.rows,
    old.id = job.id ∧ old.data = job.data ∧ old.attempts = job.attempts

/-- Only time passes. -/
theorem World.Elapses.pass (world : World) {clock : Nat} (later : world.clock ≤ clock) :
    world.Elapses { world with clock := clock } where
  db := rfl
  sessions := rfl
  rowLocks := rfl
  next := rfl
  callbacks := rfl
  emitted := rfl
  journal := rfl
  clock := later
  redisLocks := fun _ => .inl rfl
  cache := fun _ => .inl rfl
  jobs := fun job member => ⟨job, member, rfl, rfl, rfl⟩

theorem World.Elapses.aside {first second : World} (elapses : first.Elapses second) :
    first.Aside second :=
  ⟨elapses.db, elapses.sessions, elapses.rowLocks, fun supply => by rw [elapses.next]⟩

/-- A pool whose processes may run the given programs. -/
def surroundings (starts : ProcessId → Service Unit → Prop) :
    Pool.Surroundings ProcessId Failure Operation.Reply World where
  start := starts
  crash := World.crash
  drift := World.Elapses

namespace Setting

/-- A setting in which every process may start at any time, and whose drift
covers the steps of all. -/
structure Shared (setting : Setting) (commit : Database → Database → Prop) : Prop where
  origin : ∀ db, setting.origin db
  floor : setting.floor = 0
  drifts : ∀ first second, first.Beside second ∨ commit first second → setting.drift first second

variable {setting : Setting} {commit : Database → Database → Prop}
  {starts : ProcessId → Service Unit → Prop}
  {concludes : ProcessId → Except Failure Unit → World → Prop}

/-- Programs that keep the contract may share a pool. -/
theorem Shared.compatible (shared : setting.Shared commit)
    (safe : ∀ who body, starts who body → ∀ world,
      setting.Outside commit who (concludes who) body world) :
    Pool.Compatible setting.machine (surroundings starts) (setting.contract commit)
      (fun who world => world.sessions who = none)
      (fun who => setting.Finishes who (concludes who)) where
  regular := setting.regular commit
  others := fun who other first second _ grant differs =>
    ⟨grant.frames other differs, shared.drifts _ _ grant.step⟩
  drift_inv := fun first second sound elapses => (World.Elapses.aside elapses).sound sound
  drift_rely := fun who first second _ elapses =>
    ⟨(World.Elapses.aside elapses).frame who, by rw [elapses.db]; exact setting.drift_refl _⟩
  crash_inv := fun who world sound => World.release_sound sound
  crash_idle := fun who world _ => Function.update_self _ _ _
  crash_rely := fun who other world _ differs =>
    ⟨World.release_frame differs, setting.drift_refl _⟩
  idle_rely := fun who first second idle rely => rely.frame.session.trans idle
  ended_idle := fun who outcome world finished => finished.1
  start_safe := fun who body world started sound idle => safe who body started world sound idle


end Setting

/-- Nothing runs, and identifiers not handed out are unused. -/
structure World.AtRest (world : World) : Prop where
  sessions : ∀ who, world.sessions who = none
  rowLocks : ∀ row, world.rowLocks row = none
  fresh : ∀ id, world.next .transaction ≤ id → world.db.transactions.get? id = none ∧
    world.db.entriesOf id = [] ∧ world.db.historyOf id = []
  below : world.db.Below world.next

theorem World.AtRest.sound {world : World} (rest : world.AtRest) : world.Sound where
  covered := by
    intro who session opened
    rw [rest.sessions] at opened
    cases opened
  solvent := by
    intro who session opened
    rw [rest.sessions] at opened
    cases opened
  owned := by
    intro row who held
    rw [rest.rowLocks] at held
    cases held
  fresh := by
    intro id beyond
    obtain ⟨absent, entries, history⟩ := rest.fresh id beyond
    exact ⟨absent, entries, history, rest.rowLocks _⟩
  numbered := by
    refine ⟨rest.below, fun who session opened => ?_, fun who session opened => ?_⟩
    · rw [rest.sessions] at opened
      cases opened
    · rw [rest.sessions] at opened
      cases opened

namespace Setting

variable {setting : Setting} {commit : Database → Database → Prop}
  {starts : ProcessId → Service Unit → Prop}
  {concludes : ProcessId → Except Failure Unit → World → Prop}

/-- What a pool of programs that keep the contract satisfies. -/
abbrev Valid (setting : Setting) (commit : Database → Database → Prop)
    (concludes : ProcessId → Except Failure Unit → World → Prop)
    (pool : Pool ProcessId Failure Operation.Reply World) : Prop :=
  Pool.Valid setting.machine (setting.contract commit) (fun who world => world.sessions who = none)
    (fun who => setting.Finishes who (concludes who)) pool

theorem valid_quiet {initial : World} (rest : initial.AtRest) :
    setting.Valid commit concludes (Pool.quiet initial) :=
  Pool.valid_quiet rest.sound rest.sessions

/-- A property of the committed tables that every commit keeps holds in every
state a pool reaches. -/
theorem Shared.keeps (shared : setting.Shared commit)
    (safe : ∀ who body, starts who body → ∀ world,
      setting.Outside commit who (concludes who) body world) (property : Database → Prop)
    (beside : ∀ first second, first.Beside second → property first → property second)
    (commits : ∀ first second, commit first second → first.Solvent second → property first →
      property second)
    {pool last : Pool ProcessId Failure Operation.Reply World}
    (valid : setting.Valid commit concludes pool) (holds : property pool.shared.db)
    (steps : Pool.Steps setting.machine (surroundings starts) pool last) :
    property last.shared.db := by
  refine Pool.Valid.keeps (shared.compatible safe) (fun world => property world.db) ?_ valid holds
    steps
  intro first second _ _ held change
  cases change with
  | none state => exact held
  | guaranteed who grant =>
      rcases grant.step with side | committed
      · exact beside _ _ side held
      · exact commits _ _ committed grant.solvent held
  | drifted elapses =>
      rw [World.Elapses.db elapses]
      exact held
  | crashed who state => exact held

/-- Nothing is ruled out. -/
def Unguarded (setting : Setting) : Prop := ∀ who op world, setting.Issues who op world

/-- Where nothing is ruled out, the steps of the backend are those of the setting. -/
theorem steps_of_backend (unguarded : setting.Unguarded)
    {around : Pool.Surroundings ProcessId Failure Operation.Reply World}
    {pool last : Pool ProcessId Failure Operation.Reply World}
    (steps : Pool.Steps backend around pool last) :
    Pool.Steps setting.machine around pool last := by
  refine Relation.ReflTransGen.mono ?_ pool last steps
  intro first second step
  cases step with
  | spawn who body free started => exact .spawn who body free started
  | call who choice op next current ready =>
      exact Pool.Step.call (M := setting.machine) who choice op next current
        ⟨ready, unguarded _ _ _⟩
  | finish who ended => exact .finish who ended
  | crash who alive => exact .crash who alive
  | drift next moved => exact .drift next moved

end Setting

/-- A setting in which anything may happen and the given calls are ruled out. -/
def guarded (permits : Database → Operation → Prop)
    (dated : Nat → Database → Operation → Prop := fun _ _ _ => True) : Setting where
  origin := fun _ => True
  drift := fun _ _ => True
  later := fun _ _ => True
  floor := 0
  permits := permits
  holds := fun _ => True
  dated := dated
  drift_refl := fun _ => trivial
  drift_trans := fun _ _ _ _ _ => trivial
  origin_drift := fun _ _ _ _ => trivial
  later_drift := fun _ _ _ => trivial
  later_side := fun _ _ _ => trivial
  later_trans := fun _ _ _ _ _ => trivial

/-- Where every state of a guarded run is one the setting knows of, its steps are those
of the setting. -/
theorem Setting.steps_of_guarded {setting : Setting}
    {around : Pool.Surroundings ProcessId Failure Operation.Reply World}
    {pool last : Pool ProcessId Failure Operation.Reply World}
    (known : ∀ middle,
      Pool.Steps (guarded setting.permits setting.dated).machine around pool middle →
      Pool.Steps (guarded setting.permits setting.dated).machine around middle last →
      setting.holds middle.shared.db ∧ setting.timely middle.shared.clock)
    (steps : Pool.Steps (guarded setting.permits setting.dated).machine around pool last) :
    Pool.Steps setting.machine around pool last := by
  induction steps using Relation.ReflTransGen.head_induction_on with
  | refl => exact .refl
  | head step rest ih =>
      refine .head ?_ (ih fun middle earlier later => known middle (.head step earlier) later)
      obtain ⟨holds, timely⟩ := known _ .refl (.head step rest)
      cases step with
      | spawn who body free started => exact .spawn who body free started
      | call who choice op next current ready =>
          exact Pool.Step.call (M := setting.machine) who choice op next current
            ⟨ready.1, ready.2.permits, holds, timely, ready.2.dated⟩
      | finish who ended => exact .finish who ended
      | crash who alive => exact .crash who alive
      | drift next moved => exact .drift next moved

instance (permits : Database → Operation → Prop) [∀ view op, Decidable (permits view op)]
    (dated : Nat → Database → Operation → Prop) [∀ now seen op, Decidable (dated now seen op)]
    (who : ProcessId) (op : Operation) (world : World) :
    Decidable ((guarded permits dated).Issues who op world) :=
  decidable_of_iff (permits (world.view who) op ∧ dated (world.session who).now (world.base who) op)
    ⟨fun ⟨permitted, dated⟩ => ⟨permitted, trivial, trivial, dated⟩,
      fun issues => ⟨issues.permits, issues.dated⟩⟩

instance (permits : Database → Operation → Prop) [∀ view op, Decidable (permits view op)]
    (dated : Nat → Database → Operation → Prop) [∀ now seen op, Decidable (dated now seen op)]
    (who : ProcessId) (choice : Delivery) (op : Operation) (world : World) :
    Decidable ((guarded permits dated).machine.ready who choice op world) :=
  inferInstanceAs (Decidable (world.Ready who op ∧ (guarded permits dated).Issues who op world))

/-- The setting in which nothing is ruled out. -/
def concurrent : Setting := guarded fun _ _ => True

theorem concurrent_unguarded : concurrent.Unguarded :=
  fun _ _ _ => ⟨trivial, trivial, trivial, trivial⟩

theorem guarded_shared (permits : Database → Operation → Prop)
    (commit : Database → Database → Prop)
    (dated : Nat → Database → Operation → Prop := fun _ _ _ => True) :
    (guarded permits dated).Shared commit where
  origin := fun _ => trivial
  floor := rfl
  drifts := fun _ _ _ => trivial

/-- The programs of a family of operations. -/
def Command.Starts (deployment : Deployment) (admitted : Command → Prop) (_who : ProcessId)
    (body : Service Unit) : Prop :=
  ∃ command, admitted command ∧ body = command.program deployment

/-- The commits of a family of operations. -/
def Command.CommitsOf (setting : Setting) (deployment : Deployment) (admitted : Command → Prop)
    (first second : Database) : Prop :=
  ∃ command, admitted command ∧ command.Commits setting deployment first second

/-- The operations keep the contract wherever they may start. -/
theorem Command.starts_outside {setting : Setting} {deployment : Deployment}
    {admitted : Command → Prop} {commit : Database → Database → Prop}
    (shared : setting.Shared commit)
    (included : ∀ first second, Command.CommitsOf setting deployment admitted first second →
      commit first second)
    (who : ProcessId) (body : Service Unit)
    (started : Command.Starts deployment admitted who body) (world : World) :
    setting.Outside commit who (fun _ _ => True) body world := by
  obtain ⟨command, allowed, rfl⟩ := started
  refine (Command.outside deployment command (shared.origin _) ?_
    fun first second commits => included first second ⟨command, allowed, commits⟩).mono
      fun _ _ _ => trivial
  rw [shared.floor]
  exact Nat.zero_le _

/-- A step of concurrent operations leaves the books alone or makes one of their commits. -/
theorem Command.pool_step {deployment : Deployment} {admitted : Command → Prop}
    {first second : Pool ProcessId Failure Operation.Reply World}
    (valid : concurrent.Valid (Command.CommitsOf concurrent deployment admitted)
      (fun _ _ _ => True) first)
    (step : Pool.Step backend (surroundings (Command.Starts deployment admitted)) first second) :
    concurrent.Valid (Command.CommitsOf concurrent deployment admitted) (fun _ _ _ => True) second ∧
      (first.shared.db.Beside second.shared.db ∨
        Command.CommitsOf concurrent deployment admitted first.shared.db second.shared.db) := by
  have shared := guarded_shared (fun _ _ => True)
    (Command.CommitsOf concurrent deployment admitted)
  have compatible := shared.compatible (Command.starts_outside shared fun _ _ made => made)
  have issued : Pool.Step concurrent.machine (surroundings (Command.Starts deployment admitted))
      first second := by
    cases step with
    | spawn who body free started => exact .spawn who body free started
    | call who choice op next current ready =>
        exact Pool.Step.call (M := concurrent.machine) who choice op next current
          ⟨ready, concurrent_unguarded _ _ _⟩
    | finish who ended => exact .finish who ended
    | crash who alive => exact .crash who alive
    | drift next moved => exact .drift next moved
  obtain ⟨kept, changed⟩ := valid.step compatible issued
  refine ⟨kept, ?_⟩
  clear kept issued step
  generalize second.shared = last at changed ⊢
  cases changed with
  | none state => exact .inl (.refl _)
  | guaranteed who granted => exact granted.step
  | drifted elapses =>
      rw [World.Elapses.db elapses]
      exact .inl (.refl _)
  | crashed who state => exact .inl (.refl _)

/-- A property of the committed tables that the commits of the operations keep
holds in every state their concurrent runs reach. -/
theorem Command.pool_keeps {permits : Database → Operation → Prop} {deployment : Deployment}
    {admitted : Command → Prop} (property : Database → Prop)
    (beside : ∀ first second, first.Beside second → property first → property second)
    (commits : ∀ command first second, admitted command →
      command.Commits (guarded permits) deployment first second → first.Solvent second →
      property first → property second)
    {pool last : Pool ProcessId Failure Operation.Reply World}
    (valid : (guarded permits).Valid
      (Command.CommitsOf (guarded permits) deployment admitted) (fun _ _ _ => True) pool)
    (holds : property pool.shared.db)
    (steps : Pool.Steps (guarded permits).machine
      (surroundings (Command.Starts deployment admitted)) pool last) :
    property last.shared.db := by
  have shared := guarded_shared permits (Command.CommitsOf (guarded permits) deployment admitted)
  refine shared.keeps (Command.starts_outside shared fun _ _ made => made) property beside ?_ valid
    holds steps
  rintro first second ⟨command, allowed, made⟩ solvent held
  exact commits command first second allowed made solvent held

end Payroute
