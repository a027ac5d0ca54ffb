import Payroute.Runs.Attempts
import Payroute.Runs.Solo

/-! # One submission per payment

An attempt checks that its payment has no reference, submits it and stores the
returned reference, without a lock between the check and the store. The check is
enough in every run in which the provider is called only by attempts that nothing
overtook: no other attempt has called it since they read the row, and when they read it
no returned reference was on its way to the row or had been lost.
-/

namespace Payroute

open EffectSystem KeyedTable

/-- The attempts of the jobs of one payment, and everything else but attempts. -/
def Command.Serves (id : TransactionId) (command : Command) : Prop :=
  ∀ data, command = .process data → data.transactionId = id

/-- A reference was about to be stored, and is neither stored nor about to be. -/
def Loses (id : TransactionId)
    (first second : Pool ProcessId Failure Operation.Reply World) : Prop :=
  ∃ who reference, Holding id first who reference ∧ ¬ Holding id second who reference ∧
    second.shared.db.referenceOf id ≠ some reference

/-- A pool, whether a reference of the payment was lost before, and which processes were
overtaken since they read its row. -/
structure Watched where
  pool : Pool ProcessId Failure Operation.Reply World
  lost : Prop
  overtaken : ProcessId → Prop

/-- A returned reference is on its way to the row, or was lost. -/
def Watched.Unsettled (id : TransactionId) (watched : Watched) : Prop :=
  watched.lost ∨ ∃ who reference, Holding id watched.pool who reference

/-- The state after a step. A process that reads the row is overtaken if a reference is
on its way or lost; any other one if the provider is called. -/
def Watched.after (id : TransactionId) (first : Watched)
    (next : Pool ProcessId Failure Operation.Reply World) : Watched where
  pool := next
  lost := first.lost ∨ Loses id first.pool next
  overtaken := fun who => Reading id first.pool who ∧ first.Unsettled id ∨
    ¬ Reading id first.pool who ∧
      (first.overtaken who ∨ next.shared.callbacks ≠ first.pool.shared.callbacks)

/-- A step in which the provider is called only by a process that was not overtaken. -/
inductive SubmissionStep (deployment : Deployment) (id : TransactionId) : Watched → Watched → Prop
  | submit {first : Watched} (who : ProcessId) (delivery : Delivery)
      (calling : CallsProvider first.pool who) (prompt : ¬ first.overtaken who) :
      SubmissionStep deployment id first
        (first.after id (Pool.play backend first.pool (.call who delivery)))
  | other {first : Watched} {next : Pool ProcessId Failure Operation.Reply World}
      (step : Pool.Step backend (surroundings (Command.Starts deployment (Command.Serves id)))
        first.pool next)
      (same : next.shared.callbacks = first.pool.shared.callbacks) :
      SubmissionStep deployment id first (first.after id next)

/-- Any number of such steps. -/
abbrev SubmissionRun (deployment : Deployment) (id : TransactionId) : Watched → Watched → Prop :=
  Relation.ReflTransGen (SubmissionStep deployment id)

/-- The programs that start in the pool. -/
theorem Command.Starts.early {deployment : Deployment} {id : TransactionId} {who : ProcessId}
    {body : Service Unit} (started : Command.Starts deployment (Command.Serves id) who body) :
    Unattached body ∨ Checks id body := by
  obtain ⟨command, serves, rfl⟩ := started
  by_cases attempt : ∃ data, command = .process data
  · obtain ⟨data, rfl⟩ := attempt
    exact .inr (checks_process (serves data rfl))
  · exact .inl (Command.unattached deployment fun data same => attempt ⟨data, same⟩)

/-! ## The invariant -/

/-- No reference was stored, is about to be stored or was lost. -/
structure Watched.Unreferenced (id : TransactionId) (watched : Watched) : Prop where
  stored : watched.pool.shared.db.referenceOf id = none
  settled : ¬ watched.Unsettled id

/-- What every state of a run satisfies: at most one process is about to store a
reference, while none is stored; before the payment is submitted none is lost either, and
afterwards one is stored, about to be stored, or lost. A process that is about to submit
the payment and was not overtaken has seen that there is none. -/
structure Watched.Once (deployment : Deployment) (id : TransactionId) (initial : World)
    (watched : Watched) : Prop where
  valid : concurrent.Valid (Command.CommitsOf concurrent deployment (Command.Serves id))
    (fun _ _ _ => True) watched.pool
  referenced : watched.pool.shared.Referenced id
  stages : ∀ who body, watched.pool.running who = some body → Stage id watched.pool.shared who body
  single : ∀ who reference, Holding id watched.pool who reference →
    watched.pool.shared.db.referenceOf id = none ∧
      ∀ other another, Holding id watched.pool other another → other = who
  counted : watched.pool.shared.callbacks.length = initial.callbacks.length ∧
      ¬ watched.Unsettled id ∨
    watched.pool.shared.callbacks.length = initial.callbacks.length + 1 ∧
      ¬ watched.Unreferenced id
  checked : ∀ who body, watched.pool.running who = some body → Forwards id body →
    ¬ watched.overtaken who → watched.Unreferenced id

section Steps

variable {deployment : Deployment} {id : TransactionId} {initial : World} {first : Watched}
  {next : Pool ProcessId Failure Operation.Reply World} {who : ProcessId}
  {reference : ProviderReference}

theorem Watched.Unreferenced.held (unreferenced : first.Unreferenced id) (who : ProcessId)
    (reference : ProviderReference) : ¬ Holding id first.pool who reference :=
  fun held => unreferenced.settled (.inr ⟨who, reference, held⟩)

/-- A step that stores nothing and after which nobody is about to store a reference leaves
the payment unreferenced. -/
theorem Watched.Unreferenced.after (unreferenced : first.Unreferenced id)
    (same : next.shared.db.referenceOf id = first.pool.shared.db.referenceOf id)
    (nobody : ∀ who reference, ¬ Holding id next who reference) :
    (first.after id next).Unreferenced id where
  stored := same.trans unreferenced.stored
  settled := by
    rintro ((lost | ⟨who, reference, held, _⟩) | ⟨who, reference, held⟩)
    · exact unreferenced.settled (.inl lost)
    · exact unreferenced.held who reference held
    · exact nobody who reference held

/-- A step that leaves an unreferenced payment so. -/
theorem Watched.Unreferenced.before (unreferenced : (first.after id next).Unreferenced id)
    (same : next.shared.db.referenceOf id = first.pool.shared.db.referenceOf id)
    (holding : ∀ who reference,
      Holding id first.pool who reference → Holding id next who reference) :
    first.Unreferenced id where
  stored := same.symm.trans unreferenced.stored
  settled := by
    rintro (lost | ⟨who, reference, held⟩)
    · exact unreferenced.settled (.inl (.inl lost))
    · exact unreferenced.settled (.inr ⟨who, reference, holding who reference held⟩)

/-- A process that is about to submit the payment is overtaken by a step that calls the
provider. -/
theorem Watched.not_overtaken {body : Service Unit} (current : first.pool.running who = some body)
    (forwards : Forwards id body) (prompt : ¬ (first.after id next).overtaken who) :
    ¬ first.overtaken who ∧ next.shared.callbacks = first.pool.shared.callbacks := by
  have reads := forwards.not_reading current
  refine ⟨fun overtaken => prompt (.inr ⟨reads, .inl overtaken⟩), ?_⟩
  by_contra called
  exact prompt (.inr ⟨reads, .inr called⟩)

/-- A step that neither submits nor stores anything. -/
theorem Watched.Once.keep (once : first.Once deployment id initial)
    (valid : concurrent.Valid (Command.CommitsOf concurrent deployment (Command.Serves id))
      (fun _ _ _ => True) next)
    (referenced : next.shared.Referenced id)
    (stages : ∀ who body, next.running who = some body → Stage id next.shared who body)
    (same : next.shared.db.referenceOf id = first.pool.shared.db.referenceOf id)
    (callbacks : next.shared.callbacks = first.pool.shared.callbacks)
    (holding : ∀ who reference,
      Holding id next who reference ↔ Holding id first.pool who reference)
    (checked : ∀ who body, next.running who = some body → Forwards id body →
      ¬ (first.after id next).overtaken who → first.Unreferenced id) :
    (first.after id next).Once deployment id initial where
  valid := valid
  referenced := referenced
  stages := stages
  single := by
    intro who reference held
    change next.shared.db.referenceOf id = none ∧ _
    rw [same]
    obtain ⟨free, alone⟩ := once.single who reference ((holding _ _).mp held)
    exact ⟨free, fun other another holds => alone other another ((holding _ _).mp holds)⟩
  counted := by
    change next.shared.callbacks.length = _ ∧ _ ∨ next.shared.callbacks.length = _ ∧ _
    rw [callbacks]
    refine once.counted.imp (fun none => ⟨none.1, ?_⟩) fun submitted =>
      ⟨submitted.1, fun unreferenced => submitted.2 (unreferenced.before same
        fun who reference held => (holding who reference).mpr held)⟩
    rintro ((lost | ⟨who, reference, held, _⟩) | ⟨who, reference, held⟩)
    · exact none.2 (.inl lost)
    · exact none.2 (.inr ⟨who, reference, held⟩)
    · exact none.2 (.inr ⟨who, reference, (holding who reference).mp held⟩)
  checked := by
    intro who body current forwards prompt
    have unreferenced := checked who body current forwards prompt
    exact unreferenced.after same fun other another held =>
      unreferenced.held other another ((holding other another).mp held)

/-- The others' programs after a step of one process. -/
theorem Watched.Once.others (once : first.Once deployment id initial) {world : World}
    {body : Option (Service Unit)}
    (sessions : ∀ other, other ≠ who → world.sessions other = first.pool.shared.sessions other)
    (own : ∀ rest, body = some rest → Stage id world who rest) (other : ProcessId)
    (found : Service Unit)
    (current : Function.update first.pool.running who body other = some found) :
    Stage id world other found := by
  by_cases same : other = who
  · subst same
    rw [Function.update_self] at current
    exact own found current
  · rw [Function.update_of_ne same] at current
    exact (once.stages other found current).congr (sessions other same)

/-- Who is about to submit the payment after a step of one process, and was not
overtaken, has seen that it has no reference. -/
theorem Watched.Once.prompt (once : first.Once deployment id initial) {world : World}
    {body : Option (Service Unit)}
    (own : ∀ rest, body = some rest → Forwards id rest →
      ¬ (first.after id ⟨world, Function.update first.pool.running who body⟩).overtaken who →
        first.Unreferenced id)
    (other : ProcessId) (found : Service Unit)
    (current : Function.update first.pool.running who body other = some found)
    (forwards : Forwards id found)
    (prompt : ¬ (first.after id
      ⟨world, Function.update first.pool.running who body⟩).overtaken other) :
    first.Unreferenced id := by
  by_cases same : other = who
  · subst same
    rw [Function.update_self] at current
    exact own found current forwards prompt
  · rw [Function.update_of_ne same] at current
    exact once.checked other found current forwards (not_overtaken current forwards prompt).1

/-- Who is about to store a reference after a step of one process. -/
theorem holding_update {pool : Pool ProcessId Failure Operation.Reply World} {world : World}
    {body : Option (Service Unit)}
    (before : ∀ reference, ¬ Holding id pool who reference)
    (after : ∀ rest, body = some rest → Unattached rest ∨ Checks id rest ∨ Forwards id rest)
    (other : ProcessId) (reference : ProviderReference) :
    Holding id ⟨world, Function.update pool.running who body⟩ other reference ↔
      Holding id pool other reference := by
  change (∃ next, Function.update pool.running who body other = some _) ↔ _
  by_cases same : other = who
  · subst same
    rw [Function.update_self]
    constructor
    · intro held
      obtain ⟨rest, current⟩ := held
      exact (not_storing (after _ current) rfl).elim
    · exact fun held => (before reference held).elim
  · rw [Function.update_of_ne same]
    exact Iff.rfl

/-- A step of one process that does not submit the payment. A process that was about to
store a reference stores or loses it. -/
theorem Watched.Once.move (once : first.Once deployment id initial) {world : World}
    {body : Option (Service Unit)}
    (valid : concurrent.Valid (Command.CommitsOf concurrent deployment (Command.Serves id))
      (fun _ _ _ => True) ⟨world, Function.update first.pool.running who body⟩)
    (referenced : world.Referenced id)
    (sessions : ∀ other, other ≠ who → world.sessions other = first.pool.shared.sessions other)
    (callbacks : world.callbacks = first.pool.shared.callbacks)
    (reference : world.db.referenceOf id = first.pool.shared.db.referenceOf id ∨
      ∃ stored, Holding id first.pool who stored ∧ world.db.referenceOf id = some stored)
    (own : ∀ rest, body = some rest → Stage id world who rest)
    (early : ∀ rest, body = some rest → Unattached rest ∨ Checks id rest ∨ Forwards id rest)
    (prompt : ∀ rest, body = some rest → Forwards id rest →
      ¬ (first.after id ⟨world, Function.update first.pool.running who body⟩).overtaken who →
        first.Unreferenced id) :
    (first.after id ⟨world, Function.update first.pool.running who body⟩).Once deployment id
      initial := by
  have stages := once.others sessions own
  by_cases holds : ∃ reference, Holding id first.pool who reference
  · obtain ⟨held, holds⟩ := holds
    obtain ⟨free, alone⟩ := once.single who held holds
    have nobody : ∀ other another,
        ¬ Holding id ⟨world, Function.update first.pool.running who body⟩ other another := by
      intro other another ⟨rest, current⟩
      change Function.update first.pool.running who body other = _ at current
      by_cases same : other = who
      · rw [same, Function.update_self] at current
        exact not_storing (early _ current) rfl
      · rw [Function.update_of_ne same] at current
        exact same (alone other another ⟨rest, current⟩)
    refine ⟨valid, referenced, stages, fun other another holds => (nobody other another holds).elim,
      ?_, fun other found current forwards ahead => ?_⟩
    · refine once.counted.elim (fun none => (none.2 (.inr ⟨who, held, holds⟩)).elim)
        fun submitted => .inr ⟨(congrArg List.length callbacks).trans submitted.1,
          fun unreferenced => unreferenced.settled (.inl (.inr ⟨who, held, holds, nobody who held,
            ?_⟩))⟩
      have stored : world.db.referenceOf id = none := unreferenced.stored
      change world.db.referenceOf id ≠ some held
      rw [stored]
      exact fun absurd => by cases absurd
    · have unreferenced := once.prompt prompt other found current forwards ahead
      exact (unreferenced.held who held holds).elim
  · have same : world.db.referenceOf id = first.pool.shared.db.referenceOf id := by
      rcases reference with same | ⟨stored, held, _⟩
      · exact same
      · exact (holds ⟨stored, held⟩).elim
    exact once.keep valid referenced stages same callbacks
      (holding_update (fun reference held => holds ⟨reference, held⟩) early) (once.prompt prompt)

/-- A stored reference stays. -/
theorem Watched.Once.stored (once : first.Once deployment id initial) {world : World}
    (changes : world.db.referenceOf id = first.pool.shared.db.referenceOf id ∨
      ∃ stored, Holding id first.pool who stored ∧ world.db.referenceOf id = some stored)
    (there : first.pool.shared.db.referenceOf id = some reference) :
    world.db.referenceOf id = some reference := by
  rcases changes with same | ⟨stored, held, _⟩
  · exact same.trans there
  · rw [(once.single who stored held).1] at there
    cases there

/-- Calling the provider. -/
theorem Watched.Once.submit (once : first.Once deployment id initial)
    (unreferenced : first.Unreferenced id) {world : World} {body : Service Unit}
    {returned : ProviderReference}
    (valid : concurrent.Valid (Command.CommitsOf concurrent deployment (Command.Serves id))
      (fun _ _ _ => True) ⟨world, Function.update first.pool.running who (some body)⟩)
    (aside : first.pool.shared.Aside world)
    (callbacks : world.callbacks.length = first.pool.shared.callbacks.length + 1)
    (closed : world.sessions who = none) (stores : Stores id returned body) :
    (first.after id ⟨world, Function.update first.pool.running who (some body)⟩).Once deployment id
      initial := by
  have holds : Holding id ⟨world, Function.update first.pool.running who (some body)⟩ who
      returned := by
    cases body with
    | call op next =>
        obtain ⟨rfl, _⟩ := stores
        exact ⟨next, Function.update_self _ _ _⟩
    | ret _ => exact stores.elim
    | fail _ => exact stores.elim
  refine ⟨valid, once.referenced.aside aside, ?_, ?_, ?_, ?_⟩
  · refine once.others (fun other _ => congrFun aside.sessions other) fun rest same => ?_
    cases same
    exact .inr ⟨closed, .inr (.inr ⟨returned, stores⟩)⟩
  · intro other another held
    have free : world.db.referenceOf id = none := by
      rw [aside.db]
      exact unreferenced.stored
    refine ⟨free, fun third any heldThird => ?_⟩
    have own : ∀ process reference,
        Holding id ⟨world, Function.update first.pool.running who (some body)⟩ process reference →
        process = who := by
      intro process reference ⟨rest, current⟩
      by_contra differs
      change Function.update first.pool.running who (some body) process = _ at current
      rw [Function.update_of_ne differs] at current
      exact unreferenced.held process reference ⟨rest, current⟩
    rw [own third any heldThird, own other another held]
  · refine .inr ⟨?_, fun absurd => absurd.held who returned holds⟩
    rcases once.counted with none | ⟨_, referenced⟩
    · exact callbacks.trans (congrArg (· + 1) none.1)
    · exact (referenced unreferenced).elim
  · intro other found current forwards prompt
    change Function.update first.pool.running who (some body) other = some found at current
    by_cases same : other = who
    · subst same
      rw [Function.update_self] at current
      cases current
      cases body with
      | call op next =>
          obtain ⟨rfl, _⟩ := stores
          exact forwards.elim
      | ret _ => exact forwards.elim
      | fail _ => exact forwards.elim
    · rw [Function.update_of_ne same] at current
      have uncalled : world.callbacks = first.pool.shared.callbacks :=
        (Watched.not_overtaken current forwards prompt).2
      rw [uncalled] at callbacks
      omega

/-- The call of a process is not one of the provider's. -/
theorem Watched.Once.aloof (once : first.Once deployment id initial) (delivery : Delivery)
    {op : Operation} {rest : Except Failure op.Reply → Service Unit} (unattached : op.Unattached)
    (valid : concurrent.Valid (Command.CommitsOf concurrent deployment (Command.Serves id))
      (fun _ _ _ => True) ⟨(World.exec who delivery op first.pool.shared).2,
        Function.update first.pool.running who
          (some (rest (World.exec who delivery op first.pool.shared).1))⟩)
    (own : Unattached (rest (World.exec who delivery op first.pool.shared).1) ∨
      (World.exec who delivery op first.pool.shared).2.sessions who = none ∧
        Forwards id (rest (World.exec who delivery op first.pool.shared).1))
    (prompt : Forwards id (rest (World.exec who delivery op first.pool.shared).1) →
      ¬ (first.after id ⟨(World.exec who delivery op first.pool.shared).2,
        Function.update first.pool.running who
          (some (rest (World.exec who delivery op first.pool.shared).1))⟩).overtaken who →
        first.Unreferenced id) :
    let next : Pool ProcessId Failure Operation.Reply World :=
      ⟨(World.exec who delivery op first.pool.shared).2, Function.update first.pool.running who
        (some (rest (World.exec who delivery op first.pool.shared).1))⟩
    (first.after id next).Once deployment id initial ∧
      ∀ reference, first.pool.shared.db.referenceOf id = some reference →
        next.shared.db.referenceOf id = some reference := by
  intro next
  obtain ⟨same, referenced, callbacks⟩ :=
    once.referenced.exec who once.valid.inv delivery unattached
  refine ⟨?_, fun reference there => same.trans there⟩
  refine once.move valid referenced (fun other differs => World.exec_sessions differs delivery op)
    callbacks (.inl same) (fun body equal => ?_) (fun body equal => ?_) fun body equal => ?_
  · cases equal
    exact own.imp_right fun ⟨closed, forwards⟩ => ⟨closed, .inr (.inl forwards)⟩
  · cases equal
    exact own.imp_right fun ⟨_, forwards⟩ => .inr forwards
  · cases equal
    exact prompt

/-- A process that was not overtaken calls the provider. -/
theorem Watched.Once.called (once : first.Once deployment id initial) (delivery : Delivery)
    (calling : CallsProvider first.pool who) (prompt : ¬ first.overtaken who) :
    (first.after id (Pool.play backend first.pool (.call who delivery))).Once deployment id
        initial ∧ first.pool.shared.db.referenceOf id = none := by
  obtain ⟨amount, currency, rest, current⟩ := calling
  rw [Pool.play_call current]
  have ready : backend.ready who delivery (.scheduleCallback amount currency)
    first.pool.shared := trivial
  have step : Pool.Step backend
      (surroundings (Command.Starts deployment (Command.Serves id))) first.pool _ :=
    .call who delivery (.scheduleCallback amount currency) rest current ready
  have valid := (Command.pool_step once.valid step).1
  rcases once.stages who _ current with unattached | ⟨closed, checks | forwards | ⟨_, stores⟩⟩
  · exact unattached.1.elim
  · exact checks.elim
  · have unreferenced := once.checked who _ current forwards prompt
    have aside : first.pool.shared.Aside
        (World.exec who delivery (.scheduleCallback amount currency) first.pool.shared).2 :=
      World.exec_neutral trivial
    have stores : Stores id _ (rest
        (World.exec who delivery (.scheduleCallback amount currency) first.pool.shared).1) :=
      forwards _
    have closed : (World.exec who delivery (.scheduleCallback amount currency)
        first.pool.shared).2.sessions who = none := (congrFun aside.sessions who).trans closed
    exact ⟨once.submit unreferenced valid aside List.length_append closed stores,
      unreferenced.stored⟩
  · cases stores.1

/-- What an eligible payment says about its reference. -/
theorem referenceOf_eligible {db : Database} {txn : Transaction}
    (found : db.transactions.get? id = some txn) (eligible : ProviderProcessor.eligible txn) :
    db.referenceOf id = none := by
  unfold Database.referenceOf
  rw [found]
  exact eligible.2

/-- A call that does not reach the provider. -/
theorem Watched.Once.call (once : first.Once deployment id initial) (choice : Delivery)
    {op : Operation} {rest : Except Failure op.Reply → Service Unit}
    (current : first.pool.running who = some (.call op rest))
    (ready : backend.ready who choice op first.pool.shared)
    (uncalled : (World.exec who choice op first.pool.shared).2.callbacks =
      first.pool.shared.callbacks) :
    let next : Pool ProcessId Failure Operation.Reply World :=
      ⟨(World.exec who choice op first.pool.shared).2, Function.update first.pool.running who
        (some (rest (World.exec who choice op first.pool.shared).1))⟩
    (first.after id next).Once deployment id initial ∧
      ∀ reference, first.pool.shared.db.referenceOf id = some reference →
        next.shared.db.referenceOf id = some reference := by
  have step : Pool.Step backend
      (surroundings (Command.Starts deployment (Command.Serves id))) first.pool _ :=
    .call who choice op rest current ready
  have valid := (Command.pool_step once.valid step).1
  rcases once.stages who _ current with unattached |
    ⟨closed, checks | forwards | ⟨reference, stores⟩⟩
  · exact once.aloof choice unattached.1 valid (.inl (unattached.2 _))
      fun forwards => (forwards.attached (unattached.2 _)).elim
  · obtain ⟨rfl, goes⟩ := checks.exec closed choice
    have aside : first.pool.shared.Aside
        (World.exec who choice (.sql (.select (.transaction id))) first.pool.shared).2 :=
      World.exec_neutral trivial
    have same := (congrFun aside.sessions who).trans closed
    refine once.aloof choice trivial valid (goes.imp_right fun found => ⟨same, found.1⟩)
      fun forwards prompt => ?_
    rcases goes with unattached | ⟨_, txn, found, eligible⟩
    · exact (forwards.attached unattached).elim
    · exact ⟨referenceOf_eligible found eligible,
        fun unsettled => prompt (.inl ⟨⟨rest, current⟩, unsettled⟩)⟩
  · rcases forwards.exec choice with ⟨amount, currency, rfl, _⟩ | ⟨⟨ms, rfl⟩, goes⟩
    · have called : first.pool.shared.callbacks ++ [_] = first.pool.shared.callbacks := uncalled
      exact absurd (congrArg List.length called) (by simp)
    · refine once.aloof choice trivial valid (.inr ⟨closed, goes⟩) fun _ prompt => ?_
      exact once.checked who _ current forwards (Watched.not_overtaken current forwards prompt).1
  · obtain ⟨rfl, unattached⟩ := stores
    obtain ⟨referenced, callbacks, changes⟩ :=
      once.referenced.store once.valid.inv closed choice reference
    have settles : (World.exec who choice (.sql (.updateTransaction id
        { providerReference := some reference })) first.pool.shared).2.db.referenceOf id =
          first.pool.shared.db.referenceOf id ∨
        ∃ stored, Holding id first.pool who stored ∧ (World.exec who choice
          (.sql (.updateTransaction id { providerReference := some reference }))
            first.pool.shared).2.db.referenceOf id = some stored :=
      changes.symm.imp_right fun done => ⟨reference, ⟨rest, current⟩, done⟩
    refine ⟨?_, fun another there => once.stored settles there⟩
    refine once.move valid referenced
      (fun other differs => World.exec_sessions differs choice _) callbacks settles
      (fun body same => ?_) (fun body same => ?_) fun body same forwards => ?_
    · cases same
      exact .inl (unattached _)
    · cases same
      exact .inl (unattached _)
    · cases same
      exact (forwards.attached (unattached _)).elim

/-- Every step keeps the invariant and the stored reference. -/
theorem Watched.Once.step {second : Watched} (once : first.Once deployment id initial)
    (step : SubmissionStep deployment id first second) :
    second.Once deployment id initial ∧
      ∀ reference, first.pool.shared.db.referenceOf id = some reference →
        second.pool.shared.db.referenceOf id = some reference := by
  cases step with
  | submit who delivery calling prompt =>
      obtain ⟨reached, free⟩ := once.called delivery calling prompt
      refine ⟨reached, fun reference there => ?_⟩
      rw [free] at there
      cases there
  | @other next step same =>
      have valid := (Command.pool_step once.valid step).1
      cases step with
      | spawn who body free started =>
          refine ⟨?_, fun reference there => there⟩
          have started : Command.Starts deployment (Command.Serves id) who body := started
          have early : Unattached body ∨ Checks id body := started.early
          refine once.move valid once.referenced (fun _ _ => rfl) rfl (.inl rfl)
            (fun rest same => ?_) (fun rest same => ?_) fun rest same forwards => ?_
          · cases same
            exact early.imp_right fun checks => ⟨once.valid.resting who free, .inl checks⟩
          · cases same
            exact early.imp_right .inl
          · cases same
            rcases early with unattached | checks
            · exact (forwards.attached unattached).elim
            · exact (checks.not_forwards forwards).elim
      | call who choice op rest current ready => exact once.call choice current ready same
      | finish who ended =>
          refine ⟨?_, fun reference there => there⟩
          exact once.move valid once.referenced (fun _ _ => rfl) rfl (.inl rfl)
            (fun _ absurd => by cases absurd) (fun _ absurd => by cases absurd)
            fun _ absurd => by cases absurd
      | crash who alive =>
          refine ⟨?_, fun reference there => there⟩
          refine once.move valid once.referenced.release (fun other differs => ?_) rfl (.inl rfl)
            (fun _ absurd => by cases absurd) (fun _ absurd => by cases absurd)
            fun _ absurd => by cases absurd
          exact Function.update_of_ne differs _ _
      | drift next moved =>
          have aside : first.pool.shared.Aside next := World.Elapses.aside moved
          refine ⟨once.keep valid (once.referenced.aside aside) (fun who body current => ?_)
            (by rw [aside.db]) moved.callbacks (fun who reference => Iff.rfl)
            fun who body current forwards prompt => ?_, fun reference there => ?_⟩
          · exact (once.stages who body current).congr (congrFun aside.sessions who)
          · exact once.checked who body current forwards
              (Watched.not_overtaken current forwards prompt).1
          · change next.db.referenceOf id = some reference
            rw [aside.db]
            exact there

/-- Every run keeps the invariant and the stored reference. -/
theorem Watched.Once.run {last : Watched} (once : first.Once deployment id initial)
    (run : SubmissionRun deployment id first last) :
    last.Once deployment id initial ∧
      ∀ reference, first.pool.shared.db.referenceOf id = some reference →
        last.pool.shared.db.referenceOf id = some reference := by
  induction run with
  | refl => exact ⟨once, fun _ there => there⟩
  | tail _ step ih =>
      obtain ⟨reached, stays⟩ := ih
      obtain ⟨next, stored⟩ := reached.step step
      exact ⟨next, fun reference there => stored reference (stays reference there)⟩

end Steps

/-! ## The guarantee -/

/-- The pool before anything runs. -/
def Watched.quiet (initial : World) : Watched := ⟨Pool.quiet initial, False, fun _ => False⟩

theorem Watched.once_quiet {deployment : Deployment} {id : TransactionId} {initial : World}
    (rest : initial.AtRest) : (Watched.quiet initial).Once deployment id initial where
  valid := Setting.valid_quiet rest
  referenced := by
    intro who version member
    unfold World.log at member
    rw [show (Watched.quiet initial).pool.shared.sessions who = none from
      rest.sessions who] at member
    exact (List.not_mem_nil member).elim
  stages := fun _ _ absurd => by cases absurd
  single := fun _ _ absurd => by
    obtain ⟨next, current⟩ := absurd
    cases current
  counted := by
    refine .inl ⟨rfl, ?_⟩
    rintro (absurd | ⟨who, reference, next, current⟩)
    · exact absurd
    · cases current
  checked := fun _ _ absurd => by cases absurd

/-- Where the provider is called for a payment only by attempts that were not overtaken
since they read its row, the payment is submitted at most once, and a stored reference is
never replaced. -/
theorem submitted_once (deployment : Deployment) (id : TransactionId) {initial : World}
    (rest : initial.AtRest) {middle last : Watched}
    (earlier : SubmissionRun deployment id (Watched.quiet initial) middle)
    (later : SubmissionRun deployment id middle last) :
    last.pool.shared.callbacks.length ≤ initial.callbacks.length + 1 ∧
      ∀ reference, middle.pool.shared.db.referenceOf id = some reference →
        last.pool.shared.db.referenceOf id = some reference := by
  have reached := ((Watched.once_quiet rest).run earlier).1
  obtain ⟨once, stays⟩ := reached.run later
  refine ⟨?_, stays⟩
  rcases once.counted with none | ⟨one, _⟩
  · omega
  · omega

/-! ## Concrete runs -/

instance (id : TransactionId) (command : Command) : Decidable (command.Serves id) :=
  match command with
  | .process data => decidable_of_iff (data.transactionId = id)
      ⟨fun same _ equal => Command.process.inj equal ▸ same, fun serves => serves data rfl⟩
  | .createPayment _ _ | .processWebhook _ _ _ | .onProviderJobExhausted _ _ | .refundPayment _ _
  | .raiseDispute _ _ | .resolveDispute _ _ | .retryStuckPayments | .cleanupExpiredIdempotencyKeys
  | .cleanupOldProcessedWebhookEvents => .isTrue fun _ absurd => by cases absurd

/-- Steps that submit nothing are those of a run. -/
theorem SubmissionRun.of_steps {deployment : Deployment} {id : TransactionId} {first : Watched}
    {last : Pool ProcessId Failure Operation.Reply World}
    (steps : Pool.Steps backend (surroundings (Command.Starts deployment (Command.Serves id)))
      first.pool last)
    (same : last.shared.callbacks.length = first.pool.shared.callbacks.length) :
    ∃ watched, watched.pool = last ∧ SubmissionRun deployment id first watched := by
  have bounded : first.pool.shared.callbacks.length ≤ last.shared.callbacks.length ∧
      (last.shared.callbacks.length = first.pool.shared.callbacks.length →
        ∃ watched, watched.pool = last ∧ SubmissionRun deployment id first watched) := by
    clear same
    induction steps with
    | refl => exact ⟨Nat.le_refl _, fun _ => ⟨first, rfl, .refl⟩⟩
    | tail _ step ih =>
        obtain ⟨grown, runs⟩ := ih
        rcases step_callbacks step with same | ⟨more, _⟩
        · rw [same]
          refine ⟨grown, fun none => ?_⟩
          obtain ⟨watched, rfl, run⟩ := runs none
          exact ⟨_, rfl, run.tail (.other step same)⟩
        · exact ⟨by omega, fun none => by omega⟩
  exact bounded.2 same

/-- While the payment is not submitted, nobody is overtaken. -/
theorem SubmissionRun.prompt {deployment : Deployment} {id : TransactionId} {initial : World}
    (rest : initial.AtRest) {watched : Watched}
    (run : SubmissionRun deployment id (Watched.quiet initial) watched)
    (same : watched.pool.shared.callbacks.length = initial.callbacks.length) (who : ProcessId) :
    ¬ watched.overtaken who := by
  induction run with
  | refl => exact fun absurd => absurd
  | tail earlier step ih =>
      have once := ((Watched.once_quiet rest).run earlier).1
      cases step with
      | submit caller delivery calling prompt =>
          obtain ⟨amount, currency, next, current⟩ := calling
          simp only [Watched.after, Pool.play, current] at same
          have called : _ + 1 = initial.callbacks.length := List.length_append.symm.trans same
          rcases once.counted with ⟨before, _⟩ | ⟨before, _⟩
          · omega
          · omega
      | other moved unchanged =>
          have before := (congrArg List.length unchanged).symm.trans same
          rcases once.counted with ⟨_, settled⟩ | ⟨more, _⟩
          · rintro (⟨_, unsettled⟩ | ⟨_, overtaken | called⟩)
            · exact settled unsettled
            · exact ih before overtaken
            · exact called unchanged
          · omega

/-- The sample payment, an hour after it was created. -/
def waitingWorld : World := { createdWorld with clock := 3_600_000_000 }

/-- The job that a sweep adds for it. -/
def sampleRetry : ProviderJobData :=
  { sampleJob with sourceAmount := amountText 100, idempotencyKey := "retry-0" }

/-- A sweep adds a second job, and both jobs are attempted at the same time. -/
def sampleOverlap : List Turn :=
  [{ who := 2, starts := some .retryStuckPayments, calls := 5 },
    { who := 0, starts := some (.process sampleJob), calls := 3 },
    { who := 1, starts := some (.process sampleRetry), calls := 3 }, { who := 0, calls := 2 }]

theorem waitingWorld_atRest : waitingWorld.AtRest :=
  createdWorld_atRest.aside ⟨rfl, rfl, rfl, fun _ => Nat.le_refl _⟩

/-- An attempt of the sample job up to its provider call. -/
def sampleAttempt : List Turn := [{ who := 0, starts := some (.process sampleJob), calls := 2 }]

theorem submitted_once_sample :
    let checked := takeTurns backend sampleDeployment sampleAttempt (Pool.quiet waitingWorld)
    let called := Pool.play backend checked (.call 0 .delivered)
    let middle := takeTurns backend sampleDeployment [{ who := 0, calls := 2 }] called
    let last := takeTurns backend sampleDeployment
      [{ who := 1, starts := some (.process sampleRetry) }] middle
    (middle.shared.db.referenceOf 0 = some 0 ∧ last.shared.callbacks.length = 1) ∧
      last.shared.callbacks.length ≤ waitingWorld.callbacks.length + 1 ∧
      ∀ reference, middle.shared.db.referenceOf 0 = some reference →
        last.shared.db.referenceOf 0 = some reference := by
  intro checked called middle last
  refine ⟨⟨by decide +kernel, by decide +kernel⟩, ?_⟩
  have before : Pool.Steps backend
      (surroundings (Command.Starts sampleDeployment (Command.Serves 0)))
      (Pool.quiet waitingWorld) checked :=
    takeTurns_commands (by decide +kernel) (by decide +kernel)
  have stores : Pool.Steps backend
      (surroundings (Command.Starts sampleDeployment (Command.Serves 0))) called middle :=
    takeTurns_commands (by decide +kernel) (by decide +kernel)
  have retries : Pool.Steps backend
      (surroundings (Command.Starts sampleDeployment (Command.Serves 0))) middle last :=
    takeTurns_commands (by decide +kernel) (by decide +kernel)
  have uncalled : checked.shared.callbacks.length = waitingWorld.callbacks.length := by
    decide +kernel
  have calling : CallsProvider checked 0 := by decide +kernel
  have once : middle.shared.callbacks.length = called.shared.callbacks.length := by decide +kernel
  have unchanged : last.shared.callbacks.length = middle.shared.callbacks.length := by
    decide +kernel
  clear_value checked
  obtain ⟨first, rfl, checks⟩ : ∃ watched, watched.pool = checked ∧
      SubmissionRun sampleDeployment 0 (Watched.quiet waitingWorld) watched :=
    SubmissionRun.of_steps before uncalled
  have calls : SubmissionRun sampleDeployment 0 first (first.after 0 called) :=
    .single (.submit 0 .delivered calling (checks.prompt waitingWorld_atRest uncalled 0))
  obtain ⟨second, same, stored⟩ : ∃ watched, watched.pool = middle ∧
      SubmissionRun sampleDeployment 0 (first.after 0 called) watched :=
    SubmissionRun.of_steps stores once
  clear_value middle
  subst same
  obtain ⟨third, same, retried⟩ : ∃ watched, watched.pool = last ∧
      SubmissionRun sampleDeployment 0 second watched :=
    SubmissionRun.of_steps retries unchanged
  rw [← same]
  exact submitted_once sampleDeployment 0 waitingWorld_atRest ((checks.trans calls).trans stored)
    retried

/-- Two overlapping attempts submit the payment twice, and the second reference replaces
the first. -/
theorem overlap_submits_twice :
    ∃ (initial : World) (middle last : Pool ProcessId Failure Operation.Reply World),
      initial.AtRest ∧
      Pool.Steps backend (surroundings (Command.Starts sampleDeployment (Command.Serves 0)))
        (Pool.quiet initial) middle ∧
      Pool.Steps backend (surroundings (Command.Starts sampleDeployment (Command.Serves 0)))
        middle last ∧
      initial.callbacks = [] ∧ last.shared.callbacks.length = 2 ∧
      last.shared.jobs.rows.map ProviderJob.data = [sampleJob, sampleRetry] ∧
      middle.shared.db.referenceOf 0 = some 0 ∧ last.shared.db.referenceOf 0 = some 1 := by
  let middle := takeTurns backend sampleDeployment sampleOverlap (Pool.quiet waitingWorld)
  let last := takeTurns backend sampleDeployment [{ who := 1, calls := 2 }] middle
  refine ⟨waitingWorld, middle, last, waitingWorld_atRest, ?_, ?_, ?_⟩
  · exact takeTurns_commands (by decide +kernel) (by decide +kernel)
  · exact takeTurns_commands (by decide +kernel) (by decide +kernel)
  · decide +kernel

end Payroute
