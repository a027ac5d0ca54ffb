import Payroute.Runs.Concurrent

/-! # Serial runs

Operations that run one after another. Every call of an operation may fail
before or after it took effect, and time passes between the operations.
-/

namespace Payroute

open EffectSystem KeyedTable

/-- Nobody else has an open transaction. -/
def World.Alone (who : ProcessId) (world : World) : Prop :=
  ∀ other, other ≠ who → world.sessions other = none

theorem World.AtRest.alone {world : World} (rest : world.AtRest) (who : ProcessId) :
    world.Alone who := fun other _ => rest.sessions other

theorem World.AtRest.of_sound {world : World} (sound : world.Sound)
    (free : ∀ who, world.sessions who = none) : world.AtRest where
  sessions := free
  rowLocks := by
    intro row
    cases held : world.rowLocks row with
    | none => rfl
    | some who => exact (sound.owned row who held (free who)).elim
  fresh := fun id beyond => ⟨(sound.fresh id beyond).1, (sound.fresh id beyond).2.1,
    (sound.fresh id beyond).2.2.1⟩
  below := sound.numbered.db

theorem World.AtRest.aside {first second : World} (rest : first.AtRest)
    (aside : first.Aside second) :
    second.AtRest := by
  refine .of_sound (aside.sound rest.sound) fun who => ?_
  rw [aside.sessions]
  exact rest.sessions who

theorem World.Sound.unblocked {world : World} (sound : world.Sound) {who : ProcessId}
    (alone : world.Alone who) (row : RowId) : ¬ world.Blocked who row := by
  rintro ⟨other, held, differs⟩
  exact sound.owned row other held (alone other differs)

theorem World.Sound.ready {world : World} (sound : world.Sound) {who : ProcessId}
    (alone : world.Alone who) (op : Operation) : world.Ready who op := by
  cases op with
  | sql statement => exact .inr fun row _ => sound.unblocked alone row
  | _ => trivial

namespace World

variable (world : World) (who : ProcessId)

/-- No call takes time. -/
theorem perform_clock (op : Operation) : (world.perform who op).2.clock = world.clock := by
  cases op with
  | sql statement =>
      exact (execute_apart world who statement).clock
  | acquireLock key ttlMs =>
      change (world.acquireLock key ttlMs).2.clock = world.clock
      unfold acquireLock
      cases world.redisLocks key <;> rfl
  | releaseLock key token =>
      change (world.releaseLock key token).clock = world.clock
      unfold releaseLock
      split <;> rfl
  | queueAdd data attempts jobId =>
      change (world.queueAdd data attempts jobId).clock = world.clock
      unfold queueAdd
      simp only
      split <;> rfl
  | _ => rfl

theorem exec_clock (delivery : Delivery) (op : Operation) :
    (World.exec who delivery op world).2.clock = world.clock := by
  rcases exec_state who delivery op world with same | ran
  · rw [same]
  · rw [ran]
    exact world.perform_clock who op

end World

/-- A run takes no time. -/
theorem run_clock (who : ProcessId) {α : Type} (body : Service α) (choices : List Delivery)
    (world : World) : (backend.run who body choices world).state.clock = world.clock := by
  induction body generalizing choices world with
  | ret value => rfl
  | fail error => rfl
  | call op next ih =>
      rw [Machine.run_call, ih]
      exact world.exec_clock who choices.headI op

namespace Setting

variable {setting : Setting} {commit : Database → Database → Prop} {who : ProcessId} {α : Type}

theorem Grant.alone {first second : World} (grant : Grant commit who first second)
    (alone : first.Alone who) : second.Alone who :=
  fun other differs => (grant.frames other differs).session.trans (alone other differs)

/-- What a path of own steps does. -/
theorem Grant.path {first last : World}
    (path : Relation.ReflTransGen (Grant commit who) first last) :
    (first.Alone who → last.Alone who) ∧ (∀ supply, first.next supply ≤ last.next supply) ∧
      Relation.ReflTransGen (fun left right => left.Beside right ∨ commit left right)
        first.db last.db := by
  induction path with
  | refl => exact ⟨id, fun _ => Nat.le_refl _, .refl⟩
  | tail _ step ih =>
      obtain ⟨alone, supplies, tables⟩ := ih
      refine ⟨fun start => step.alone (alone start), fun supply => ?_, tables.tail step.step⟩
      exact (supplies supply).trans ((step.frames (who + 1) (Nat.succ_ne_self who)).supplies supply)

/-- Nothing a program waits for is held by another process. -/
theorem orderly {post : Except Failure α → World → Prop} {body : Service α} {world : World}
    (issues : ∀ op (later : World), later.clock = world.clock → setting.Issues who op later)
    (safe : Safe setting.machine (setting.contract commit) who post body world)
    (sound : world.Sound) (alone : world.Alone who) (choices : List Delivery) :
    Safe.Orderly setting.machine who body choices world := by
  induction body generalizing world choices with
  | ret value => trivial
  | fail error => trivial
  | call op next ih =>
      have ready : setting.machine.ready who choices.headI op world :=
        ⟨sound.ready alone op, issues op world rfl⟩
      obtain ⟨kept, granted, rest⟩ :=
        safe world ((setting.regular commit).refl who world) sound choices.headI ready
      have clock := world.exec_clock who choices.headI op
      exact ⟨ready, ih _ (fun op later same => issues op later (same.trans clock)) rest kept
        (granted.alone alone) _⟩

/-- Side conditions do not change what a program does. -/
theorem run_machine (body : Service α) (choices : List Delivery) (world : World) :
    setting.machine.run who body choices world = backend.run who body choices world := by
  induction body generalizing choices world with
  | ret value => rfl
  | fail error => rfl
  | call op next ih => exact ih _ _ _

/-- What a program that keeps the contract does when it runs alone. -/
theorem Outside.alone {result : Except Failure α → World → Prop} {body : Service α} {world : World}
    (outside : setting.Outside commit who result body world)
    (issues : ∀ op (later : World), later.clock = world.clock → setting.Issues who op later)
    (rest : world.AtRest) (choices : List Delivery) :
    let last := backend.run who body choices world
    setting.Finishes who result last.outcome last.state ∧ last.state.AtRest ∧
      Relation.ReflTransGen (Grant commit who) world last.state := by
  intro last
  have safe := outside rest.sound (rest.sessions who)
  have ordered := orderly issues safe rest.sound (rest.alone who) choices
  obtain ⟨finishes, sound, path⟩ := Safe.run (setting.regular commit) safe rest.sound ordered
  rw [run_machine] at finishes sound path
  have alone : last.state.Alone who := (Grant.path path).1 (rest.alone who)
  refine ⟨finishes, .of_sound sound fun other => ?_, path⟩
  by_cases same : other = who
  · rw [same]
    exact finishes.1
  · exact alone other same

end Setting

/-- The setting of a program that runs alone from the given world. -/
def serial (world : World) : Setting where
  origin := fun db => db = world.db
  drift := fun first second => second = first
  later := Database.SameBooks
  floor := world.next .reference
  permits := fun _ _ => True
  holds := fun _ => True
  timely := fun clock => clock = world.clock
  drift_refl := fun _ => rfl
  drift_trans := fun _ _ _ left right => right.trans left
  origin_drift := fun _ _ origin same => same.trans origin
  later_drift := fun _ _ same => same ▸ .refl _
  later_side := fun _ _ same => same
  later_trans := fun _ _ _ left right => left.trans right

/-- Any call may be issued until the clock moves. -/
theorem serial_issues {world later : World} {who : ProcessId} {op : Operation}
    (clock : later.clock = world.clock) : (serial world).Issues who op later :=
  ⟨trivial, trivial, clock, trivial⟩

theorem serial_since {world : World} {db : Database} (since : (serial world).Since db) :
    world.db.SameBooks db := by
  obtain ⟨first, rfl, same⟩ := since
  exact same

section Serial

variable {world : World} {first second : Database} {id : TransactionId} {row : Transaction}

/-- In a serial run an earlier read shows the current row. -/
theorem serial_read {checked : Transaction} (read : (serial world).Read first id checked) :
    first.transactions.get? id = some checked ∧ world.db.transactions.get? id = some checked := by
  obtain ⟨origin, rfl, same, found⟩ := read
  refine ⟨?_, found⟩
  rw [same.transactions]
  exact found

theorem serial_get? (since : (serial world).Since first)
    (found : first.transactions.get? id = some row) : world.db.transactions.get? id = some row := by
  rw [← (serial_since since).transactions]
  exact found

/-- The event row of a delivery that commits was not there when it arrived. -/
theorem serial_marks {payload : WebhookPayloadDto} {patch : WebhookEventPatch}
    {events : List WebhookEvent} (marks : (serial world).Marks payload patch first events) :
    world.db.webhookEvents.get? (payload.reference, payload.status) = none ∧
      world.db.SameBooks first := by
  obtain ⟨event, seen, ⟨origin, rfl, absent, _, _, _, _, same⟩, drift, _⟩ := marks
  cases same
  cases drift
  exact ⟨absent, ⟨rfl, rfl, rfl, rfl⟩⟩

theorem serial_looksUp {reference : ProviderReference} {found : Option Transaction}
    (same : world.db.SameBooks first) (looks : (serial world).LooksUp reference found first) :
    world.db.byReference reference = found := by
  obtain ⟨seen, read, _, _, drift⟩ := looks
  cases drift
  unfold Database.byReference at read ⊢
  rw [← same.transactions]
  exact read

end Serial

/-- One step of a serial run. -/
inductive SerialStep (deployment : Deployment) (admits : World → Command → Prop) :
    World → World → Prop
  | command {world : World} (who : ProcessId) (command : Command) (choices : List Delivery)
      (admitted : admits world command) :
      SerialStep deployment admits world
        (backend.run who (command.program deployment) choices world).state
  | elapse {world next : World} (elapses : world.Elapses next) :
      SerialStep deployment admits world next

/-- A serial run of admitted operations. -/
abbrev SerialRun (deployment : Deployment) (admits : World → Command → Prop) :
    World → World → Prop :=
  Relation.ReflTransGen (SerialStep deployment admits)

/-- What the run of one operation commits. -/
theorem Command.run_alone (deployment : Deployment) {world : World} (rest : world.AtRest)
    (who : ProcessId) (command : Command) (choices : List Delivery) :
    let last := (backend.run who (command.program deployment) choices world).state
    last.AtRest ∧ (∀ supply, world.next supply ≤ last.next supply) ∧
      Relation.ReflTransGen (fun first second => first.Beside second ∨
        command.Commits (serial world) deployment first second) world.db last.db := by
  intro last
  have outside : (serial world).Outside _ who _ (command.program deployment) world :=
    Command.outside deployment command rfl (Nat.le_refl _) fun _ _ commits => commits
  obtain ⟨_, kept, path⟩ := outside.alone (fun _ _ => serial_issues) rest choices
  obtain ⟨_, supplies, tables⟩ := Setting.Grant.path path
  exact ⟨kept, supplies, tables⟩

/-- A property of the committed tables that every commit of an admitted operation
keeps holds in every state a serial run reaches. -/
theorem SerialRun.keeps {deployment : Deployment} {admits : World → Command → Prop}
    (property : Database → Prop)
    (beside : ∀ first second, first.Beside second → property first → property second)
    (commits : ∀ world command first second, world.AtRest → admits world command →
      command.Commits (serial world) deployment first second → property first → property second)
    {initial last : World} (rest : initial.AtRest) (holds : property initial.db)
    (run : SerialRun deployment admits initial last) : last.AtRest ∧ property last.db := by
  induction run with
  | refl => exact ⟨rest, holds⟩
  | tail _ step ih =>
      obtain ⟨rested, held⟩ := ih
      cases step with
      | command who command choices admitted =>
          obtain ⟨kept, _, path⟩ := Command.run_alone deployment rested who command choices
          refine ⟨kept, ?_⟩
          generalize (backend.run who (command.program deployment) choices _).state.db = final
            at path
          clear kept
          induction path with
          | refl => exact held
          | tail _ change earlier =>
              rcases change with side | committed
              · exact beside _ _ side earlier
              · exact commits _ command _ _ rested admitted committed earlier
      | elapse elapses =>
          have aside := World.Elapses.aside elapses
          refine ⟨.of_sound (aside.sound rested.sound) fun who => ?_, ?_⟩
          · rw [aside.sessions]
            exact rested.sessions who
          · rw [aside.db]
            exact held

theorem SerialRun.atRest {deployment : Deployment} {admits : World → Command → Prop}
    {initial last : World} (run : SerialRun deployment admits initial last)
    (rest : initial.AtRest) : last.AtRest :=
  (SerialRun.keeps (fun _ => True) (fun _ _ _ _ => trivial) (fun _ _ _ _ _ _ _ _ => trivial) rest
    trivial run).1

/-- A serial run is one of the concurrent runs. -/
theorem SerialRun.steps {deployment : Deployment} {admitted : Command → Prop}
    {initial last : World} (rest : initial.AtRest)
    (run : SerialRun deployment (fun _ command => admitted command) initial last) :
    Pool.Steps backend (surroundings (Command.Starts deployment admitted)) (Pool.quiet initial)
      (Pool.quiet last) := by
  induction run with
  | refl => exact .refl
  | @tail middle _ earlier step ih =>
      have rested : middle.AtRest := SerialRun.atRest earlier rest
      refine ih.trans ?_
      cases step with
      | command who command choices allowed =>
          have outside : (serial middle).Outside _ who _ (command.program deployment) middle :=
            Command.outside deployment command rfl (Nat.le_refl _) fun _ _ commits => commits
          have orderly := Setting.orderly (fun _ _ => serial_issues)
            (outside rested.sound (rested.sessions who)) rested.sound (rested.alone who) choices
          exact Pool.steps_of_alone ⟨command, allowed, rfl⟩ orderly.unrestrict
      | elapse elapses => exact .single (.drift _ elapses)

/-! ## Concrete runs -/

/-- Run operations one after another. -/
def runAll (deployment : Deployment) : List (Command × List Delivery) → World → World
  | [], world => world
  | (command, choices) :: rest, world =>
      runAll deployment rest (backend.run 0 (command.program deployment) choices world).state

/-- Each operation is admitted when its turn comes. -/
def AdmittedAll (deployment : Deployment) (admits : World → Command → Prop) :
    List (Command × List Delivery) → World → Prop
  | [], _ => True
  | (command, choices) :: rest, world => admits world command ∧
      AdmittedAll deployment admits rest
        (backend.run 0 (command.program deployment) choices world).state

instance AdmittedAll.decidable (deployment : Deployment) (admits : World → Command → Prop)
    [∀ world command, Decidable (admits world command)] :
    (commands : List (Command × List Delivery)) → (world : World) →
      Decidable (AdmittedAll deployment admits commands world)
  | [], _ => .isTrue trivial
  | (command, choices) :: rest, world =>
      have := AdmittedAll.decidable deployment admits rest
        (backend.run 0 (command.program deployment) choices world).state
      inferInstanceAs (Decidable (admits world command ∧ _))

theorem runAll_run {deployment : Deployment} {admits : World → Command → Prop}
    (commands : List (Command × List Delivery)) {world : World}
    (admitted : AdmittedAll deployment admits commands world) :
    SerialRun deployment admits world (runAll deployment commands world) := by
  induction commands generalizing world with
  | nil => exact .refl
  | cons entry rest ih =>
      obtain ⟨command, choices⟩ := entry
      exact .head (.command 0 command choices admitted.1) (ih admitted.2)

/-- A deployment without practical limits. Its `hmacSha256` returns the secret. -/
def sampleDeployment : Deployment where
  maxAmountPerTransaction := 10 ^ 20
  maxPaymentsPerAccountPerDay := 100
  maxDailyVolumePerAccount := 10 ^ 20
  webhookEventsRetentionDays := 30
  webhookSecret := "secret"
  hmacSha256 := fun secret _ => secret

/-- One payment a day. -/
def singlePayment : Deployment := { sampleDeployment with maxPaymentsPerAccountPerDay := 1 }

/-- Two accounts. -/
def sampleAccounts : Table Account :=
  (Table.empty.put { id := 0, currency := "USD", balance := 1000, version := 0 }).put
    { id := 1, currency := "USD", balance := 1000, version := 0 }

/-- A world without payments. -/
def sampleWorld : World where
  db := { accounts := sampleAccounts, fxQuotes := [], transactions := .empty, ledgerEntries := []
          stateHistory := [], webhookEvents := .empty, idempotencyKeys := .empty }
  sessions := fun _ => none
  rowLocks := fun _ => none
  redisLocks := fun _ => none
  cache := fun _ => none
  jobs := .empty
  callbacks := []
  emitted := []
  clock := 0
  next := fun _ => 0
  journal := []

theorem sampleWorld_atRest : sampleWorld.AtRest where
  sessions := fun _ => rfl
  rowLocks := fun _ => rfl
  fresh := fun _ _ => ⟨rfl, rfl, rfl⟩
  below := ⟨fun _ member => (List.not_mem_nil member).elim,
    fun _ member => (List.not_mem_nil member).elim⟩

/-- A payment between the two accounts. -/
def samplePayment : CreatePaymentDto where
  senderAccountId := 0
  recipientAccountId := 1
  sourceCurrency := "USD"
  destinationCurrency := "USD"
  amount := 100
  isPositive := by decide
  notSelfPayment := by decide

/-- The world once the sample payment was created. -/
def createdWorld : World :=
  runAll sampleDeployment [(.createPayment samplePayment "key", [])] sampleWorld

theorem createdWorld_atRest : createdWorld.AtRest :=
  (Command.run_alone sampleDeployment sampleWorld_atRest 0 (.createPayment samplePayment "key")
    []).1

/-- The job that submits it. -/
def sampleJob : ProviderJobData where
  transactionId := 0
  sourceAmount := numberText 100
  sourceCurrency := "USD"
  destinationCurrency := "USD"
  senderAccountId := 0
  idempotencyKey := "key"

/-- The payment is created, submitted and reported completed. -/
def sampleCompletion : List (Command × List Delivery) :=
  [(.createPayment samplePayment "key", []), (.process sampleJob, []),
    (.processWebhook ⟨0, "completed"⟩ [] "secret", [])]

/-- The world once the sample payment is completed. -/
def completedWorld : World := runAll sampleDeployment sampleCompletion sampleWorld

/-- The queue has used up the attempts of every job. -/
def World.giveUp (world : World) : World :=
  { world with jobs := ⟨world.jobs.rows.map fun job => { job with attemptsMade := job.attempts },
      by
        rw [List.map_map]
        exact world.jobs.nodup⟩ }

theorem World.giveUp_elapses (world : World) : world.Elapses world.giveUp where
  db := rfl
  sessions := rfl
  rowLocks := rfl
  next := rfl
  callbacks := rfl
  emitted := rfl
  journal := rfl
  clock := Nat.le_refl _
  redisLocks := fun _ => .inl rfl
  cache := fun _ => .inl rfl
  jobs := by
    intro job member
    obtain ⟨old, there, rfl⟩ := List.mem_map.mp member
    exact ⟨old, there, rfl, rfl, rfl⟩

/-- A turn of a process in a schedule: it may start an operation and then makes
the given number of calls, which are answered unless the turn says otherwise. -/
structure Turn where
  who : ProcessId
  starts : Option Command := none
  calls : Nat := 40
  delivery : Delivery := .delivered

/-- The entries of a turn. -/
def Turn.moves (deployment : Deployment) (turn : Turn) :
    List (Pool.Move ProcessId Delivery Failure Operation.Reply) :=
  (turn.starts.map fun command => .spawn turn.who (command.program deployment)).toList ++
    List.replicate turn.calls (.call turn.who turn.delivery)

section Turns

variable (M : Machine ProcessId Delivery Failure Operation.Reply World) (deployment : Deployment)
  (turns : List Turn)

/-- What the processes leave when they take turns. -/
def takeTurns (pool : Pool ProcessId Failure Operation.Reply World) :
    Pool ProcessId Failure Operation.Reply World :=
  Pool.playAll M pool (turns.flatMap (Turn.moves deployment))

/-- Whether every turn can be carried out. -/
abbrev TurnsPlayable (pool : Pool ProcessId Failure Operation.Reply World) : Prop :=
  Pool.PlayableAll M pool (turns.flatMap (Turn.moves deployment))

variable {M deployment turns}

/-- What a schedule of turns starts. -/
theorem starts_of_turns {who : ProcessId} {body : Service Unit}
    (member : .spawn who body ∈ turns.flatMap (Turn.moves deployment)) :
    ∃ turn ∈ turns, ∃ command ∈ turn.starts, turn.who = who ∧ command.program deployment =
      body := by
  obtain ⟨turn, taken, entry⟩ := List.mem_flatMap.mp member
  rcases List.mem_append.mp entry with started | called
  · obtain ⟨command, starts, same⟩ := Option.map_eq_some_iff.mp (Option.mem_toList.mp started)
    cases same
    exact ⟨turn, taken, command, starts, rfl, rfl⟩
  · cases (List.mem_replicate.mp called).2

theorem takeTurns_steps {starts : ProcessId → Service Unit → Prop}
    {pool : Pool ProcessId Failure Operation.Reply World}
    (playable : TurnsPlayable M deployment turns pool)
    (allowed : ∀ turn ∈ turns, ∀ command ∈ turn.starts,
      starts turn.who (command.program deployment)) :
    Pool.Steps M (surroundings starts) pool (takeTurns M deployment turns pool) := by
  refine Pool.playAll_steps _ playable fun who body member => ?_
  obtain ⟨turn, taken, command, started, rfl, rfl⟩ := starts_of_turns member
  exact allowed turn taken command started

theorem takeTurns_commands {admitted : Command → Prop}
    {pool : Pool ProcessId Failure Operation.Reply World}
    (playable : TurnsPlayable M deployment turns pool)
    (allowed : ∀ turn ∈ turns, ∀ command ∈ turn.starts, admitted command) :
    Pool.Steps M (surroundings (Command.Starts deployment admitted)) pool
      (takeTurns M deployment turns pool) :=
  takeTurns_steps playable fun turn taken command started =>
    ⟨command, allowed turn taken command started, rfl⟩

end Turns

end Payroute
