import Payroute.Runs.Caches
import Payroute.Runs.Locking
import Payroute.Runs.Success

/-! # Cached answers in serial runs

The operations, the listings and the statistics run one after another, and Redis answers.
A cached listing is what the database gives as long as no attempt of the provider's job and
no dead-letter handler changes a payment that a cached answer shows or counts, since these
two leave the cache alone.
-/

namespace Payroute

open EffectSystem KeyedTable PaymentsService Program

/-! ## Changes that no cached answer shows -/

section Changes

variable {deployment : Deployment} {world : World} {cache : CacheKey → Option CacheValue}
  {id : TransactionId} {first second : Database}

/-- Committed tables whose answers each commit of an operation keeps right. -/
theorem Database.Answers.path {db last : Database} {commit : Database → Database → Prop}
    (answers : db.Answers deployment cache)
    (keeps : ∀ first second, commit first second → first.Answers deployment cache →
      second.Answers deployment cache)
    (path : Relation.ReflTransGen (fun first second => first.Beside second ∨ commit first second)
      db last) : last.Answers deployment cache := by
  induction path with
  | refl => exact answers
  | tail _ step right =>
      rcases step with beside | commits
      · exact right.congr beside.books.accounts beside.books.transactions
      · exact keeps _ _ commits right

/-- An attempt gives a reference to a payment that no cached page shows. -/
theorem Assigns.answers (assigns : Assigns (serial world) id first second)
    (answers : first.Answers deployment cache)
    (unseen : ∀ dto, Dateless dto → ∀ page, cache (listCacheKey dto) = some (.page page) →
      ¬ page.Shows id) : second.Answers deployment cache := by
  obtain ⟨_, reference, _, _, _, rfl⟩ := assigns
  have rows := rows_patchRow id { providerReference := some reference } first.transactions
  refine answers.patched rows (fun dto dateless page cached => ?_) fun stats cached => ?_
  · refine ⟨fun row _ _ => Iff.rfl, fun listed member => ⟨fun same => ?_, rfl, rfl⟩⟩
    exact unseen dto dateless page cached ⟨listed, member, same⟩
  · refine statusTotals_patch rows fun row _ => ?_
    unfold TransactionPatch.at
    split
    · rfl
    · rfl

/-- The dead-letter handler fails a payment that no cached answer shows or counts. -/
theorem Exhausts.answers (exhausts : Exhausts (serial world) id first second)
    (answers : first.Answers deployment cache)
    (uncounted : ∀ stats, cache .stats ≠ some (.stats stats))
    (unseen : ∀ dto, Dateless dto → ∀ page, cache (listCacheKey dto) = some (.page page) →
      dto.status ≠ some .processing ∧ dto.status ≠ some .failed ∧ ¬ page.Shows id ∧
      (¬ first.HasReversal id → ∀ account ∈ first.debited id, ¬ page.ShowsAccount account)) :
    second.Answers deployment cache := by
  obtain ⟨row, entries, timestamp, _, found, processing, returns, rfl⟩ := exhausts
  have rows := rows_patchRow id { status := some .failed } first.transactions
  have owners : ∀ entry ∈ entries, ¬ first.HasReversal id ∧ entry.accountId ∈ first.debited id := by
    intro entry member
    rcases returns with ⟨_, none⟩ | ⟨unmarked, terms⟩
    · rw [none] at member
      cases member
    · have there : entry.terms ∈ (first.originalDebits id).map (reversalTerms id) := by
        rw [← terms]
        exact List.mem_map_of_mem member
      obtain ⟨debit, listed, same⟩ := List.mem_map.mp there
      refine ⟨unmarked, List.mem_map.mpr ⟨debit, listed, ?_⟩⟩
      exact congrArg EntryTerms.accountId same
  refine answers.patched rows (fun dto dateless page cached => ?_) fun stats cached => ?_
  · obtain ⟨active, failed, hidden, accounts⟩ := unseen dto dateless page cached
    have kept : ∀ account, page.ShowsAccount account →
        ((entries.map fun entry => (entry.accountId, entry.amount)).foldl adjust
          first.accounts).get? account = first.accounts.get? account := by
      intro account shows
      refine get?_adjust_others (fun change member => ?_) _
      obtain ⟨entry, listed, rfl⟩ := List.mem_map.mp member
      obtain ⟨unmarked, debited⟩ := owners entry listed
      intro same
      have owner : entry.accountId = account := same
      rw [owner] at debited
      exact accounts unmarked account debited shows
    refine ⟨fun old member same => ?_, fun listed member => ⟨fun same => ?_, ?_, ?_⟩⟩
    · have current : old = row := by
        have there := (first.transactions.get?_eq_some_iff id old).mpr ⟨member, same⟩
        rw [found] at there
        exact (Option.some.inj there).symm
      subst current
      unfold PaymentFilter.Selects
      change (∀ status ∈ dto.status, TransactionStatus.failed = status) ∧ _ ↔
        (∀ status ∈ dto.status, old.status = status) ∧ _
      rw [processing]
      cases wanted : dto.status with
      | none => simp only [Option.mem_def, reduceCtorEq, false_implies, implies_true]; exact Iff.rfl
      | some status =>
          rw [wanted] at active failed
          constructor
          · intro selected
            exact (failed (congrArg some (selected.1 status rfl).symm)).elim
          · intro selected
            exact (active (congrArg some (selected.1 status rfl).symm)).elim
    · exact hidden ⟨listed, member, same⟩
    · exact kept _ ⟨listed, member, .inl rfl⟩
    · exact kept _ ⟨listed, member, .inr rfl⟩
  · exact (uncounted stats cached).elim

end Changes

/-! ## The operations that leave the cache alone -/

/-- The operation changes no payment that a cached answer shows or counts, if it is one of
the two that leave the cache alone. -/
def Command.Unnoticed (world : World) : Command → Prop
  | .process data => ∀ row, world.db.transactions.get? data.transactionId = some row →
      ProviderProcessor.eligible row → ∀ dto, Dateless dto → ∀ page,
        world.cache (listCacheKey dto) = some (.page page) → ¬ page.Shows data.transactionId
  | .onProviderJobExhausted jobId _ => ∀ job, world.jobs.get? jobId = some job →
      job.attempts ≤ job.attemptsMade → ∀ row,
        world.db.transactions.get? job.data.transactionId = some row → row.status = .processing →
          (∀ stats, world.cache .stats ≠ some (.stats stats)) ∧ ∀ dto, Dateless dto → ∀ page,
            world.cache (listCacheKey dto) = some (.page page) →
              dto.status ≠ some .processing ∧ dto.status ≠ some .failed ∧
              ¬ page.Shows job.data.transactionId ∧
              (¬ world.db.HasReversal job.data.transactionId →
                ∀ account ∈ world.db.debited job.data.transactionId, ¬ page.ShowsAccount account)
  | _ => True

section Steps

variable {deployment : Deployment} {world : World} {who : ProcessId}

/-- The tables a program leaves, by its own commits. -/
theorem solo_path {α : Type} {fine : Operation → Delivery → Prop} {body : Service α}
    {commit : Database → Database → Prop} {result : Except Failure α → World → Prop} {start : World}
    (outside : (serial world).Outside commit who result body start) (rest : start.AtRest)
    (clock : start.clock = world.clock) :
    Solo backend fine who (fun _ last => Relation.ReflTransGen
      (fun first second => first.Beside second ∨ commit first second) start.db last.db) body
      start := by
  intro choices _
  obtain ⟨_, _, path⟩ := outside.alone (fun _ _ same => serial_issues (same.trans clock)) rest
    choices
  exact (Setting.Grant.path path).2.2

theorem process_answers (rest : world.AtRest) (data : ProviderJobData) (choices : List Delivery)
    (answers : world.db.Answers deployment world.cache)
    (unnoticed : (Command.process data).Unnoticed world) :
    (backend.run who ((Command.process data).program deployment) choices world).state.db.Answers
      deployment world.cache := by
  obtain ⟨_, _, path⟩ := Command.run_alone deployment rest who (.process data) choices
  refine answers.path (fun first second assigns right => ?_) path
  have made : Assigns (serial world) data.transactionId first second := assigns
  obtain ⟨checked, _, read, eligible, _, _⟩ := assigns
  exact made.answers right (unnoticed checked (serial_read read).2 eligible)

theorem onProviderJobExhausted_answers (rest : world.AtRest) (jobId : JobId) (reason : String)
    (answers : world.db.Answers deployment world.cache)
    (unnoticed : (Command.onProviderJobExhausted jobId reason).Unnoticed world) :
    Solo backend Sure who (fun _ last => last.db.Answers deployment world.cache)
      (DeadLetterHandler.onProviderJobExhausted jobId reason) world := by
  have gets : Solo backend Sure who (fun outcome last => world.Still last ∧
      ∀ found, outcome = .ok found → found = world.jobs.get? jobId)
      (call (.queueGet jobId)) world := by
    have idle : (call (.queueGet jobId)).OnlyCalls Operation.Idle :=
      onlyCalls_perform ⟨trivial, trivial⟩
    refine (solo_still rest.still idle).and ?_
    refine solo_redis (.queueGet jobId) trivial fun found returned => ?_
    exact (Except.ok.inj returned).symm
  refine gets.bind (fun found second got => ?_) fun _ second got => ?_
  · obtain ⟨still, read⟩ := got
    have same : second.db.Answers deployment world.cache := by
      rw [still.db]
      exact answers
    cases found with
    | none => exact .ret same
    | some job =>
        change Solo backend Sure who _ (if job.attemptsMade < job.attempts then _ else _) second
        by_cases left : job.attemptsMade < job.attempts
        · rw [if_pos left]
          exact .ret same
        · rw [if_neg left]
          have exhausts : (serial world).Outside (Exhausts (serial world) job.data.transactionId)
              who _ (transaction .readCommitted
                (DeadLetterHandler.exhaustedBody job.data.transactionId)) second :=
            Setting.Outside.exhaust ⟨world.db, rfl, still.db ▸ .refl _⟩ fun _ _ made => made
          have settles : Solo backend Sure who
            (fun _ last => last.db.Answers deployment world.cache)
              (transaction .readCommitted
                (DeadLetterHandler.exhaustedBody job.data.transactionId)) second := by
            refine (solo_path exhausts still.rest still.clock).mono fun _ last path => ?_
            refine same.path (fun first next made right => ?_) path
            have exhausted := made
            obtain ⟨row, _, _, since, found, processing, _, _⟩ := exhausted
            have books := serial_since since
            obtain ⟨_, entries, _⟩ := books.agreeAt (.transaction job.data.transactionId)
            obtain ⟨uncounted, unseen⟩ := unnoticed job (read _ rfl).symm (Nat.not_lt.mp left) row
              (serial_get? since found) processing
            refine made.answers right uncounted fun dto dateless page cached => ?_
            unfold Database.HasReversal Database.debited Database.originalDebits
            rw [entries]
            exact unseen dto dateless page cached
          refine Solo.swallow (settles.bind (fun _ later right => ?_) fun _ _ right => right)
            fun _ _ right => right
          have only : (call (.emit (.failed job.data.transactionId none
              s!"Dead letter: {reason}"))).OnlyCalls Operation.Neutral := onlyCalls_perform trivial
          refine Solo.keeps (fun last : World => last.db.Answers deployment world.cache) ?_
            only right
          intro delivery op middle neutral held
          have aside : middle.Aside (World.exec who delivery op middle).2 :=
            World.exec_neutral neutral
          change (World.exec who delivery op middle).2.db.Answers deployment world.cache
          rw [aside.db]
          exact held
  · rw [got.1.db]
    exact answers

/-- Where nothing is cached, nothing cached is wrong. -/
theorem World.Swept.answers {db : Database} (swept : world.Swept) :
    db.Answers deployment world.cache := by
  refine ⟨fun dto _ page cached => ?_, fun stats cached => ?_, fun stats cached => ?_⟩
  · rw [swept (listCacheKey dto) trivial] at cached
    cases cached
  · rw [swept .stats trivial] at cached
    cases cached
  · rw [swept .stats trivial] at cached
    cases cached

/-- What an operation leaves cached is right. -/
theorem Command.run_answers (rest : world.AtRest) (command : Command) (choices : List Delivery)
    (answers : world.db.Answers deployment world.cache) (unnoticed : command.Unnoticed world)
    (sure : ∀ entry ∈ backend.calls who (command.program deployment) choices world,
      Sure entry.1 entry.2) :
    let last := (backend.run who (command.program deployment) choices world).state
    last.AtRest ∧ last.db.Answers deployment last.cache := by
  intro last
  have drops : world.Drops last := solo_drops (Command.unfilling deployment command) choices sure
  refine ⟨(Command.run_alone deployment rest who command choices).1, ?_⟩
  by_cases sweeps : command.Sweeps
  · rcases Command.handles deployment rest sweeps choices sure with same | swept
    · exact (answers.congr same.accounts same.transactions).drop drops
    · exact swept.answers
  · cases command with
    | process data => exact (process_answers rest data choices answers unnoticed).drop drops
    | onProviderJobExhausted jobId reason =>
        exact (onProviderJobExhausted_answers rest jobId reason answers unnoticed choices sure).drop
          drops
    | _ => exact (sweeps trivial).elim

/-! ## Listings and statistics -/

/-- What a listing or the statistics leave. -/
def World.Filled (first second : World) (deployment : Deployment) : Prop :=
  second.AtRest ∧ second.db = first.db ∧ second.db.Answers deployment second.cache

/-- Calls that neither change the database nor store an answer. -/
theorem solo_reads {α : Type} {body : Service α} {start : World}
    (filled : world.Filled start deployment)
    (only : body.OnlyCalls fun op => op.Neutral ∧ op.Unfilling) :
    Solo backend Sure who (fun _ last => world.Filled last deployment) body start := by
  refine Solo.keeps (fun last : World => world.Filled last deployment) ?_ only filled
  intro delivery op later allowed held
  obtain ⟨neutral, unfilling⟩ := allowed
  obtain ⟨resting, same, right⟩ := held
  have aside : later.Aside (World.exec who delivery op later).2 := World.exec_neutral neutral
  have drops : later.Drops (World.exec who delivery op later).2 := by
    rcases World.exec_state who delivery op later with unchanged | ran
    · rw [unchanged]
      exact .refl later
    · rw [ran]
      exact World.perform_drops later who unfilling (.refl later)
  refine ⟨resting.aside aside, aside.db.trans same, ?_⟩
  change (World.exec who delivery op later).2.db.Answers deployment _
  rw [aside.db]
  exact right.drop drops

/-- A query outside of a transaction. -/
theorem solo_query (query : Query) {start : World} (filled : world.Filled start deployment) :
    Solo backend Sure who (fun outcome last => world.Filled last deployment ∧
      ∀ reply, outcome = .ok reply → reply = query.eval world.db) (sql (.select query)) start := by
  have only : (sql (.select query)).OnlyCalls fun op => op.Neutral ∧ op.Unfilling :=
    onlyCalls_perform ⟨trivial, trivial⟩
  refine (solo_reads filled only).and ?_
  refine solo_call (.sql (.select query)) fun delivery _ reply returned => ?_
  have ran := World.exec_of_ok returned
  rw [ran] at returned
  have read : query.eval (start.view who) = reply := Except.ok.inj returned
  rw [World.view_closed (filled.1.sessions who), filled.2.1] at read
  exact read.symm

/-- An answer that is right is stored. -/
theorem solo_store {key : CacheKey} {value : CacheValue} (ttlMs : Nat) {start : World}
    (filled : world.Filled start deployment)
    (right : world.db.Answers deployment (Function.update start.cache key (some value))) :
    Solo backend Sure who (fun _ last => world.Filled last deployment)
      (swallow (call (.cacheSet key value ttlMs))) start := by
  have stores : Solo backend Sure who (fun _ last => world.Filled last deployment)
      (call (.cacheSet key value ttlMs)) start := by
    refine solo_redis (.cacheSet key value ttlMs) trivial ?_
    have aside : start.Aside (start.perform who (.cacheSet key value ttlMs)).2 :=
      World.perform_neutral trivial
    refine ⟨filled.1.aside aside, aside.db.trans filled.2.1, ?_⟩
    rw [aside.db, filled.2.1]
    exact right
  exact stores.swallow fun _ _ filled => filled

/-- A listing leaves the page of the database. -/
theorem queryPage_answers (dto : ListPaymentsDto) {start : World}
    (filled : world.Filled start deployment) :
    Solo backend Sure who (fun _ last => world.Filled last deployment) (queryPage deployment dto)
      start := by
  refine (solo_query _ filled).bind (fun reply middle read => ?_) fun _ _ read => read.1
  obtain ⟨filled, read⟩ := read
  obtain ⟨data, total⟩ := reply
  have page : pageResult dto data total = world.db.page deployment dto := by
    unfold Database.page
    rw [← read _ rfl]
  change Solo backend Sure who _ (if Dateless dto then
    (swallow (call (.cacheSet (listCacheKey dto) (.page (pageResult dto data total))
      listCacheTtlMs))).bind fun _ => .ret (pageResult dto data total)
    else .ret (pageResult dto data total)) middle
  by_cases dateless : Dateless dto
  · rw [if_pos dateless, page]
    have right : world.db.Answers deployment middle.cache := by
      rw [← filled.2.1]
      exact filled.2.2
    exact (solo_store _ filled (right.storePage dateless)).bind (fun _ _ filled => .ret filled)
      fun _ _ filled => filled
  · rw [if_neg dateless]
    exact .ret filled

theorem findAll_answers (dto : ListPaymentsDto) (filled : world.Filled world deployment) :
    Solo backend Sure who (fun _ last => world.Filled last deployment) (findAll deployment dto)
      world := by
  unfold findAll
  by_cases dateless : Dateless dto
  · rw [if_pos dateless]
    have only : (call (.cacheGet (listCacheKey dto))).OnlyCalls fun op =>
        op.Neutral ∧ op.Unfilling := onlyCalls_perform ⟨trivial, trivial⟩
    refine (solo_reads filled only).bind (fun cached middle filled => ?_) fun _ _ filled => filled
    cases cached with
    | none => exact queryPage_answers dto filled
    | some value =>
        cases value with
        | page result => exact .ret filled
        | response _ _ | rate _ | stats _ => exact queryPage_answers dto filled
  · rw [if_neg dateless]
    exact queryPage_answers dto filled

/-- The statistics leave the totals of the database. -/
theorem queryStats_answers {start : World} (filled : world.Filled start deployment) :
    Solo backend Sure who (fun _ last => world.Filled last deployment) queryStats start := by
  have clock : newDate.OnlyCalls fun op => op.Neutral ∧ op.Unfilling :=
    onlyCalls_perform ⟨trivial, trivial⟩
  refine (solo_reads filled clock).bind (fun now second filled => ?_) fun _ _ filled => filled
  refine (solo_query _ filled).bind (fun totals third read => ?_) fun _ _ read => read.1
  obtain ⟨filled, read⟩ := read
  refine (solo_query _ filled).bind (fun stuck fourth counted => ?_) fun _ _ counted => counted.1
  have found : totals = world.db.statusTotals := read totals rfl
  subst found
  have right : world.db.Answers deployment fourth.cache := by
    rw [← counted.1.2.1]
    exact counted.1.2.2
  exact (solo_store _ counted.1 (right.storeStats stuck)).bind (fun _ _ filled => .ret filled)
    fun _ _ filled => filled

theorem getStats_answers (filled : world.Filled world deployment) :
    Solo backend Sure who (fun _ last => world.Filled last deployment) getStats world := by
  have only : (call (.cacheGet .stats)).OnlyCalls fun op => op.Neutral ∧ op.Unfilling :=
    onlyCalls_perform ⟨trivial, trivial⟩
  refine (solo_reads filled only).bind (fun cached middle filled => ?_) fun _ _ filled => filled
  cases cached with
  | none => exact queryStats_answers filled
  | some value =>
      cases value with
      | stats result => exact .ret filled
      | response _ _ | rate _ | page _ => exact queryStats_answers filled

/-- A query of a process without a transaction. -/
theorem succeeds_query (resting : world.AtRest) (query : Query) :
    Succeeds who (fun reply last => reply = query.eval world.db ∧ last = world)
      (sql (.select query)) world := by
  rw [← World.view_closed (resting.sessions who)]
  have done : world.perform who (.sql (.select query)) =
    (.ok (query.eval (world.view who)), world) :=
    rfl
  exact succeeds_call done ⟨rfl, rfl⟩

/-- What `findAll` answers where the cache has no answer. -/
theorem succeeds_queryPage (resting : world.AtRest) (dto : ListPaymentsDto) :
    Succeeds who (fun page _ => page = world.db.page deployment dto) (queryPage deployment dto)
      world := by
  apply (succeeds_query resting _).bind
  intro reply later read
  obtain ⟨found, rfl⟩ := read
  obtain ⟨data, total⟩ := reply
  have page : pageResult dto data total = later.db.page deployment dto := by
    unfold Database.page
    rw [← found]
  rw [← page]
  change Succeeds who _ (if Dateless dto then
    (swallow (call (.cacheSet (listCacheKey dto) (.page (pageResult dto data total))
      listCacheTtlMs))).bind fun _ => .ret (pageResult dto data total)
    else .ret (pageResult dto data total)) later
  by_cases dateless : Dateless dto
  · rw [if_pos dateless]
    have stores : Succeeds who (fun _ _ => True) (swallow (call (.cacheSet (listCacheKey dto)
        (.page (pageResult dto data total)) listCacheTtlMs))) later :=
      Completes.swallow (succeeds_call rfl trivial)
    exact stores.bind fun _ _ _ => Completes.ret rfl
  · rw [if_neg dateless]
    exact Completes.ret rfl

/-- What `getStats` answers where the cache has no answer. -/
theorem succeeds_queryStats (resting : world.AtRest) :
    Succeeds who (fun stats _ => ∃ stuck, stats = statsResult world.db.statusTotals stuck)
      queryStats world := by
  have told : world.perform who .now = (.ok (world.clock / 1000 * 1000), world) := rfl
  have reads : Succeeds who (fun _ last => last = world) newDate world := succeeds_call told rfl
  apply reads.bind
  intro now second same
  cases same
  apply (succeeds_query resting _).bind
  intro totals third read
  obtain ⟨found, rfl⟩ := read
  apply (succeeds_query resting _).bind
  intro stuck fourth counted
  obtain ⟨_, rfl⟩ := counted
  have stores : Succeeds who (fun _ _ => True) (swallow (call (.cacheSet .stats
      (.stats (statsResult totals stuck)) statsCacheTtlMs))) fourth :=
    Completes.swallow (succeeds_call rfl trivial)
  refine stores.bind fun _ _ _ => Completes.ret ⟨stuck, ?_⟩
  rw [found]
  rfl

end Steps

/-! ## Runs -/

/-- The answers in the cache are those a query would give. -/
structure World.CacheAgrees (world : World) (deployment : Deployment) : Prop where
  pages : ∀ (who : ProcessId) dto, Dateless dto → ∀ page,
    world.cache (listCacheKey dto) = some (.page page) →
      (backend.run who (findAll deployment dto) [] world).outcome = .ok page ∧
      (backend.run who (queryPage deployment dto) [] world).outcome = .ok page
  stats : ∀ (who : ProcessId) stats, world.cache .stats = some (.stats stats) →
    (backend.run who getStats [] world).outcome = .ok stats ∧
    ∃ fresh, (backend.run who queryStats [] world).outcome = .ok fresh ∧
      stats.counts = fresh.counts ∧ stats.totalVolumeByStatus = fresh.totalVolumeByStatus

/-- One step of a serial run with listings and statistics in which Redis answers. -/
inductive CachedStep (deployment : Deployment) (admits : World → Command → Prop) :
    World → World → Prop
  | command {world : World} (who : ProcessId) (command : Command) (choices : List Delivery)
      (admitted : admits world command)
      (sure : ∀ entry ∈ backend.calls who (command.program deployment) choices world,
        Sure entry.1 entry.2) :
      CachedStep deployment admits world
        (backend.run who (command.program deployment) choices world).state
  | findAll {world : World} (who : ProcessId) (dto : ListPaymentsDto) (choices : List Delivery)
      (sure : ∀ entry ∈ backend.calls who (PaymentsService.findAll deployment dto) choices world,
        Sure entry.1 entry.2) :
      CachedStep deployment admits world
        (backend.run who (PaymentsService.findAll deployment dto) choices world).state
  | getStats {world : World} (who : ProcessId) (choices : List Delivery)
      (sure : ∀ entry ∈ backend.calls who PaymentsService.getStats choices world,
        Sure entry.1 entry.2) :
      CachedStep deployment admits world
        (backend.run who PaymentsService.getStats choices world).state
  | elapse {world next : World} (elapses : world.Elapses next) :
      CachedStep deployment admits world next

abbrev CachedRun (deployment : Deployment) (admits : World → Command → Prop) :
    World → World → Prop :=
  Relation.ReflTransGen (CachedStep deployment admits)

section Runs

variable {deployment : Deployment} {world next : World}

/-- Each step keeps the cached answers right. -/
theorem CachedStep.answers (step : CachedStep deployment Command.Unnoticed world next)
    (rest : world.AtRest) (answers : world.db.Answers deployment world.cache) :
    next.AtRest ∧ next.db.Answers deployment next.cache := by
  have filled : world.Filled world deployment := ⟨rest, rfl, answers⟩
  cases step with
  | command who command choices unnoticed sure =>
      exact Command.run_answers rest command choices answers unnoticed sure
  | findAll who dto choices sure =>
      obtain ⟨rested, _, right⟩ := findAll_answers dto filled choices sure
      exact ⟨rested, right⟩
  | getStats who choices sure =>
      obtain ⟨rested, _, right⟩ := getStats_answers filled choices sure
      exact ⟨rested, right⟩
  | elapse elapses =>
      have aside := World.Elapses.aside elapses
      refine ⟨rest.aside aside, ?_⟩
      rw [aside.db]
      exact answers.drop fun key _ => elapses.cache key

/-- Right answers are what the queries give. -/
theorem World.agrees_of_answers (rest : world.AtRest)
    (answers : world.db.Answers deployment world.cache) : world.CacheAgrees deployment := by
  refine ⟨fun who dto dateless page cached => ?_, fun who stats cached => ?_⟩
  · have found : Succeeds who (fun reply _ => reply = page) (findAll deployment dto) world := by
      unfold findAll
      rw [if_pos dateless]
      have hit : world.perform who (.cacheGet (listCacheKey dto)) =
          (.ok (some (.page page)), world) := by
        rw [← cached]
        rfl
      have gets : Succeeds who (fun reply _ => reply = some (.page page))
          (call (.cacheGet (listCacheKey dto))) world := succeeds_call hit rfl
      apply gets.bind
      intro reply later same
      subst same
      exact Completes.ret rfl
    have queried : Succeeds who (fun reply _ => reply = world.db.page deployment dto)
        (queryPage deployment dto) world := succeeds_queryPage rest dto
    obtain ⟨_, _, ran, rfl⟩ := found
    obtain ⟨_, _, read, rfl⟩ := queried
    rw [ran, read, ← answers.pages dto dateless _ cached]
    exact ⟨rfl, rfl⟩
  · have found : Succeeds who (fun reply _ => reply = stats) getStats world := by
      have hit : world.perform who (.cacheGet .stats) = (.ok (some (.stats stats)), world) := by
        rw [← cached]
        rfl
      have gets : Succeeds who (fun reply _ => reply = some (.stats stats))
          (call (.cacheGet .stats)) world := succeeds_call hit rfl
      apply gets.bind
      intro reply later same
      subst same
      exact Completes.ret rfl
    obtain ⟨_, _, ran, rfl⟩ := found
    have queried : Succeeds who _ queryStats world := succeeds_queryStats rest
    obtain ⟨fresh, _, read, stuck, same⟩ := queried
    rw [ran, read, same]
    exact ⟨rfl, _, rfl, answers.counts _ cached, answers.volumes _ cached⟩

end Runs

/-- In every serial run with listings and statistics in which Redis answers, no attempt of the
provider's job and no dead-letter handler changing a payment that a cached answer shows or
counts, what is answered from the cache is what the query would give. -/
theorem cached_reads_agree (deployment : Deployment) {initial last : World} (rest : initial.AtRest)
    (answers : initial.db.Answers deployment initial.cache)
    (run : CachedRun deployment Command.Unnoticed initial last) : last.CacheAgrees deployment := by
  have kept : last.AtRest ∧ last.db.Answers deployment last.cache := by
    induction run with
    | refl => exact ⟨rest, answers⟩
    | tail _ step ih => exact step.answers ih.1 ih.2
  exact World.agrees_of_answers kept.1 kept.2

/-- The second page of all payments. -/
def secondPage : ListPaymentsDto := { page := 2 }

/-- The sample payment was created and the second page, which is empty, was listed. -/
def secondPageWorld : World :=
  (backend.run 0 (findAll sampleDeployment secondPage) [] createdWorld).state

/-- An attempt goes unnoticed where only the second page is cached. -/
theorem process_unnoticed : (Command.process sampleJob).Unnoticed secondPageWorld := by
  intro row _ _ dto _ page cached shows
  by_cases same : listCacheKey dto = listCacheKey secondPage
  · rw [same] at cached
    have listed : secondPageWorld.cache (listCacheKey secondPage) =
        some (.page (createdWorld.db.page sampleDeployment secondPage)) := by decide
    rw [listed] at cached
    cases cached
    exact absurd shows (by decide)
  · have kept : secondPageWorld.cache (listCacheKey dto) = createdWorld.cache (listCacheKey dto) :=
      Function.update_of_ne same _ _
    rw [kept] at cached
    cases cached

/-- A run in which a page stays cached while a payment is submitted. -/
theorem cached_reads_agree_sample :
    let last := (backend.run 0 ((Command.process sampleJob).program sampleDeployment) []
      secondPageWorld).state
    last.cache (listCacheKey secondPage) ≠ none ∧ last.CacheAgrees sampleDeployment := by
  intro last
  have created : CachedRun sampleDeployment Command.Unnoticed sampleWorld createdWorld :=
    .single (.command 0 (.createPayment samplePayment "key") [] trivial (by decide))
  have listed : CachedRun sampleDeployment Command.Unnoticed sampleWorld secondPageWorld :=
    created.tail (.findAll 0 secondPage [] (by decide))
  have run : CachedRun sampleDeployment Command.Unnoticed sampleWorld last :=
    listed.tail (.command 0 (.process sampleJob) [] process_unnoticed (by decide))
  have empty : sampleWorld.Swept := fun _ _ => rfl
  exact ⟨by decide, cached_reads_agree sampleDeployment sampleWorld_atRest empty.answers run⟩

/-- The payment was counted in progress when its job was exhausted. -/
def staleStatistics : World :=
  (backend.run 0 ((Command.onProviderJobExhausted (.serial 0) "failed").program sampleDeployment) []
    (backend.run 0 getStats [] createdWorld).state.giveUp).state

/-- The payment was listed without a provider reference when it was submitted. -/
def staleListing : World :=
  (backend.run 0 ((Command.process sampleJob).program sampleDeployment) []
    (backend.run 0 (findAll sampleDeployment {}) [] createdWorld).state).state

/-- Both operations leave answers in the cache that are no longer those of the database. -/
theorem cached_reads_stale :
    CachedRun sampleDeployment (fun _ _ => True) sampleWorld staleStatistics ∧
    ¬ staleStatistics.CacheAgrees sampleDeployment ∧
    CachedRun sampleDeployment (fun _ _ => True) sampleWorld staleListing ∧
    ¬ staleListing.CacheAgrees sampleDeployment := by
  have created : CachedRun sampleDeployment (fun _ _ => True) sampleWorld createdWorld :=
    .single (.command 0 (.createPayment samplePayment "key") [] trivial (by decide))
  refine ⟨?_, fun agrees => ?_, ?_, fun agrees => ?_⟩
  · have counted := created.tail (.getStats 0 [] (by decide))
    exact (counted.tail (.elapse (World.giveUp_elapses _))).tail
      (.command 0 (.onProviderJobExhausted (.serial 0) "failed") [] trivial (by decide))
  · have cached : staleStatistics.cache .stats =
        some (.stats (statsResult createdWorld.db.statusTotals 0)) := by decide
    obtain ⟨_, fresh, ran, counts, _⟩ := agrees.stats 0 _ cached
    have found : (backend.run 0 queryStats [] staleStatistics).outcome.map StatsResult.counts =
        .ok [(.failed, 1)] := by decide
    rw [ran] at found
    have failed : fresh.counts = [(.failed, 1)] := Except.ok.inj found
    rw [failed] at counts
    exact absurd counts (by decide)
  · have listed := created.tail (.findAll 0 {} [] (by decide))
    exact listed.tail (.command 0 (.process sampleJob) [] trivial (by decide))
  · have cached : staleListing.cache (listCacheKey {}) =
        some (.page (createdWorld.db.page sampleDeployment {})) := by decide
    obtain ⟨_, queried⟩ := agrees.pages 0 {} (by decide) _ cached
    exact absurd queried (by decide)

end Payroute
