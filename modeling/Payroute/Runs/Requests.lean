import Payroute.Runs.Creation
import Payroute.Services.Idempotency

/-! # Requests for a payment

A request with an idempotency key that runs alone: the interceptor's own calls leave
the books alone, so the request leaves what its handler leaves. A request whose key
has a recorded response does not reach the handler.
-/

namespace Payroute

open EffectSystem KeyedTable Program IdempotencyInterceptor

/-! ## The calls of the interceptor -/

/-- Calls that leave the books alone, made outside of transactions. -/
def Operation.Bookless : Operation → Prop
  | .sql (.insertKey _ _) | .sql (.updateKey _ _ _) => True
  | op => op.Idle

/-- An idle call books nothing. -/
theorem Operation.Idle.bookless {op : Operation} (idle : op.Idle) : op.Bookless := by
  cases op with
  | sql statement =>
      cases statement with
      | insertKey _ _ | updateKey _ _ _ => trivial
      | _ => exact idle
  | _ => exact idle

/-- A call that books nothing does no harm outside of a transaction. -/
theorem Operation.Bookless.harmless {op : Operation} (bookless : op.Bookless) : op.Harmless := by
  cases op with
  | commit => exact bookless.1.elim
  | queueAdd _ _ _ => exact bookless.2.elim
  | _ => trivial

section Calm

variable {fine : Operation → Delivery → Prop} {who : ProcessId} {α : Type} {first second : World}

/-- A statement on the idempotency keys leaves the books alone. -/
theorem World.AtRest.exec_side (rest : first.AtRest) (who : ProcessId) (delivery : Delivery)
    {statement : Statement} (side : statement.IsSide) :
    first.Calm (World.exec who delivery (.sql statement) first).2 := by
  have skips : (serial first).Outside (fun _ _ => False) who (fun _ _ => True) (sql statement)
      first := Setting.Outside.skipSide side fun _ _ => trivial
  have calm : Solo backend (fun _ _ => True) who (fun _ last => True ∧ first.Calm last)
      (sql statement) first :=
    solo_beside (fun _ _ => True) skips (onlyCalls_perform trivial) rest rfl
  have ran : (backend.run who (sql statement) [delivery] first).state =
      (World.exec who delivery (.sql statement) first).2 := by
    rw [← bind_ret (sql statement)]
    refine (congrArg _ (Machine.run_perform_bind backend who (.sql statement) _ _ _)).trans ?_
    cases (backend.exec who [delivery].headI (.sql statement) first).1 with
    | ok value => rfl
    | error error => rfl
  rw [← ran]
  exact (calm [delivery] fun _ _ => trivial).2

/-- It keeps the calm of a world. -/
theorem World.Calm.exec (calm : first.Calm second) (who : ProcessId) (delivery : Delivery)
    {op : Operation} (bookless : op.Bookless) :
    first.Calm (World.exec who delivery op second).2 := by
  by_cases idle : op.Idle
  · exact calm.trans (calm.rest.still.exec who delivery idle).calm
  · cases op with
    | sql statement =>
        cases statement with
        | insertKey _ _ | updateKey _ _ _ =>
            exact calm.trans (calm.rest.exec_side who delivery trivial)
        | _ => exact (idle bookless).elim
    | _ => exact (idle bookless).elim

/-- A world at rest is calm. -/
theorem World.AtRest.calm (rest : first.AtRest) : first.Calm first := rest.still.calm

/-- Code that makes such calls only. -/
theorem solo_calm (calm : first.Calm second) {body : Service α}
    (only : body.OnlyCalls Operation.Bookless) :
    Solo backend fine who (fun _ last => first.Calm last) body second :=
  Solo.keeps (fun last => first.Calm last)
    (fun delivery _ _ bookless held => held.exec who delivery bookless) only calm

end Calm

namespace IdempotencyInterceptor

variable (key : String) (token : LockToken) (response : Response)

/-- A single call that books nothing. -/
theorem bookless_call {op : Operation} (bookless : op.Bookless) :
    (call op).OnlyCalls Operation.Bookless := onlyCalls_perform bookless

/-- A cached response is read idly. -/
theorem idle_getResponse : (getResponse key).OnlyCalls Operation.Idle :=
  onlyCalls_getResponse key ⟨trivial, trivial⟩

/-- So it is written. -/
theorem idle_setResponse : (setResponse key response).OnlyCalls Operation.Idle :=
  onlyCalls_perform ⟨trivial, trivial⟩

/-- So is it waited for. -/
theorem idle_poll (remaining : Nat) : (poll key remaining).OnlyCalls Operation.Idle :=
  onlyCalls_poll key remaining ⟨trivial, trivial⟩ ⟨trivial, trivial⟩

/-- An idle program books nothing. -/
theorem bookless_of_idle {α : Type} {body : Service α} (idle : body.OnlyCalls Operation.Idle) :
    body.OnlyCalls Operation.Bookless := idle.mono fun _ => Operation.Idle.bookless

/-- Releasing a lock books nothing. -/
theorem bookless_releaseLock (lock : LockKey) :
    (releaseLock lock token).OnlyCalls Operation.Bookless :=
  bookless_of_idle (idle_releaseLock _ _)

/-- Nor does looking for a recorded response. -/
theorem bookless_preCheck : (preCheck key token).OnlyCalls Operation.Bookless :=
  onlyCalls_preCheck ⟨trivial, trivial⟩ (fun _ => ⟨trivial, trivial⟩) ⟨trivial, trivial⟩
    ⟨trivial, trivial⟩ fun _ => trivial

/-- Nor does recording one. -/
theorem bookless_persist (cacheFirst : Bool) :
    (persist cacheFirst key token response).OnlyCalls Operation.Bookless :=
  onlyCalls_persist cacheFirst (fun _ => ⟨trivial, trivial⟩) trivial ⟨trivial, trivial⟩

end IdempotencyInterceptor

/-! ## What a request leaves -/

/-- What a request that started in `first` leaves: the books as they were, or a payment,
and then it was answered unless a call failed after it took effect. -/
def Served (dto : CreatePaymentDto) (first : World) {α : Type} (outcome : Except Failure α)
    (last : World) (log : CallLog) : Prop :=
  last.AtRest ∧ (first.db.SameBooks last.db ∨ ∃ saved, first.db.Reserves dto saved last.db ∧
    (log.Dependable → (.commit, .delivered) ∈ log ∧ ∃ value, outcome = .ok value))

section Served

variable {who : ProcessId} {dto : CreatePaymentDto} {deployment : Deployment} {world start : World}
  {log : CallLog} {key idempotencyKey : String} {token : LockToken}

/-- A request that only made calm steps has been served, whatever its outcome. -/
theorem World.Calm.served {α : Type} {outcome : Except Failure α} (calm : world.Calm start) :
    Served dto world outcome start log := ⟨calm.rest, .inl calm.books⟩

/-- A payment that was created is one that was reserved or none. -/
theorem Created.reserved {outcome : Except Failure Transaction} {last : World}
    (created : Created dto idempotencyKey world outcome last log) :
    Reserved dto world outcome last log := by
  rcases created with ⟨saved, returned, reserves, clean, committed, _⟩ |
    ⟨error, failed, same, _, clean⟩ |
    broken
  · exact .inl ⟨saved, returned, reserves, clean, committed⟩
  · exact .inr (.inl ⟨error, failed, same, clean⟩)
  · exact .inr (.inr broken)

/-- What was reserved counts from any earlier tables with the same books. -/
theorem Reserved.before {outcome : Except Failure Transaction} {last : World}
    (reserved : Reserved dto start outcome last log) (same : world.db.SameBooks start.db) :
    Reserved dto world outcome last log := by
  rcases reserved with ⟨saved, returned, reserves, rest⟩ | ⟨error, failed, books, clean⟩ |
    ⟨error, saved, failed, reserves, unclean⟩
  · exact .inl ⟨saved, returned, same.reserves reserves, rest⟩
  · exact .inr (.inl ⟨error, failed, same.trans books, clean⟩)
  · exact .inr (.inr ⟨error, saved, failed, same.reserves reserves, unclean⟩)

/-- The interceptor's own steps. -/
theorem tracked_calm {α : Type} {body : Service α} (calm : world.Calm start)
    (clean : log.Dependable) (only : body.OnlyCalls Operation.Bookless) :
    Tracked who (fun _ last => world.Calm last.1 ∧ last.2.Dependable) body start log := by
  refine (tracked_harmless (solo_calm calm only) only fun _ bookless => bookless.harmless).mono ?_
  exact fun _ _ ended => ⟨ended.1, ended.2.dependable.mpr clean⟩

/-- The handler under the lock of the key. -/
theorem tracked_handle (calm : world.Calm start) (clean : log.Dependable) (cacheFirst : Bool)
    (deployment : Deployment) (dto : CreatePaymentDto) :
    Tracked who (fun outcome last => Served dto world outcome last.1 last.2 ∧
        ∀ answered, outcome = .ok answered → answered.2.OnlyCalls Operation.Bookless)
      (handle cacheFirst key token
        (PaymentsService.createPayment deployment dto idempotencyKey)) start log := by
  have handled : Tracked who (fun outcome last => last.1.AtRest ∧
      Reserved dto world outcome last.1 last.2)
      (tryCatch (PaymentsService.createPayment deployment dto idempotencyKey) fun error => do
        releaseLock (.idempotency key) token
        .fail error) start log := by
    refine (tracked_createPayment calm.rest clean deployment dto idempotencyKey).tryCatch ?_ ?_
    · intro saved last ended
      exact ⟨ended.1, ended.2.reserved.before calm.books⟩
    · intro error last ended
      obtain ⟨last, log⟩ := last
      obtain ⟨rest, created⟩ := ended
      have reserved := created.reserved.before calm.books
      have idle := idle_releaseLock (.idempotency key) token
      have released : Tracked who (fun _ final => last.Still final.1 ∧ CallLog.Extends log final.2)
          (releaseLock (.idempotency key) token) last log :=
        tracked_harmless (solo_still rest.still idle) idle fun _ idle => idle.harmless
      refine released.bind ?_ ?_
      · intro _ final ended
        exact .fail ⟨ended.1.rest, reserved.error ended.1.db ended.2.dependable⟩
      · intro _ final ended
        exact ⟨ended.1.rest, reserved.error ended.1.db ended.2.dependable⟩
  refine handled.bind ?_ ?_
  · intro saved last ended
    obtain ⟨rest, reserved⟩ := ended
    refine .ret ⟨⟨rest, .inr ?_⟩, fun answered same => ?_⟩
    · rcases reserved with ⟨_, same, reserves, _, committed⟩ | ⟨_, absurd, _⟩ | ⟨_, _, absurd, _⟩
      · cases same
        exact ⟨saved, reserves, fun _ => ⟨committed, _, rfl⟩⟩
      · cases absurd
      · cases absurd
    · cases same
      exact bookless_persist key token _ cacheFirst
  · intro error last ended
    obtain ⟨rest, reserved⟩ := ended
    refine ⟨⟨rest, ?_⟩, fun _ absurd => by cases absurd⟩
    rcases reserved with ⟨_, absurd, _⟩ | ⟨_, _, same, _⟩ | ⟨_, saved, _, reserves, unclean⟩
    · cases absurd
    · exact .inl same
    · exact .inr ⟨saved, reserves, fun clean => (unclean clean).elim⟩

/-- A request with a key is served, and its remaining work books nothing. -/
theorem tracked_intercept (rest : world.AtRest) (clean : log.Dependable) (cacheFirst : Bool)
    (deployment : Deployment) (dto : CreatePaymentDto) :
    Tracked who (fun outcome last => Served dto world outcome last.1 last.2 ∧
        ∀ answered, outcome = .ok answered → answered.2.OnlyCalls Operation.Bookless)
      (intercept cacheFirst key (PaymentsService.createPayment deployment dto idempotencyKey))
      world log := by
  have fails : ∀ {error : Failure} {last : World × CallLog}, world.Calm last.1 ∧ last.2.Dependable →
      Served dto world (.error error : Except Failure (Response × Service Unit)) last.1 last.2 ∧
        ∀ answered, (.error error : Except Failure (Response × Service Unit)) = .ok answered →
          answered.2.OnlyCalls Operation.Bookless :=
    fun ended => ⟨ended.1.served, fun _ absurd => by cases absurd⟩
  have answers : ∀ {response : Response} {last : World × CallLog},
      world.Calm last.1 ∧ last.2.Dependable →
      Tracked who (fun outcome last => Served dto world outcome last.1 last.2 ∧
        ∀ answered : Response × Service Unit, outcome = .ok answered →
          answered.2.OnlyCalls Operation.Bookless)
        (.ret (response, .ret ())) last.1 last.2 := by
    intro response last ended
    refine .ret ⟨ended.1.served, fun answered same => ?_⟩
    cases same
    trivial
  refine (tracked_calm rest.calm clean (bookless_of_idle (idle_getResponse key))).bind ?_
    fun _ _ ended => fails ended
  intro cached second ended
  cases cached with
  | some response => exact answers ended
  | none =>
      refine (tracked_calm ended.1 ended.2 (bookless_of_idle (idle_acquireLock _ _))).bind ?_
        fun _ _ ended => fails ended
      intro token third ended
      cases token with
      | none =>
          refine (tracked_calm ended.1 ended.2 (bookless_of_idle (idle_poll key _))).bind ?_
            fun _ _ ended => fails ended
          exact fun response last ended => answers ended
      | some token =>
          refine (tracked_calm ended.1 ended.2 (bookless_preCheck key token)).bind ?_
            fun _ _ ended => fails ended
          intro known last ended
          cases known with
          | some response => exact answers ended
          | none => exact tracked_handle ended.1 ended.2 cacheFirst deployment dto

/-- What a whole request leaves. -/
theorem tracked_serve (rest : world.AtRest) (clean : log.Dependable) (cacheFirst : Bool)
    (deployment : Deployment) (dto : CreatePaymentDto) :
    Tracked who (fun outcome last => Served dto world outcome last.1 last.2)
      (serve cacheFirst key (PaymentsService.createPayment deployment dto idempotencyKey))
      world log := by
  refine (tracked_intercept rest clean cacheFirst deployment dto).bind ?_
    fun _ _ ended => ?_
  · intro answered last ended
    obtain ⟨last, log⟩ := last
    obtain ⟨⟨rested, books⟩, bookless⟩ := ended
    have records := bookless answered rfl
    have recorded : Tracked who (fun outcome final => outcome = .ok () ∧ last.Calm final.1 ∧
        CallLog.Extends log final.2) (swallow answered.2) last log :=
      Solo.swallow (tracked_harmless (solo_calm rested.calm records) records
        fun _ bookless => bookless.harmless) fun _ _ ended => ⟨rfl, ended⟩
    refine recorded.bind ?_ ?_
    · intro _ final ended
      obtain ⟨_, calm, more⟩ := ended
      refine .ret ⟨calm.rest, books.imp (fun same => same.trans calm.books) ?_⟩
      intro ⟨saved, reserves, answers⟩
      refine ⟨saved, reserves.trans calm.books, fun clean => ?_⟩
      exact ⟨more.mem (answers (more.dependable.mp clean)).1, _, rfl⟩
    · intro _ _ ended
      cases ended.1
  · obtain ⟨⟨rested, books⟩, _⟩ := ended
    refine ⟨rested, books.imp_right ?_⟩
    intro ⟨saved, reserves, answers⟩
    refine ⟨saved, reserves, fun clean => ?_⟩
    obtain ⟨_, _, absurd⟩ := answers clean
    cases absurd

end Served

/-! ## Known keys -/

/-- The response to the key is in the cache. -/
def World.Caches (world : World) (key : String) : Prop :=
  ∃ body statusCode, world.cache (.idempotency key) = some (.response body statusCode)

/-- The response to the key is in the table. -/
def Database.Recalls (db : Database) (key : String) : Prop :=
  ∃ row ∈ db.idempotencyKeys.get? key, row.responseBody.isSome = true

instance (db : Database) (key : String) : Decidable (db.Recalls key) :=
  inferInstanceAs (Decidable (∃ row ∈ db.idempotencyKeys.get? key, row.responseBody.isSome = true))

/-- The lookup of the key in the table is answered. -/
def Consults (key : String) (op : Operation) (delivery : Delivery) : Prop :=
  op = .sql (.select (.idempotencyKey key)) → delivery = .delivered

instance (key : String) (op : Operation) (delivery : Delivery) :
    Decidable (Consults key op delivery) := inferInstanceAs (Decidable (_ → _))

section Known

variable {fine : Operation → Delivery → Prop} {who : ProcessId} {world : World} {key : String}
  {token : LockToken}

/-- Run alone, a missing answer means that the cache has none. -/
theorem solo_getResponse (rest : world.AtRest) (key : String) :
    Solo backend fine who (fun outcome last => world.Still last ∧
      (outcome = .ok none → ¬ world.Caches key)) (getResponse key) world := by
  refine (solo_still rest.still (idle_getResponse key)).and ?_
  have reads : Solo backend fine who
      (fun outcome _ => ∀ found, outcome = .ok found → found = world.cache (.idempotency key))
      (call (.cacheGet (.idempotency key))) world := by
    refine solo_call (.cacheGet (.idempotency key)) fun delivery _ found returned => ?_
    have ran := World.exec_of_ok returned
    rw [ran] at returned
    exact (Except.ok.inj returned).symm
  refine reads.bind (fun found later read => ?_) fun _ _ _ absurd => by cases absurd
  have read := read found rfl
  cases found with
  | none =>
      refine .ret fun _ cached => ?_
      obtain ⟨_, _, there⟩ := cached
      rw [← read] at there
      cases there
  | some value =>
      cases value with
      | response body statusCode => exact .ret fun absurd => by cases absurd
      | rate _ | page _ | stats _ =>
          refine .ret fun _ cached => ?_
          obtain ⟨_, _, there⟩ := cached
          rw [← read] at there
          cases there

/-- The lookup finds a recorded response. -/
theorem solo_preCheck (rest : world.AtRest) (recalls : world.db.Recalls key)
    (consults : ∀ op delivery, fine op delivery → Consults key op delivery) :
    Solo backend fine who (fun outcome last => world.Still last ∧
      ∃ response, outcome = .ok (some response)) (preCheck key token) world := by
  obtain ⟨row, found, answered⟩ := recalls
  obtain ⟨body, answered⟩ := Option.isSome_iff_exists.mp answered
  have selects : Solo backend fine who (fun outcome last => world.Still last ∧
      outcome = .ok (some row)) (sql (.select (.idempotencyKey key))) world := by
    have idle : (sql (.select (.idempotencyKey key))).OnlyCalls Operation.Idle :=
      onlyCalls_perform ⟨trivial, trivial⟩
    refine (solo_still rest.still idle).and ?_
    refine solo_call (.sql (.select (.idempotencyKey key))) fun delivery allowed => ?_
    cases consults _ _ allowed rfl
    change Except.ok ((world.view who).idempotencyKeys.get? key) = _
    rw [World.view_closed (rest.sessions who)]
    exact congrArg Except.ok found
  have looks : Solo backend fine who (fun outcome last => world.Still last ∧
      ∃ response, outcome = .ok (some response)) (lookup key token) world := by
    refine selects.bind (fun read second ended => ?_) fun _ _ ended => by cases ended.2
    obtain ⟨still, same⟩ := ended
    cases same
    have known : (some row).bind recorded = some ⟨body, row.statusCode.getD 0⟩ := by
      simp only [Option.bind_some, recorded, answered, Option.map_some]
    simp only [known]
    have swallows : ∀ {body : Service Unit} {start : World}, world.Still start →
        body.OnlyCalls Operation.Idle →
          Solo backend fine who (fun outcome last => outcome = .ok () ∧
          world.Still last) (swallow body) start :=
      fun still only => Solo.swallow (solo_still still only) fun _ _ still => ⟨rfl, still⟩
    refine (swallows still (idle_setResponse key _)).bind (fun _ third cached => ?_)
      fun _ _ ended => by cases ended.1
    have releases : (call (.releaseLock (.idempotency key) token)).OnlyCalls Operation.Idle :=
      onlyCalls_perform ⟨trivial, trivial⟩
    refine (swallows cached.2 releases).bind (fun _ last released => ?_)
      fun _ _ ended => by cases ended.1
    exact .ret ⟨released.2, _, rfl⟩
  exact looks.tryCatch (fun _ _ ended => ended) fun _ _ ended => by
    obtain ⟨_, _, absurd⟩ := ended
    cases absurd

/-- A request whose key has a recorded response leaves the books alone. -/
theorem solo_serve_known (rest : world.AtRest) (cacheFirst : Bool) (handler : Service Transaction)
    (known : world.Caches key ∨ world.db.Recalls key ∧
      ∀ op delivery, fine op delivery → Consults key op delivery) :
    Solo backend fine who (fun _ last => world.Calm last) (serve cacheFirst key handler) world := by
  have answers : Solo backend fine who (fun outcome last => world.Calm last ∧
      ∀ answered, outcome = .ok answered → answered.2 = .ret ())
      (intercept cacheFirst key handler) world := by
    have replies : ∀ {response : Response} {last : World}, world.Calm last →
        Solo backend fine who (fun outcome last => world.Calm last ∧
          ∀ answered : Response × Service Unit, outcome = .ok answered → answered.2 = .ret ())
          (.ret (response, .ret ())) last := by
      intro response last calm
      refine .ret ⟨calm, fun answered same => ?_⟩
      cases same
      rfl
    refine (solo_getResponse rest key).bind ?_
      fun _ _ ended => ⟨ended.1.calm, fun _ absurd => by cases absurd⟩
    intro cached second ended
    obtain ⟨still, read⟩ := ended
    cases cached with
    | some response => exact replies still.calm
    | none =>
        rcases known with cached | ⟨recalls, consults⟩
        · exact (read rfl cached).elim
        refine (solo_still still (idle_acquireLock _ _)).bind ?_
          fun _ _ still => ⟨still.calm, fun _ absurd => by cases absurd⟩
        intro token third still
        cases token with
        | none =>
            refine (solo_still still (idle_poll key _)).bind ?_
              fun _ _ still => ⟨still.calm, fun _ absurd => by cases absurd⟩
            exact fun response last still => replies still.calm
        | some token =>
            refine (solo_preCheck still.rest (still.db ▸ recalls) consults).bind ?_ ?_
            · intro found last ended
              obtain ⟨after, response, same⟩ := ended
              cases same
              exact replies (still.calm.trans after.calm)
            · intro _ _ ended
              obtain ⟨_, _, absurd⟩ := ended
              cases absurd
  refine answers.bind (fun answered last ended => ?_) fun _ _ ended => ended.1
  rw [ended.2 answered rfl]
  exact .ret ended.1

end Known

end Payroute
