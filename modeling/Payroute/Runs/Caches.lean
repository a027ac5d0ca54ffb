import Payroute.Books.Answers
import Payroute.Runs.Emissions

/-! # What the operations do to the cached answers

Listings and statistics are cached. An operation that runs alone, with its Redis calls
answered, either leaves the books alone or drops both kinds of answers after its commit.
The two exceptions are an attempt of the provider's job and the dead-letter handler, which
touch no cached answer.
-/

namespace Payroute

open EffectSystem KeyedTable Program

/-! ## Redis -/

/-- The calls to Redis and to the queue, which lives in it. -/
def Operation.OnRedis : Operation → Prop
  | .acquireLock _ _ | .releaseLock _ _ | .cacheGet _ | .cacheSet _ _ _ | .cacheDelete _
  | .cacheDeleteLists | .queueAdd _ _ _ | .queueGet _ | .queueRemove _ => True
  | _ => False

instance (op : Operation) : Decidable op.OnRedis :=
  match op with
  | .acquireLock _ _ | .releaseLock _ _ | .cacheGet _ | .cacheSet _ _ _ | .cacheDelete _
  | .cacheDeleteLists | .queueAdd _ _ _ | .queueGet _ | .queueRemove _ => .isTrue trivial
  | .begin _ | .commit | .rollback | .sql _ | .scheduleCallback _ _ | .emit _ | .now | .sleep _
  | .observe _ => .isFalse id

/-- No call to Redis fails, and the answer to a commit is not lost. -/
def Sure (op : Operation) (delivery : Delivery) : Prop :=
  Acknowledged op delivery ∧ (op.OnRedis → delivery = .delivered)

instance (op : Operation) (delivery : Delivery) : Decidable (Sure op delivery) :=
  inferInstanceAs (Decidable (_ ∧ _))

/-- No listing and no statistics are cached. -/
def World.Swept (world : World) : Prop := ∀ key : CacheKey, key.Answer → world.cache key = none

/-- Cached answers may have been dropped, and none was added. -/
def World.Drops (first second : World) : Prop :=
  ∀ key : CacheKey, key.Answer → second.cache key = first.cache key ∨ second.cache key = none

theorem World.Drops.refl (world : World) : world.Drops world := fun _ _ => .inl rfl

theorem World.Swept.drops {first second : World} (swept : first.Swept)
    (drops : first.Drops second) :
    second.Swept := by
  intro key answer
  rcases drops key answer with same | gone
  · rw [same, swept key answer]
  · exact gone

/-- The call stores no listing and no statistics. -/
def Operation.Unfilling : Operation → Prop
  | .cacheSet key _ _ => ¬ key.Answer
  | _ => True

theorem Operation.Ordinary.unfilling {op : Operation} (ordinary : op.Ordinary) : op.Unfilling := by
  cases op with
  | cacheSet key value ttlMs =>
      cases key with
      | rate _ _ => exact id
      | _ => exact ordinary.elim
  | _ => trivial

theorem Operation.Delivering.unfilling {op : Operation} (delivering : op.Delivering) :
    op.Unfilling := by
  cases op with
  | cacheSet key value ttlMs => exact delivering.elim
  | _ => trivial

theorem Operation.Sweeping.unfilling {op : Operation} (sweeping : op.Sweeping) : op.Unfilling := by
  cases op with
  | cacheSet key value ttlMs => exact sweeping.elim
  | _ => trivial

theorem World.perform_drops {first : World} (world : World) (who : ProcessId) {op : Operation}
    (unfilling : op.Unfilling) (drops : first.Drops world) :
    first.Drops (world.perform who op).2 := by
  cases op with
  | sql statement =>
      change first.Drops (world.execute who statement).2
      intro key answer
      rw [(execute_apart world who statement).cache]
      exact drops key answer
  | acquireLock key ttlMs =>
      change first.Drops (world.acquireLock key ttlMs).2
      unfold acquireLock
      cases world.redisLocks key with
      | none => exact drops
      | some _ => exact drops
  | releaseLock key token =>
      change first.Drops (world.releaseLock key token)
      unfold releaseLock
      by_cases holds : (world.redisLocks key).map RedisLock.token = some token
      · rw [if_pos holds]
        exact drops
      · rw [if_neg holds]
        exact drops
  | queueAdd data attempts jobId =>
      change first.Drops (world.queueAdd data attempts jobId)
      unfold queueAdd
      dsimp only
      split
      · exact drops
      · exact drops
  | cacheSet wanted value ttlMs =>
      intro key answer
      have differs : key ≠ wanted := by
        intro same
        subst same
        exact unfilling answer
      change Function.update world.cache wanted (some value) key = _ ∨
        Function.update world.cache wanted (some value) key = none
      rw [Function.update_of_ne differs]
      exact drops key answer
  | cacheDelete wanted =>
      intro key answer
      by_cases same : key = wanted
      · subst same
        exact .inr (Function.update_self _ _ _)
      · change Function.update world.cache wanted none key = _ ∨
          Function.update world.cache wanted none key = none
        rw [Function.update_of_ne same]
        exact drops key answer
  | cacheDeleteLists =>
      intro key answer
      change (if CacheKey.isList key = true then none else world.cache key) = _ ∨
        (if CacheKey.isList key = true then none else world.cache key) = none
      by_cases list : CacheKey.isList key = true
      · rw [if_pos list]
        exact .inr rfl
      · rw [if_neg list]
        exact drops key answer
  | _ => exact drops

section Solo

variable {fine : Operation → Delivery → Prop} {who : ProcessId} {α β : Type} {world : World}

/-- Code that stores no answer. -/
theorem solo_drops {body : Service α} (only : body.OnlyCalls Operation.Unfilling) :
    Solo backend fine who (fun _ last => world.Drops last) body world := by
  refine Solo.keeps (fun last => world.Drops last) ?_ only (.refl world)
  intro delivery op later unfilling drops
  rcases World.exec_state who delivery op later with same | ran
  · change world.Drops (World.exec who delivery op later).2
    rw [same]
    exact drops
  · change world.Drops (World.exec who delivery op later).2
    rw [ran]
    exact World.perform_drops later who unfilling drops

/-- A call to Redis is carried out and answered. -/
theorem solo_redis (op : Operation) (redis : op.OnRedis)
    {post : Except Failure op.Reply → World → Prop}
    (performed : post (world.perform who op).1 (world.perform who op).2) :
    Solo backend Sure who post (call op) world := by
  refine solo_call op fun delivery sure => ?_
  have ran : World.exec who delivery op world = world.perform who op := by
    rw [sure.2 redis]
    unfold World.exec
    by_cases remote : op.isRemote = true
    · rw [if_pos remote]
    · rw [if_neg remote]
  rw [ran]
  exact performed

/-- Both kinds of answers are dropped. -/
theorem solo_sweep (start : World) :
    Solo backend Sure who (fun outcome last => outcome = .ok () ∧ last.Swept)
      PaymentsService.invalidatePaymentCaches start := by
  have stats : Solo backend Sure who
    (fun outcome last => outcome = .ok () ∧ last.cache .stats = none)
      (swallow (call (.cacheDelete .stats))) start := by
    have drops : Solo backend Sure who (fun _ last => last.cache .stats = none)
        (call (.cacheDelete .stats)) start := by
      refine solo_redis (.cacheDelete .stats) trivial ?_
      change Function.update start.cache CacheKey.stats none CacheKey.stats = none
      exact Function.update_self _ _ _
    exact drops.swallow fun _ _ gone => ⟨rfl, gone⟩
  refine stats.bind (fun _ middle dropped => ?_) fun _ _ dropped => by cases dropped.1
  have lists : Solo backend Sure who (fun _ last => last.Swept)
    (call .cacheDeleteLists) middle := by
    refine solo_redis .cacheDeleteLists trivial fun key answer => ?_
    change (if CacheKey.isList key = true then none else middle.cache key) = none
    cases key with
    | stats => exact dropped.2
    | list _ _ _ => rfl
    | idempotency _ | rate _ _ => exact answer.elim
  exact lists.swallow fun _ _ swept => ⟨rfl, swept⟩

/-- Nothing comes back once the answers were dropped. -/
theorem solo_swept {body : Service α} (swept : world.Swept)
    (only : body.OnlyCalls Operation.Unfilling) :
    Solo backend fine who (fun _ last => last.Swept) body world :=
  (solo_drops only).mono fun _ _ drops => swept.drops drops

/-- The answers are dropped before the rest of the operation. -/
theorem solo_sweeps {rest : Service β} (start : World)
    (only : rest.OnlyCalls Operation.Unfilling) :
    Solo backend Sure who (fun _ last => last.Swept)
      (PaymentsService.invalidatePaymentCaches.bind fun _ => rest) start :=
  (solo_sweep start).bind (fun _ _ swept => solo_swept swept.2 only)
    fun _ _ swept => by cases swept.1

/-- The operation left the books alone, or the cached answers were dropped. -/
def Handles (first last : World) : Prop := first.db.SameBooks last.db ∨ last.Swept

/-- An operation that drops the answers after a transaction. -/
theorem solo_handles {work : Service α} {rest : α → Service β} {start : World}
    (books : world.db.SameBooks start.db)
    (works : Solo backend Sure who (fun outcome last => ∀ error, outcome = .error error →
      start.db.SameBooks last.db) work start)
    (sweeps : ∀ value later, Solo backend Sure who (fun _ last => last.Swept) (rest value) later) :
    Solo backend Sure who (fun _ last => Handles world last) (work.bind rest) start :=
  works.bind (fun value later _ => (sweeps value later).mono fun _ _ swept => .inr swept)
    fun error _ failed => .inl (books.trans (failed error rfl))

/-- A transaction that fails leaves the books alone. -/
theorem solo_reverts {isolation : Isolation} {body : Service α} {start : World}
    (only : body.OnlyCalls Operation.Inside) :
    Solo backend Sure who (fun outcome last => ∀ error, outcome = .error error →
      start.db.SameBooks last.db) (transaction isolation body) start := by
  refine (solo_transaction (fun _ _ sure => sure.1) only).mono
    fun outcome last ended error failed => ?_
  rw [ended.2 error failed]
  exact .refl _

/-- So does one under a Redis lock. -/
theorem solo_reverts_locked {isolation : Isolation} {body : Service α} {start : World}
    {key : LockKey} {token : LockToken} (only : body.OnlyCalls Operation.Inside) :
    Solo backend Sure who (fun outcome last => ∀ error, outcome = .error error →
      start.db.SameBooks last.db)
      (tryFinally (transaction isolation body) (releaseLock key token)) start := by
  refine (solo_reverts only).tryFinally fun outcome later reverts => ?_
  have frees : Solo backend Sure who (fun _ last => last.db = later.db ∧ later.Silent last)
      (call (.releaseLock key token)) later :=
    solo_kept (onlyCalls_perform ⟨trivial, trivial⟩)
  refine frees.swallow fun _ last freed => ⟨rfl, fun error failed => ?_⟩
  rw [freed.1]
  exact reverts error failed

/-- Calls before the transaction leave the database alone. -/
theorem solo_before {body : Service α} {next : α → Service β} {start : World}
    (books : world.db.SameBooks start.db) (only : body.OnlyCalls Operation.Idle)
    (rest : ∀ value later, world.db.SameBooks later.db →
      Solo backend Sure who (fun _ last => Handles world last) (next value) later) :
    Solo backend Sure who (fun _ last => Handles world last) (body.bind next) start := by
  have kept : Solo backend Sure who
    (fun _ last => last.db = start.db ∧ start.Silent last) body start :=
    solo_kept only
  refine kept.bind (fun value later same => rest value later ?_) fun _ _ same => .inl ?_
  · rw [same.1]
    exact books
  · rw [same.1]
    exact books

/-! ## The operations -/

open PaymentsService

/-- What follows a change of a payment. -/
theorem solo_reread (id : TransactionId) (start : World) :
    Solo backend Sure who (fun _ last => last.Swept)
      (do
        invalidatePaymentCaches
        sql (.select (.transaction id))) start :=
  solo_sweeps start (onlyCalls_perform trivial)

theorem createPayment_handles (deployment : Deployment) (dto : CreatePaymentDto)
    (idempotencyKey : String) :
    Solo backend Sure who (fun _ last => Handles world last)
      (createPayment deployment dto idempotencyKey) world := by
  have commits : Solo backend Sure who (fun outcome last => ∀ error, outcome = .error error →
      world.db.SameBooks last.db) (commitPayment deployment dto) world := by
    have acquires : Solo backend Sure who (fun _ last => last.db = world.db ∧ world.Silent last)
        (acquireLock (.account dto.senderAccountId) accountLockTtlMs) world :=
      solo_kept (idle_acquireLock _ _)
    refine acquires.bind (fun token second same => ?_) fun _ _ same _ _ => by
      rw [same.1]; exact .refl _
    cases token with
    | none =>
        refine Solo.fail fun _ _ => ?_
        rw [same.1]
        exact .refl _
    | some token =>
        rw [← same.1]
        exact solo_reverts_locked ((inner_reserveFunds deployment dto).mono fun _ =>
          Operation.Inner.inside)
  refine solo_handles (.refl _) commits fun saved later => ?_
  have queues : Solo backend Sure who (fun outcome _ => outcome = .ok ())
      (call (.queueAdd (providerJob dto idempotencyKey saved) providerJobAttempts none)) later :=
    solo_redis (.queueAdd _ _ _) trivial rfl
  exact queues.bind (fun _ start _ => solo_sweeps start trivial) fun _ _ absurd => by cases absurd

/-- A transaction under the refund lock and what follows it. -/
theorem solo_refund {body : Service Unit} {id : TransactionId} {event : PaymentEvent}
    {rest : Service β} {start : World} (books : world.db.SameBooks start.db)
    (only : body.OnlyCalls Operation.Inside)
    (sweeps : ∀ later, Solo backend Sure who (fun _ last => last.Swept) rest later) :
    Solo backend Sure who (fun _ last => Handles world last)
      ((acquireLock (.refund id) refundLockTtlMs).bind fun token =>
        (orThrow refundBusy token).bind fun token =>
          (tryFinally (transaction .readCommitted body) (releaseLock (.refund id) token)).bind
            fun _ => (call (.emit event)).bind fun _ => rest) start := by
  refine solo_before books (idle_acquireLock _ _) fun token second books => ?_
  refine solo_before books (onlyCalls_orThrow _ _) fun token third books => ?_
  refine solo_handles books (solo_reverts_locked only) fun _ later => ?_
  have emits : Solo backend Sure who (fun outcome _ => outcome = .ok ())
    (call (.emit event)) later :=
    solo_emit event rfl
  exact emits.bind (fun _ last _ => sweeps last) fun _ _ absurd => by cases absurd

theorem refundPayment_handles (id : TransactionId) (dto : RefundPaymentDto) :
    Solo backend Sure who (fun _ last => Handles world last) (refundPayment id dto) world := by
  refine solo_before (.refl _) (idle_findTransaction id) fun row second books => ?_
  refine solo_before books (onlyCalls_require _ _) fun _ third books => ?_
  exact solo_refund books ((booking_refundBody id).inner.mono fun _ => Operation.Inner.inside)
    (solo_reread id)

theorem raiseDispute_handles (id : TransactionId) (dto : DisputePaymentDto) :
    Solo backend Sure who (fun _ last => Handles world last) (raiseDispute id dto) world := by
  refine solo_before (.refl _) (idle_findTransaction id) fun row second books => ?_
  refine solo_before books (onlyCalls_require _ _) fun _ third books => ?_
  exact solo_handles books (solo_reverts ((booking_raiseBody id row).inner.mono fun _ =>
    Operation.Inner.inside)) fun _ later => solo_reread id later

theorem resolveDispute_handles (id : TransactionId) (dto : ResolveDisputeDto) :
    Solo backend Sure who (fun _ last => Handles world last) (resolveDispute id dto) world := by
  refine solo_before (.refl _) (idle_findTransaction id) fun row second books => ?_
  refine solo_before books (onlyCalls_require _ _) fun _ third books => ?_
  cases action : dto.action with
  | reverse =>
      have shape : ∀ rest : Service (Option Transaction),
          (resolveBranch id .reverse).bind (fun _ => rest) =
            (acquireLock (.refund id) refundLockTtlMs).bind fun token =>
              (orThrow refundBusy token).bind fun token =>
                (tryFinally (transaction .readCommitted (reverseBody id))
                  (releaseLock (.refund id) token)).bind fun _ =>
                    (call (.emit (.refunded id "Dispute resolved: chargeback"))).bind
                      fun _ => rest := by
        intro rest
        simp only [resolveBranch, bind_eq, bind_assoc]
      change Solo backend Sure who _ ((resolveBranch id .reverse).bind fun _ => _) third
      rw [shape]
      exact solo_refund books ((booking_reverseBody id).inner.mono fun _ => Operation.Inner.inside)
        (solo_reread id)
  | reject =>
      exact solo_handles books (solo_reverts ((booking_rejectBody id).inner.mono fun _ =>
        Operation.Inner.inside)) fun _ later => solo_reread id later

theorem processWebhook_handles (deployment : Deployment) (rest : world.AtRest)
    (payload : WebhookPayloadDto) (rawBody : List UInt8) (signature : String) :
    Solo backend Sure who (fun _ last => Handles world last)
      (WebhooksService.processWebhook deployment payload rawBody signature) world := by
  have inserts : Solo backend Sure who
      (fun outcome last => world.Calm last ∧ ∀ event, outcome = .ok (some event) →
        (serial world).Arrived payload event last.db)
      (sql (.insertEvent (Setting.eventDraft payload
        (WebhooksService.verifySignature deployment rawBody signature)))) world :=
    solo_insertEvent rest
  refine inserts.bind (fun reply second arrived => ?_) fun _ _ arrived => .inl arrived.1.books
  obtain ⟨calm, arrived⟩ := arrived
  cases reply with
  | none => exact .ret (.inl calm.books)
  | some event =>
      change Solo backend Sure who _ (WebhooksService.handleEvent payload
        (WebhooksService.verifySignature deployment rawBody signature) event.id) second
      unfold WebhooksService.handleEvent
      cases valid : WebhooksService.verifySignature deployment rawBody signature with
      | false => exact (solo_note calm _ _).mono fun _ _ calm => .inl calm.books
      | true =>
          rw [if_pos rfl]
          have acknowledged : Solo backend Acknowledged who _
            (WebhooksService.applyEvent _ _) second :=
            solo_applyEvent calm (arrived _ rfl) valid
          have applied := acknowledged.narrow fun op delivery (sure : Sure op delivery) => sure.1
          refine applied.bind (fun processed third ended => ?_) fun _ _ calm => .inl calm.books
          cases processed with
          | none => exact .ret (.inl (World.Calm.books ended))
          | some row =>
              have announces : (WebhooksService.announce row payload).OnlyCalls
                  Operation.Unfilling :=
                (WebhooksService.serving_announce row payload).plain.mono fun _ =>
                  Operation.Ordinary.unfilling
              exact (solo_sweeps third announces).mono fun _ _ swept => .inr swept

/-- No operation stores a listing or statistics. -/
theorem Command.unfilling (deployment : Deployment) (command : Command) :
    (command.program deployment).OnlyCalls Operation.Unfilling := by
  refine Command.onlyCalls deployment (fun _ => Operation.Ordinary.unfilling)
    (fun _ => Operation.Sweeping.unfilling) (fun _ => trivial) (fun _ => trivial) command ?_ ?_
  · intro data _
    exact ProviderProcessor.onlyCalls_process data (fun _ => trivial) (fun _ => trivial)
      (fun _ _ => trivial) (fun _ _ => trivial) fun _ => trivial
  · intro payload rawBody signature _
    exact (WebhooksService.delivering_processWebhook deployment payload rawBody signature).mono
      fun _ => Operation.Delivering.unfilling

/-- The operations that drop the cached answers when they change the books. -/
def Command.Sweeps : Command → Prop
  | .process _ | .onProviderJobExhausted _ _ => False
  | _ => True

/-- An operation without commits leaves the books alone. -/
theorem books_of_idle {deployment : Deployment} {command : Command} (rest : world.AtRest)
    (choices : List Delivery)
    (idle : ∀ first second, ¬ command.Commits (serial world) deployment first second) :
    world.db.SameBooks (backend.run who (command.program deployment) choices world).state.db := by
  obtain ⟨_, _, path⟩ := Command.run_alone deployment rest who command choices
  generalize (backend.run who (command.program deployment) choices world).state.db = last at path
  induction path with
  | refl => exact .refl _
  | tail _ step same =>
      rcases step with beside | commits
      · exact same.trans beside.books
      · exact (idle _ _ commits).elim

/-- Every other operation leaves the books alone or drops the answers. -/
theorem Command.handles (deployment : Deployment) (rest : world.AtRest) {command : Command}
    (sweeps : command.Sweeps) :
    Solo backend Sure who (fun _ last => Handles world last) (command.program deployment)
      world := by
  have ends : ∀ {α : Type} {body : Service α},
      Solo backend Sure who (fun _ last => Handles world last) body world →
      Solo backend Sure who (fun _ last => Handles world last) (body.bind fun _ => .ret ()) world :=
    fun handled => handled.bind (fun _ _ holds => .ret holds) fun _ _ holds => holds
  cases command with
  | createPayment dto idempotencyKey =>
      exact ends (createPayment_handles deployment dto idempotencyKey)
  | process data => exact sweeps.elim
  | processWebhook payload rawBody signature =>
      exact processWebhook_handles deployment rest payload rawBody signature
  | onProviderJobExhausted jobId failedReason => exact sweeps.elim
  | refundPayment id dto => exact ends (refundPayment_handles id dto)
  | raiseDispute id dto => exact ends (raiseDispute_handles id dto)
  | resolveDispute id dto => exact ends (resolveDispute_handles id dto)
  | retryStuckPayments | cleanupExpiredIdempotencyKeys | cleanupOldProcessedWebhookEvents =>
      exact fun choices _ => .inl (books_of_idle rest choices fun _ _ absurd => absurd)

end Solo
end Payroute
