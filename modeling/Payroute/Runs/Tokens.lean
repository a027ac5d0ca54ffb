import Payroute.Commits.Queue
import Payroute.Effects.Leases
import Payroute.Effects.Protocol
import Payroute.Runs.Calls
import Payroute.Runs.Concurrent
import Payroute.Runs.Solo
import Payroute.Services.Idempotency

/-! # Lock tokens

The Redis locks are leases: a lock has the token of its last acquisition until it is
released with that token or lapses. The services release a lock only with the token they
acquired it with, whatever becomes of their calls, and the calls of any number of
processes are a run of the leases in which the clients are honest.
-/

namespace Payroute

open EffectSystem Program Leases

/-! ## Locks as leases -/

/-- What the clients of the locks do. -/
abbrev LockEvent := Leases.Event ProcessId LockKey LockToken

/-- The tokens of the locks, and those that were drawn. -/
def World.leases (world : World) : Leases.State LockKey LockToken where
  holder key := (world.redisLocks key).map RedisLock.token
  spent := {token | token < world.next .token}

/-- A client calls `acquireLock` or `releaseLock`; or locks lapse while time passes or
anything else is done. -/
inductive LockStep (world : World) : World → LockEvent → Prop
  | acquire (who : ProcessId) (key : LockKey) (ttlMs : Nat) :
      LockStep world (world.acquireLock key ttlMs).2
        (.acquire who key (world.acquireLock key ttlMs).1)
  | release (who : ProcessId) (key : LockKey) (token : LockToken) :
      LockStep world (world.releaseLock key token) (.release who key token)
  | elapse {next : World}
      (locks : ∀ key, next.redisLocks key = world.redisLocks key ∨ next.redisLocks key = none)
      (supply : world.next .token ≤ next.next .token) :
      LockStep world next (.lapse fun key => next.redisLocks key ≠ world.redisLocks key)

/-- The steps from one state to another, in their order. -/
inductive LockRun (initial : World) : List LockEvent → World → Prop
  | nil : LockRun initial [] initial
  | snoc {trace : List LockEvent} {world next : World} {event : LockEvent}
      (run : LockRun initial trace world) (step : LockStep world next event) :
      LockRun initial (trace ++ [event]) next

namespace World

variable {world : World} {key : LockKey} {token : LockToken}

/-- A free lock is taken with a fresh token. -/
theorem acquireLock_free (free : world.redisLocks key = none) (ttlMs : Nat) :
    world.acquireLock key ttlMs = (some (world.next .token),
      { (world.draw .token) with
        redisLocks := Function.update world.redisLocks key
          (some { token := world.next .token, ttlMs := ttlMs }) }) := by
  unfold acquireLock
  rw [free]

/-- A lock that is held is not taken. -/
theorem acquireLock_held {lock : RedisLock} (held : world.redisLocks key = some lock)
    (ttlMs : Nat) : world.acquireLock key ttlMs = (none, world.draw .token) := by
  unfold acquireLock
  rw [held]

/-- `acquireLock` returns a token only where the lock was free. -/
theorem free_of_acquireLock {ttlMs : Nat} (taken : (world.acquireLock key ttlMs).1 = some token) :
    world.redisLocks key = none := by
  cases held : world.redisLocks key with
  | none => rfl
  | some lock =>
      rw [acquireLock_held held] at taken
      cases taken

/-- A release with another token than the current one changes nothing. -/
theorem releaseLock_stale (stale : (world.redisLocks key).map RedisLock.token ≠ some token) :
    world.releaseLock key token = world := if_neg stale

/-- The token that holds the lock releases it. -/
theorem releaseLock_current (current : (world.redisLocks key).map RedisLock.token = some token) :
    world.releaseLock key token =
      { world with redisLocks := Function.update world.redisLocks key none } := if_pos current

/-- The holders after one lock changed hands. -/
theorem holder_update (locks : LockKey → Option RedisLock) (key : LockKey)
    (lock : Option RedisLock) :
    (fun other => (Function.update locks key lock other).map RedisLock.token) =
      Function.update (fun other => (locks other).map RedisLock.token) key
        (lock.map RedisLock.token) := by
  funext other
  by_cases same : other = key
  · rw [same, Function.update_self, Function.update_self]
  · rw [Function.update_of_ne same, Function.update_of_ne same]

/-- Drawing a token spends none of the others anew. -/
theorem spent_draw (world : World) :
    world.leases.spent ⊆ (world.draw .token).leases.spent := by
  intro token spent
  change token < Function.update world.next .token (world.next .token + 1) .token
  rw [Function.update_self]
  exact Nat.lt_succ_of_lt spent

end World

/-- The locks behave as leases. -/
theorem LockStep.leases {world next : World} {event : LockEvent}
    (step : LockStep world next event) :
    Leases.Step world.leases next.leases event := by
  cases step with
  | acquire who key ttlMs =>
      cases held : world.redisLocks key with
      | none =>
          rw [World.acquireLock_free held]
          refine .granted ?_ (Nat.lt_irrefl _) ?_ (World.spent_draw world) ?_
          · change (world.redisLocks key).map _ = none
            rw [held]
            rfl
          · exact World.holder_update world.redisLocks key _
          · change world.next .token <
              Function.update world.next .token (world.next .token + 1) .token
            rw [Function.update_self]
            exact Nat.lt_succ_self _
      | some lock =>
          rw [World.acquireLock_held held]
          refine .refused ?_ rfl (World.spent_draw world)
          change (world.redisLocks key).map _ ≠ none
          rw [held]
          exact Option.some_ne_none _
  | release who key token =>
      by_cases current : (world.redisLocks key).map RedisLock.token = some token
      · rw [World.releaseLock_current current]
        exact .freed current (World.holder_update world.redisLocks key none) Set.Subset.rfl
      · rw [World.releaseLock_stale current]
        exact .stale current rfl Set.Subset.rfl
  | elapse locks supply =>
      refine .lapsed (fun key gone => ?_) (fun key kept => ?_) fun token spent => ?_
      · change (next.redisLocks key).map _ = none
        rw [(locks key).resolve_left gone]
        rfl
      · change (next.redisLocks key).map _ = (world.redisLocks key).map _
        rw [not_not.mp kept]
      · exact lt_of_lt_of_le spent supply

/-- The Redis locks of a run are leases. -/
theorem LockRun.leases {initial last : World} {trace : List LockEvent}
    (run : LockRun initial trace last) : Leases.Run initial.leases trace last.leases := by
  induction run with
  | nil => exact .nil
  | snoc _ step ih => exact ih.snoc step.leases

/-! ## Calls -/

namespace Operation

/-- The call is not about a Redis lock. -/
def Lockless : Operation → Prop
  | .acquireLock _ _ | .releaseLock _ _ => False
  | _ => True

/-- The call releases no lock but one whose token is known. -/
def Returns (known : Set (LockKey × LockToken)) : Operation → Prop
  | .releaseLock key token => (key, token) ∈ known
  | _ => True

/-- The tokens known after the reply. -/
def learned (known : Set (LockKey × LockToken)) :
    (op : Operation) → Except Failure op.Reply → Set (LockKey × LockToken)
  | .acquireLock key _, .ok (some token) => insert (key, token) known
  | _, _ => known

variable {known : Set (LockKey × LockToken)} {op : Operation}

/-- A call on no lock returns no token. -/
theorem Lockless.returns (lockless : op.Lockless) : op.Returns known := by
  cases op with
  | acquireLock _ _ | releaseLock _ _ => exact lockless.elim
  | _ => trivial

/-- The code inside the transactions uses no lock. -/
theorem Inner.lockless (inner : op.Inner) : op.Lockless := by
  cases op with
  | acquireLock _ _ | releaseLock _ _ => exact inner.elim
  | _ => trivial

/-- A call on no lock teaches no token. -/
theorem Lockless.learned (lockless : op.Lockless) (reply : Except Failure op.Reply) :
    op.learned known reply = known := by
  cases op with
  | acquireLock _ _ | releaseLock _ _ => exact lockless.elim
  | _ => rfl

/-- Nor does a call that failed. -/
theorem learned_error (known : Set (LockKey × LockToken)) (op : Operation) (error : Failure) :
    op.learned known (.error error) = known := by
  cases op with
  | _ => rfl

/-- Tokens are not forgotten. -/
theorem subset_learned (known : Set (LockKey × LockToken)) (op : Operation)
    (reply : Except Failure op.Reply) : known ⊆ op.learned known reply := by
  cases op with
  | acquireLock key ttlMs =>
      cases reply with
      | error error => exact Set.Subset.rfl
      | ok taken =>
          cases taken with
          | none => exact Set.Subset.rfl
          | some token => exact Set.subset_insert _ _
  | _ => exact Set.Subset.rfl

end Operation

namespace World

variable {world : World} {who : ProcessId}

/-- Other calls leave the locks alone. -/
theorem perform_redisLocks {op : Operation} (lockless : op.Lockless) :
    (world.perform who op).2.redisLocks = world.redisLocks := by
  cases op with
  | sql statement =>
      exact (execute_apart world who statement).redisLocks
  | acquireLock _ _ | releaseLock _ _ => exact lockless.elim
  | queueAdd data attempts jobId =>
      change (world.queueAdd data attempts jobId).redisLocks = world.redisLocks
      unfold queueAdd
      simp only
      split <;> rfl
  | _ => rfl

/-- Nothing is done about the locks. -/
theorem lockStep_beside {next : World} (locks : next.redisLocks = world.redisLocks)
    (supply : world.next .token ≤ next.next .token) :
    LockStep world next (.lapse fun key => next.redisLocks key ≠ world.redisLocks key) :=
  .elapse (fun key => .inl (congrFun locks key)) supply

/-- A call is a step of the locks; a release is one of a lock the caller acquired, and a
token it learns is one it was granted. -/
theorem exec_lockStep {trace : List LockEvent} {known : Set (LockKey × LockToken)}
    (granted : ∀ key token, (key, token) ∈ known → .acquire who key (some token) ∈ trace)
    (delivery : Delivery) {op : Operation} (returns : op.Returns known) :
    ∃ event, LockStep world (exec who delivery op world).2 event ∧
      (∀ other key token, event = .release other key token →
        .acquire other key (some token) ∈ trace) ∧
      ∀ key token, (key, token) ∈ op.learned known (exec who delivery op world).1 →
        .acquire who key (some token) ∈ trace ++ [event] := by
  have earlier : ∀ (event : LockEvent) key token, (key, token) ∈ known →
      .acquire who key (some token) ∈ trace ++ [event] := fun event key token member =>
    List.mem_append_left _ (granted key token member)
  have idle : ∀ next : World, next.redisLocks = world.redisLocks →
      world.next .token ≤ next.next .token → ∃ event, LockStep world next event ∧
        (∀ other key token, event = .release other key token →
          .acquire other key (some token) ∈ trace) ∧
        ∀ key token, (key, token) ∈ known → .acquire who key (some token) ∈ trace ++ [event] :=
    fun next locks supply => ⟨_, lockStep_beside locks supply, nofun, earlier _⟩
  rcases exec_cases who delivery op world with ran | ⟨failed, unchanged | ran⟩
  · rw [ran]
    cases op with
    | acquireLock key ttlMs =>
        refine ⟨_, .acquire who key ttlMs, nofun, fun other token member => ?_⟩
        change (other, token) ∈ Operation.learned known (.acquireLock key ttlMs)
          (.ok (world.acquireLock key ttlMs).1) at member
        cases taken : (world.acquireLock key ttlMs).1 with
        | none =>
            rw [taken] at member
            exact earlier _ other token member
        | some fresh =>
            rw [taken] at member
            rcases Set.mem_insert_iff.mp member with same | before
            · obtain ⟨rfl, rfl⟩ := Prod.mk.inj same
              exact List.mem_append_right _ List.mem_cons_self
            · exact earlier _ other token before
    | releaseLock key token =>
        refine ⟨_, .release who key token, fun other place returned same => ?_, earlier _⟩
        cases same
        exact granted key token returns
    | _ => exact idle _ (perform_redisLocks trivial) (perform_next world who _ .token)
  · rw [failed, unchanged, Operation.learned_error]
    exact idle world rfl (Nat.le_refl _)
  · rw [failed, ran, Operation.learned_error]
    cases op with
    | acquireLock key ttlMs => exact ⟨_, .acquire who key ttlMs, nofun, earlier _⟩
    | releaseLock key token =>
        refine ⟨_, .release who key token, fun other place returned same => ?_, earlier _⟩
        cases same
        exact granted key token returns
    | _ => exact idle _ (perform_redisLocks trivial) (perform_next world who _ .token)

end World

/-! ## Programs -/

/-- Programs release a lock only with a token they acquired it with. -/
def returning : Protocol Failure Operation.Reply (Set (LockKey × LockToken)) :=
  fun known op reply later => op.Returns known ∧ later = op.learned known reply

/-- The program keeps to the protocol from what it knows; it forgets nothing. -/
def Returning {α : Type} (body : Service α) (known : Set (LockKey × LockToken)) : Prop :=
  Follows returning (fun _ last => known ⊆ last) body known

section Rules

variable {α β : Type} {known : Set (LockKey × LockToken)}

/-- A program that returns its tokens does so if it knows more of them. -/
theorem returning_mono {body : Service α} {first : Set (LockKey × LockToken)}
    (returns : Returning body known) (more : first ⊆ known) :
    Follows returning (fun _ last => first ⊆ last) body known :=
  returns.mono fun _ _ kept => more.trans kept

/-- A single call. -/
theorem returning_call {op : Operation} (returns : op.Returns known) :
    Returning (call op) known := by
  refine .perform ⟨.error .unavailable, _, returns, rfl⟩ fun reply later moved => ?_
  rw [moved.2]
  exact op.subset_learned known reply

/-- Programs that use no lock. -/
theorem returning_of_lockless {body : Service α} (only : body.OnlyCalls Operation.Lockless) :
    Returning body known := by
  refine Follows.mono (.of_onlyCalls only ?_ ?_) fun _ _ same => same ▸ Set.Subset.rfl
  · exact fun op lockless => ⟨.error .unavailable, _, lockless.returns, rfl⟩
  · intro op reply later lockless moved
    rw [moved.2, lockless.learned]

/-- What the first part has learnt the rest may return. -/
theorem returning_bind {body : Service α} {f : α → Service β} (first : Returning body known)
    (rest : ∀ value later, known ⊆ later → Returning (f value) later) :
    Returning (body.bind f) known :=
  first.bind (fun value later kept => returning_mono (rest value later kept) kept)
    fun _ _ kept => kept

/-- The handler may return what was learnt before. -/
theorem returning_tryCatch {body : Service α} {handler : Failure → Service α}
    (first : Returning body known)
    (caught : ∀ error later, known ⊆ later → Returning (handler error) later) :
    Returning (tryCatch body handler) known :=
  Follows.tryCatch first (fun _ _ kept => kept)
    fun error later kept => returning_mono (caught error later kept) kept

/-- The outcome of a program is asked for. -/
theorem returning_attempt {body : Service α} (first : Returning body known) :
    Returning (attempt body) known :=
  first.attempt.mono fun _ _ reached => by
    obtain ⟨_, _, kept⟩ := reached
    exact kept

/-- The failure of a program is ignored. -/
theorem returning_swallow {body : Service α} (first : Returning body known) :
    Returning (swallow body) known :=
  Follows.swallow first fun _ _ kept => kept

/-- The cleanup may return what was learnt before. -/
theorem returning_tryFinally {body : Service α} {cleanup : Service Unit}
    (first : Returning body known) (cleaned : ∀ later, known ⊆ later → Returning cleanup later) :
    Returning (tryFinally body cleanup) known := by
  refine returning_bind (returning_attempt first) fun outcome later kept => ?_
  refine returning_bind (cleaned later kept) fun _ last _ => ?_
  cases outcome with
  | ok value => exact Set.Subset.rfl
  | error error => exact Set.Subset.rfl

/-- A lock is released with a token that was acquired for it. -/
theorem returning_releaseLock {key : LockKey} {token : LockToken}
    (acquired : (key, token) ∈ known) :
    Returning (releaseLock key token) known :=
  returning_swallow (returning_call acquired)

/-- Where the lock is taken, what follows knows its token. -/
theorem follows_acquireLock {key : LockKey} {ttlMs : Nat} {f : Option LockToken → Service β}
    {post : Except Failure β → Set (LockKey × LockToken) → Prop}
    (failed : ∀ error, post (.error error) known) (busy : Follows returning post (f none) known)
    (taken : ∀ token, Follows returning post (f (some token)) (insert (key, token) known)) :
    Follows returning post ((acquireLock key ttlMs).bind f) known := by
  refine ⟨⟨.error .unavailable, _, trivial, rfl⟩, fun reply later moved => ?_⟩
  rw [moved.2]
  cases reply with
  | error error => exact failed error
  | ok reply =>
      cases reply with
      | none => exact busy
      | some token => exact taken token

/-- A call that is not about a lock teaches no token. -/
theorem follows_lockless {op : Operation} {f : op.Reply → Service β}
    {post : Except Failure β → Set (LockKey × LockToken) → Prop} (lockless : op.Lockless)
    (failed : ∀ error, post (.error error) known)
    (rest : ∀ value, Follows returning post (f value) known) :
    Follows returning post ((call op).bind f) known := by
  refine ⟨⟨.error .unavailable, _, lockless.returns, rfl⟩, fun reply later moved => ?_⟩
  rw [moved.2, lockless.learned]
  cases reply with
  | error error => exact failed error
  | ok value => exact rest value

/-- A lock without which the operation is refused. -/
theorem returning_locked {key : LockKey} {ttlMs : Nat} {refused : Failure}
    {f : LockToken → Service β}
    (taken : ∀ token later, (key, token) ∈ later → Returning (f token) later) :
    Returning (do
      let token ← acquireLock key ttlMs
      let token ← orThrow refused token
      f token) known :=
  follows_acquireLock (fun _ => Set.Subset.rfl) Set.Subset.rfl fun token =>
    returning_mono (taken token _ (Set.mem_insert _ _)) (Set.subset_insert _ _)

/-- A single call on no lock. -/
theorem lockless_call {op : Operation} (lockless : op.Lockless) :
    (call op).OnlyCalls Operation.Lockless := onlyCalls_perform lockless

/-- Code inside the transactions uses no lock. -/
theorem lockless_inner {body : Service α} (inner : Inner body) :
    body.OnlyCalls Operation.Lockless :=
  inner.mono fun _ => Operation.Inner.lockless

/-- A transaction uses the locks of its body. -/
theorem lockless_transaction {isolation : Isolation} {body : Service α}
    (only : body.OnlyCalls Operation.Lockless) :
    (transaction isolation body).OnlyCalls Operation.Lockless :=
  onlyCalls_transaction trivial trivial trivial only

/-- A transaction that opens no payment uses no lock. -/
theorem lockless_booking {isolation : Isolation} {body : Service α} (booking : Booking body) :
    (transaction isolation body).OnlyCalls Operation.Lockless :=
  lockless_transaction (lockless_inner booking.inner)

/-- A transaction under a lock, which is released whatever becomes of the transaction. -/
theorem returning_underLock {isolation : Isolation} {body : Service α} {key : LockKey}
    {token : LockToken} (inner : Inner body) (acquired : (key, token) ∈ known) :
    Returning (tryFinally (transaction isolation body) (releaseLock key token)) known :=
  returning_tryFinally (returning_of_lockless (lockless_transaction (lockless_inner inner)))
    fun _ kept => returning_releaseLock (kept acquired)

end Rules

/-! ## Operations -/

namespace PaymentsService

/-- The invalidation uses no lock. -/
theorem lockless_invalidatePaymentCaches :
    invalidatePaymentCaches.OnlyCalls Operation.Lockless :=
  .bind (.swallow (lockless_call trivial)) fun _ => .swallow (lockless_call trivial)

/-- What follows a change of a payment. -/
theorem lockless_reread (id : TransactionId) :
    (do
      invalidatePaymentCaches
      sql (.select (.transaction id))).OnlyCalls Operation.Lockless :=
  lockless_invalidatePaymentCaches.bind fun _ => lockless_call trivial

/-- Nor does reading a payment. -/
theorem lockless_findTransaction (id : TransactionId) :
    (findTransaction id).OnlyCalls Operation.Lockless :=
  .bind (lockless_call trivial) fun _ => onlyCalls_orThrow _ _

variable {known : Set (LockKey × LockToken)}

/-- `createPayment` returns the token of its sender's lock. -/
theorem returning_createPayment (deployment : Deployment) (dto : CreatePaymentDto)
    (idempotencyKey : String) :
    Returning (createPayment deployment dto idempotencyKey) known := by
  refine returning_bind ?_ fun saved later _ => ?_
  · exact returning_locked fun token later acquired =>
      returning_underLock (inner_reserveFunds deployment dto) acquired
  · exact returning_of_lockless (.bind (lockless_call trivial) fun _ =>
      lockless_invalidatePaymentCaches.bind fun _ => trivial)

/-- A refund returns the token of its lock. -/
theorem returning_refundPayment (id : TransactionId) (dto : RefundPaymentDto) :
    Returning (refundPayment id dto) known := by
  refine returning_bind (returning_of_lockless (lockless_findTransaction id)) fun _ _ _ => ?_
  refine returning_bind (returning_of_lockless (onlyCalls_require _ _)) fun _ _ _ => ?_
  refine returning_locked fun token later acquired => ?_
  refine returning_bind (returning_underLock (booking_refundBody id).inner acquired)
    fun _ _ _ => ?_
  exact returning_of_lockless (.bind (lockless_call trivial) fun _ => lockless_reread id)

/-- A dispute uses no lock. -/
theorem returning_raiseDispute (id : TransactionId) (dto : DisputePaymentDto) :
    Returning (raiseDispute id dto) known :=
  returning_of_lockless (.bind (lockless_findTransaction id) fun _ =>
    .bind (onlyCalls_require _ _) fun _ =>
      .bind (lockless_booking (booking_raiseBody id _)) fun _ => lockless_reread id)

/-- The resolution of a dispute returns the token of its lock. -/
theorem returning_resolveDispute (id : TransactionId) (dto : ResolveDisputeDto) :
    Returning (resolveDispute id dto) known := by
  refine returning_bind (returning_of_lockless (lockless_findTransaction id)) fun _ _ _ => ?_
  refine returning_bind (returning_of_lockless (onlyCalls_require _ _)) fun _ _ _ => ?_
  refine returning_bind ?_ fun _ _ _ => returning_of_lockless (lockless_reread id)
  cases dto.action with
  | reverse =>
      refine returning_locked fun token later acquired => ?_
      exact returning_bind (returning_underLock (booking_reverseBody id).inner acquired)
        fun _ _ _ => returning_call trivial
  | reject => exact returning_of_lockless (lockless_booking (booking_rejectBody id))

end PaymentsService

/-- A worker uses no lock. -/
theorem lockless_process (data : ProviderJobData) :
    (ProviderProcessor.process data).OnlyCalls Operation.Lockless :=
  ProviderProcessor.onlyCalls_process data (fun _ => trivial) (fun _ => trivial)
    (fun _ _ => trivial) (fun _ _ => trivial) fun _ => trivial

/-- The dead-letter handler uses no lock. -/
theorem lockless_onProviderJobExhausted (jobId : JobId) (failedReason : String) :
    (DeadLetterHandler.onProviderJobExhausted jobId failedReason).OnlyCalls
      Operation.Lockless := by
  refine .bind (lockless_call trivial) fun found => ?_
  cases found with
  | none => trivial
  | some job =>
      change Program.OnlyCalls Operation.Lockless (if job.attemptsMade < job.attempts then _ else _)
      by_cases left : job.attemptsMade < job.attempts
      · rw [if_pos left]
        trivial
      · rw [if_neg left]
        exact .swallow (.bind (lockless_booking (DeadLetterHandler.booking_exhaustedBody _))
          fun _ => lockless_call trivial)

namespace WebhooksService

/-- The announcement of a delivery uses no lock. -/
theorem lockless_announce (row : Transaction) (payload : WebhookPayloadDto) :
    (announce row payload).OnlyCalls Operation.Lockless := by
  unfold announce
  split
  · exact lockless_call trivial
  · split
    · exact lockless_call trivial
    · trivial

/-- A delivery uses no lock. -/
theorem lockless_processWebhook (deployment : Deployment) (payload : WebhookPayloadDto)
    (rawBody : List UInt8) (signature : String) :
    (processWebhook deployment payload rawBody signature).OnlyCalls Operation.Lockless := by
  have body : ∀ eventId, (webhookBody payload eventId).OnlyCalls Operation.Lockless := by
    intro eventId
    refine (recording_webhookBody payload eventId).mono fun op recording => ?_
    rcases recording with booking | ⟨_, _, rfl⟩
    · exact booking.inner.lockless
    · trivial
  refine .bind (lockless_call trivial) fun inserted => ?_
  cases inserted with
  | none => trivial
  | some event =>
      change (handleEvent payload _ event.id).OnlyCalls Operation.Lockless
      unfold handleEvent
      split
      · refine .bind (.tryCatch (lockless_transaction (body _)) fun error => ?_) fun processed => ?_
        · exact .bind (.swallow (lockless_call trivial)) fun _ => trivial
        · cases processed with
          | none => trivial
          | some row =>
              exact .bind PaymentsService.lockless_invalidatePaymentCaches fun _ =>
                lockless_announce row payload
      · exact lockless_call trivial

end WebhooksService

/-- Every operation releases only the locks it acquired. -/
theorem Command.returning (deployment : Deployment) (command : Command)
    (known : Set (LockKey × LockToken)) : Returning (command.program deployment) known := by
  cases command with
  | createPayment dto idempotencyKey =>
      exact returning_bind (PaymentsService.returning_createPayment deployment dto idempotencyKey)
        fun _ _ _ => Set.Subset.rfl
  | process data => exact returning_of_lockless (lockless_process data)
  | processWebhook payload rawBody signature =>
      exact returning_of_lockless
        (WebhooksService.lockless_processWebhook deployment payload rawBody signature)
  | onProviderJobExhausted jobId failedReason =>
      exact returning_of_lockless (lockless_onProviderJobExhausted jobId failedReason)
  | refundPayment id dto =>
      exact returning_bind (PaymentsService.returning_refundPayment id dto)
        fun _ _ _ => Set.Subset.rfl
  | raiseDispute id dto =>
      exact returning_bind (PaymentsService.returning_raiseDispute id dto)
        fun _ _ _ => Set.Subset.rfl
  | resolveDispute id dto =>
      exact returning_bind (PaymentsService.returning_resolveDispute id dto)
        fun _ _ _ => Set.Subset.rfl
  | retryStuckPayments =>
      refine returning_of_lockless (StuckPaymentScheduler.sweeping_retryStuckPayments.mono
        fun op sweeping => ?_)
      cases op with
      | acquireLock _ _ | releaseLock _ _ => exact sweeping.elim
      | _ => trivial
  | cleanupExpiredIdempotencyKeys =>
      exact returning_of_lockless (.bind (lockless_call trivial) fun _ => lockless_call trivial)
  | cleanupOldProcessedWebhookEvents =>
      exact returning_of_lockless (.bind (lockless_call trivial) fun _ => lockless_call trivial)

/-! ## Requests -/

namespace IdempotencyInterceptor

variable {known : Set (LockKey × LockToken)} {key : String} {token : LockToken}

/-- Reading a cached response uses no lock. -/
theorem lockless_getResponse (key : String) :
    (getResponse key).OnlyCalls Operation.Lockless := onlyCalls_getResponse key trivial

/-- Nor does waiting for one. -/
theorem lockless_poll (key : String) (remaining : Nat) :
    (poll key remaining).OnlyCalls Operation.Lockless :=
  onlyCalls_poll key remaining trivial trivial

/-- A request that finds its response recorded returns the token of its key. -/
theorem returning_preCheck (acquired : (.idempotency key, token) ∈ known) :
    Returning (preCheck key token) known := by
  refine returning_tryCatch ?_ fun _ _ _ => Set.Subset.rfl
  refine returning_bind (returning_call trivial) fun row later kept => ?_
  cases row.bind recorded with
  | none =>
      exact returning_of_lockless (.bind (lockless_call trivial) fun _ =>
        .bind (lockless_call trivial) fun _ => trivial)
  | some response =>
      refine returning_bind (returning_swallow (returning_call trivial)) fun _ last more => ?_
      exact returning_bind (returning_releaseLock (more (kept acquired))) fun _ _ _ =>
        Set.Subset.rfl

/-- The request that ran the handler returns it when it has recorded the response. -/
theorem returning_persist (cacheFirst : Bool) (response : Response)
    (acquired : (.idempotency key, token) ∈ known) :
    Returning (persist cacheFirst key token response) known := by
  have cached : ∀ {later : Set (LockKey × LockToken)},
      Returning (swallow (setResponse key response)) later :=
    returning_swallow (returning_call trivial)
  have stored : ∀ {later : Set (LockKey × LockToken)},
      Returning (swallow (sql (.updateKey key response.body response.statusCode))) later :=
    returning_swallow (returning_call trivial)
  cases cacheFirst with
  | true =>
      exact returning_bind cached fun _ later kept => returning_bind stored fun _ last more =>
        returning_releaseLock (more (kept acquired))
  | false =>
      exact returning_bind stored fun _ later kept => returning_bind cached fun _ last more =>
        returning_releaseLock (more (kept acquired))

/-- The request is answered, and what is left to do once it is sent keeps to the
protocol. -/
def Answered (known : Set (LockKey × LockToken))
    (outcome : Except Failure (Response × Service Unit))
    (last : Set (LockKey × LockToken)) : Prop :=
  known ⊆ last ∧ ∀ answered, outcome = .ok answered → Returning answered.2 last

/-- An answer whose remaining work returns its tokens. -/
theorem answered_ret (response : Response) {rest : Service Unit} (returns : Returning rest known) :
    Follows returning (Answered known) (.ret (response, rest)) known :=
  ⟨Set.Subset.rfl, fun _ same => by cases same; exact returns⟩

/-- Knowing more tokens does no harm. -/
theorem answered_mono {body : Service (Response × Service Unit)}
    {first : Set (LockKey × LockToken)} (follows : Follows returning (Answered known) body known)
    (more : first ⊆ known) : Follows returning (Answered first) body known :=
  follows.mono fun _ _ reached => ⟨more.trans reached.1, reached.2⟩

/-- An answer after other work. -/
theorem answered_bind {α : Type} {body : Service α}
    {f : α → Service (Response × Service Unit)} (first : Returning body known)
    (rest : ∀ value later, known ⊆ later → Follows returning (Answered later) (f value) later) :
    Follows returning (Answered known) (body.bind f) known :=
  first.bind (fun value later kept => answered_mono (rest value later kept) kept)
    fun _ _ kept => ⟨kept, nofun⟩

/-- Each request with a key returns the token of its lock, if it got one. -/
theorem answered_intercept (cacheFirst : Bool) {handler : Service Transaction}
    (handles : ∀ known, Returning handler known) :
    Follows returning (Answered known) (intercept cacheFirst key handler) known := by
  refine answered_bind (returning_of_lockless (lockless_getResponse key)) fun cached known _ => ?_
  cases cached with
  | some response => exact answered_ret _ Set.Subset.rfl
  | none =>
      refine follows_acquireLock (fun _ => ⟨Set.Subset.rfl, nofun⟩) ?_ fun token => ?_
      · exact answered_bind (returning_of_lockless (lockless_poll key _)) fun response _ _ =>
          answered_ret response Set.Subset.rfl
      · have acquired : (.idempotency key, token) ∈ insert (.idempotency key, token) known :=
          Set.mem_insert _ _
        refine answered_mono
          (answered_bind (returning_preCheck acquired) fun found later kept => ?_)
          (Set.subset_insert _ _)
        cases found with
        | some response => exact answered_ret response Set.Subset.rfl
        | none =>
            refine answered_bind ?_ fun body last more =>
              answered_ret _ (returning_persist cacheFirst _ (more (kept acquired)))
            refine returning_tryCatch (handles later) fun error last more => ?_
            exact returning_bind (returning_releaseLock (more (kept acquired))) fun _ _ _ =>
              Set.Subset.rfl

/-- A request releases only the locks it acquired, whatever handler it wraps. -/
theorem returning_request (cacheFirst : Bool) {handler : Service Transaction}
    (handles : ∀ known, Returning handler known) :
    Returning (request cacheFirst key handler) known := by
  have observes : ∀ known, Returning (observed handler) known := by
    intro known
    refine returning_bind (returning_call trivial) fun _ later _ => ?_
    refine returning_bind (returning_attempt (handles later)) fun outcome _ _ => ?_
    cases outcome with
    | ok body => exact returning_bind (returning_call trivial) fun _ _ _ => Set.Subset.rfl
    | error error => exact returning_bind (returning_call trivial) fun _ _ _ => Set.Subset.rfl
  refine Follows.bind (answered_intercept cacheFirst observes).attempt ?_ ?_
  · intro outcome later reached
    obtain ⟨inner, same, kept, returns⟩ := reached
    cases same
    cases outcome with
    | ok answered =>
        exact returning_mono (follows_lockless trivial (fun _ => Set.Subset.rfl) fun _ =>
          returns answered rfl) kept
    | error error => exact returning_mono (returning_call trivial) kept
  · intro error later reached
    obtain ⟨inner, same, _⟩ := reached
    cases same

end IdempotencyInterceptor

/-! ## Pools -/

/-- A process of the backend: an operation, or a request to create a payment. -/
def Serves (deployment : Deployment) (_who : ProcessId) (body : Service Unit) : Prop :=
  (∃ command : Command, body = command.program deployment) ∨
    ∃ cacheFirst dto key, body = IdempotencyInterceptor.request cacheFirst key
      (PaymentsService.createPayment deployment dto key)

/-- Every program of the service returns the tokens it acquired. -/
theorem Serves.returning {deployment : Deployment} {who : ProcessId} {body : Service Unit}
    (serves : Serves deployment who body) (known : Set (LockKey × LockToken)) :
    Returning body known := by
  rcases serves with ⟨command, rfl⟩ | ⟨cacheFirst, dto, key, rfl⟩
  · exact command.returning deployment known
  · exact IdempotencyInterceptor.returning_request cacheFirst fun _ =>
      PaymentsService.returning_createPayment deployment dto key

/-- The running programs know no token but those their processes were granted. -/
def Informed (trace : List LockEvent)
    (pool : Pool ProcessId Failure Operation.Reply World) : Prop :=
  ∀ who body, pool.running who = some body → ∃ known : Set (LockKey × LockToken),
    Follows returning (fun _ _ => True) body known ∧
      ∀ key token, (key, token) ∈ known → .acquire who key (some token) ∈ trace

/-- What a process knows stays on the trace. -/
theorem Informed.update {trace : List LockEvent}
    {pool : Pool ProcessId Failure Operation.Reply World} (informed : Informed trace pool)
    {later : List LockEvent} (more : ∀ event ∈ trace, event ∈ later) {world : World}
    {who : ProcessId} {running : Option (Service Unit)}
    (knows : ∀ body, running = some body → ∃ known : Set (LockKey × LockToken),
      Follows returning (fun _ _ => True) body known ∧
        ∀ key token, (key, token) ∈ known → .acquire who key (some token) ∈ later) :
    Informed later ⟨world, Function.update pool.running who running⟩ := by
  intro other body current
  change Function.update pool.running who running other = some body at current
  by_cases same : other = who
  · subst same
    rw [Function.update_self] at current
    exact knows body current
  · rw [Function.update_of_ne same] at current
    obtain ⟨known, follows, granted⟩ := informed other body current
    exact ⟨known, follows, fun key token member => more _ (granted key token member)⟩

/-- One step of a pool is one of the locks, or none. -/
theorem LockRun.pool_step {starts : ProcessId → Service Unit → Prop}
    (returns : ∀ who body, starts who body → ∀ known, Returning body known)
    {initial : World} {trace : List LockEvent}
    {first second : Pool ProcessId Failure Operation.Reply World}
    (run : LockRun initial trace first.shared) (honest : Honest trace)
    (informed : Informed trace first)
    (step : Pool.Step backend (surroundings starts) first second) :
    ∃ later, LockRun initial later second.shared ∧ Honest later ∧ Informed later second := by
  have beside : ∀ {next : World} {pool : Pool ProcessId Failure Operation.Reply World}
      {gone : LockKey → Prop}, LockStep first.shared next (.lapse gone) → pool.shared = next →
      (Informed (trace ++ [.lapse gone]) pool) →
      ∃ later, LockRun initial later pool.shared ∧ Honest later ∧ Informed later pool := by
    intro next pool gone step same informed
    subst same
    exact ⟨_, run.snoc step, honest.snoc nofun, informed⟩
  cases step with
  | spawn who body free started =>
      refine ⟨trace, run, honest, informed.update (fun _ member => member) fun program same => ?_⟩
      cases same
      exact ⟨∅, (returns who body started ∅).mono fun _ _ _ => trivial,
        fun _ _ absurd => absurd.elim⟩
  | call who choice op next current ready =>
      obtain ⟨known, ⟨⟨_, _, allowed, _⟩, follows⟩, granted⟩ := informed who _ current
      obtain ⟨event, step, returned, learned⟩ : ∃ event,
          LockStep first.shared (World.exec who choice op first.shared).2 event ∧ _ :=
        World.exec_lockStep granted choice allowed
      refine ⟨trace ++ [event], run.snoc step, honest.snoc returned,
        informed.update (fun _ member => List.mem_append_left _ member) fun program same => ?_⟩
      cases same
      exact ⟨_, follows _ _ ⟨allowed, rfl⟩, learned⟩
  | finish who ended =>
      exact ⟨trace, run, honest, informed.update (fun _ member => member) fun _ absurd => by
        cases absurd⟩
  | crash who alive =>
      have step : LockStep first.shared (World.crash who first.shared) _ :=
        World.lockStep_beside rfl (Nat.le_refl _)
      exact beside step rfl (informed.update (fun _ member => List.mem_append_left _ member)
        fun _ absurd => by cases absurd)
  | drift next moved =>
      have elapses : first.shared.Elapses next := moved
      refine beside (.elapse elapses.redisLocks ?_) rfl fun who body current => ?_
      · rw [elapses.next]
      · obtain ⟨known, follows, granted⟩ := informed who body current
        exact ⟨known, follows, fun key token member =>
          List.mem_append_left _ (granted key token member)⟩

/-- The locks of a pool are in a run of honest clients. -/
theorem LockRun.of_pool {starts : ProcessId → Service Unit → Prop}
    (returns : ∀ who body, starts who body → ∀ known, Returning body known) {initial : World}
    {pool : Pool ProcessId Failure Operation.Reply World}
    (reached : Pool.Reachable backend (surroundings starts) initial pool) :
    ∃ trace, LockRun initial trace pool.shared ∧ Honest trace := by
  have kept : ∃ trace, LockRun initial trace pool.shared ∧ Honest trace ∧ Informed trace pool := by
    induction reached with
    | refl =>
        exact ⟨[], .nil, honest_nil, fun _ _ absurd => by cases absurd⟩
    | tail _ step ih =>
        obtain ⟨trace, run, honest, informed⟩ := ih
        exact run.pool_step returns honest informed step
  obtain ⟨trace, run, honest, _⟩ := kept
  exact ⟨trace, run, honest⟩

end Payroute
