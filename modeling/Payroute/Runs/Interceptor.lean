import Payroute.Effects.Protocol
import Payroute.Runs.Calls
import Payroute.Services.Idempotency

/-! # The protocol of a request

A request passes through the phases of the interceptor. Each phase says what the request
knows, whether it holds the lock of the key, and which call comes next; the handler is
one phase in which any ordinary call may be made. The calls of the interceptor are
answered: the protocol says nothing about requests whose own calls fail.
-/

namespace Payroute

open EffectSystem Program

/-! ## Handlers -/

/-- Whether the process may have a transaction open after a call. -/
def Operation.leavesOpen (opened : Bool) : (op : Operation) → Except Failure op.Reply → Bool
  | .begin _, _ => true
  | .commit, .ok _ => false
  | .rollback, _ => false
  | _, _ => opened

/-- Ordinary calls, with whether a transaction may be open. -/
inductive Working : Protocol Failure Operation.Reply Bool
  | call {opened : Bool} {op : Operation} (ordinary : op.Ordinary)
      (reply : Except Failure op.Reply) : Working opened op reply (op.leavesOpen opened reply)

/-- A handler makes ordinary calls and leaves no transaction open. -/
structure Handler where
  body : Service Transaction
  follows : Follows Working (fun _ opened => opened = false) body false

section Handlers

variable {α : Type} {opened : Bool}

theorem Working.allows {op : Operation} (ordinary : op.Ordinary) : Working.Allows opened op :=
  ⟨.error .unavailable, _, .call ordinary _⟩

/-- One raised call. -/
theorem working_call (op : Operation) (ordinary : op.Ordinary)
    {post : Except Failure op.Reply → Bool → Prop}
    (each : ∀ reply, post reply (op.leavesOpen opened reply)) :
    Follows Working post (call op) opened := by
  refine .perform (Working.allows ordinary) fun reply later moved => ?_
  cases moved with
  | call _ _ => exact each reply

/-- Code that begins and ends no transaction. -/
theorem working_of_onlyCalls {allowed : Operation → Prop} {body : Service α}
    (only : body.OnlyCalls allowed) (ordinary : ∀ op, allowed op → op.Ordinary)
    (stays : ∀ op reply, allowed op → op.leavesOpen opened reply = opened) :
    Follows Working (fun _ later => later = opened) body opened := by
  refine .of_onlyCalls only (fun op permitted => Working.allows (ordinary op permitted)) ?_
  intro op reply later permitted moved
  cases moved with
  | call _ _ => exact stays op reply permitted

theorem working_inner {body : Service α} (inner : Inner body) :
    Follows Working (fun _ later => later = opened) body opened := by
  refine working_of_onlyCalls inner (fun _ => Operation.Inner.ordinary) fun op reply permitted => ?_
  cases op with
  | sql _ | cacheGet _ | cacheSet _ _ _ | now => rfl
  | _ => exact permitted.elim

/-- A transaction is closed when it ends, however it ends. -/
theorem working_transaction {isolation : Isolation} {body : Service α} (inner : Inner body) :
    Follows Working (fun _ later => later = false) (transaction isolation body) opened := by
  have begins : Follows Working (fun _ _ => True) (call (.begin isolation)) opened :=
    working_call (.begin isolation) trivial fun _ => trivial
  have commits : ∀ later, Follows Working
      (fun outcome last => ∀ value, outcome = .ok value → last = false) (call .commit) later := by
    intro later
    refine working_call .commit trivial fun reply value same => ?_
    cases same
    rfl
  have rolls : ∀ later, Follows Working (fun _ last => last = false) (call .rollback) later :=
    fun later => working_call .rollback trivial fun _ => rfl
  have committed : Follows Working (fun outcome last => ∀ value, outcome = .ok value → last = false)
      (do
        call (.begin isolation)
        let value ← body
        call .commit
        return value) opened := by
    refine begins.bind ?_ fun _ _ _ _ absurd => by cases absurd
    intro _ started _
    refine (working_inner inner).bind ?_ fun _ _ _ _ absurd => by cases absurd
    intro value later _
    refine (commits later).bind ?_ fun _ _ _ _ absurd => by cases absurd
    exact fun _ last closed _ _ => closed _ rfl
  refine committed.tryCatch (fun value later closed => closed value rfl) ?_
  intro error later _
  exact (rolls later).bind (fun _ _ closed => closed) fun _ _ closed => closed

end Handlers

/-! ### The creation of a payment -/

namespace PaymentsService

theorem working_commitPayment (deployment : Deployment) (dto : CreatePaymentDto) :
    Follows Working (fun _ opened => opened = false) (commitPayment deployment dto) false := by
  have locks : Follows Working (fun _ opened => opened = false)
      (acquireLock (.account dto.senderAccountId) accountLockTtlMs) false :=
    working_call (.acquireLock (.account _) _) trivial fun _ => rfl
  refine locks.bind ?_ fun _ _ closed => closed
  intro token opened closed
  subst closed
  cases token with
  | none => rfl
  | some token =>
      refine (working_transaction (inner_reserveFunds deployment dto)).tryFinally ?_
      intro outcome opened closed
      have frees : Follows Working (fun _ last => last = false)
          (call (.releaseLock (.account dto.senderAccountId) token)) opened :=
        working_call (.releaseLock (.account _) _) trivial fun _ => closed
      exact frees.swallow fun _ _ closed => ⟨rfl, closed⟩

theorem working_invalidatePaymentCaches :
    Follows Working (fun _ opened => opened = false) invalidatePaymentCaches false := by
  have stats : Follows Working (fun _ opened => opened = false)
    (call (.cacheDelete .stats)) false :=
    working_call (.cacheDelete .stats) rfl fun _ => rfl
  have lists : Follows Working (fun _ opened => opened = false) (call .cacheDeleteLists) false :=
    working_call .cacheDeleteLists trivial fun _ => rfl
  have first : Follows Working (fun _ opened => opened = false)
      (swallow (call (.cacheDelete .stats))) false := stats.swallow fun _ _ closed => closed
  refine first.bind ?_ fun _ _ closed => closed
  intro _ opened closed
  subst closed
  exact lists.swallow fun _ _ closed => closed

/-- The creation of a payment leaves no transaction open. -/
theorem working_createPayment (deployment : Deployment) (dto : CreatePaymentDto)
    (idempotencyKey : String) :
    Follows Working (fun _ opened => opened = false)
      (createPayment deployment dto idempotencyKey) false := by
  refine (working_commitPayment deployment dto).bind ?_ fun _ _ closed => closed
  intro saved opened closed
  subst closed
  have queued : Follows Working (fun _ opened => opened = false)
      (call (.queueAdd (providerJob dto idempotencyKey saved) providerJobAttempts none)) false :=
    working_call (.queueAdd _ _ _) trivial fun _ => rfl
  refine queued.bind ?_ fun _ _ closed => closed
  intro _ opened closed
  subst closed
  refine working_invalidatePaymentCaches.bind ?_ fun _ _ closed => closed
  exact fun _ _ closed => closed

/-- `createPayment` as the handler of a request. -/
def handler (deployment : Deployment) (dto : CreatePaymentDto)
    (idempotencyKey : String) : Handler where
  body := createPayment deployment dto idempotencyKey
  follows := working_createPayment deployment dto idempotencyKey

end PaymentsService

/-! ## Requests -/

namespace IdempotencyInterceptor

/-- The response a cache entry holds. -/
def cachedResponse : Option CacheValue → Option Response
  | some (.response body statusCode) => some { body, statusCode }
  | _ => none

/-- Where a request stands, from before its arrival to its end. In the phases with a token
it holds the lock. -/
inductive Phase where
  | absent
  | arrived | locking | polling
  | looking (token : LockToken)
  | restoring (token : LockToken) (response : Response)
  | freeing (token : LockToken) (response : Response)
  | preparing (token : LockToken)
  | starting (token : LockToken)
  | handling (token : LockToken) (opened : Bool)
  | throwing (token : LockToken) (error : Failure)
  | returned (token : LockToken) (body : Transaction)
  | persisting (token : LockToken) (body : Transaction) (cached stored : Bool)
  | answering (response : Response)
  | refusing (error : Failure)
  | ended

/-- Whether the handler may have a transaction open. -/
def Phase.opened : Phase → Bool
  | .handling _ opened => opened
  | _ => false

/-- The calls of a request with the key. -/
inductive Moves (key : String) : Protocol Failure Operation.Reply Phase
  | readHit {value : Option CacheValue} {response : Response}
      (hit : cachedResponse value = some response) :
      Moves key .arrived (.cacheGet (.idempotency key)) (.ok value) (.answering (reply response))
  | readMiss {value : Option CacheValue} (miss : cachedResponse value = none) :
      Moves key .arrived (.cacheGet (.idempotency key)) (.ok value) .locking
  | lock (token : LockToken) :
      Moves key .locking (.acquireLock (.idempotency key) lockTtlMs) (.ok (some token))
        (.looking token)
  | wait : Moves key .locking (.acquireLock (.idempotency key) lockTtlMs) (.ok none) .polling
  | sleep : Moves key .polling (.sleep 250) (.ok ()) .polling
  | pollHit {value : Option CacheValue} {response : Response}
      (hit : cachedResponse value = some response) :
      Moves key .polling (.cacheGet (.idempotency key)) (.ok value) (.answering (reply response))
  | pollMiss {value : Option CacheValue} (miss : cachedResponse value = none) :
      Moves key .polling (.cacheGet (.idempotency key)) (.ok value) .polling
  | giveUp : Moves key .polling (.observe (.rejected keyInUse)) (.ok ()) .ended
  | find {token : LockToken} {row : Option IdempotencyKey} {response : Response}
      (found : row.bind recorded = some response) :
      Moves key (.looking token) (.sql (.select (.idempotencyKey key))) (.ok row)
        (.restoring token response)
  | miss {token : LockToken} {row : Option IdempotencyKey} (unknown : row.bind recorded = none) :
      Moves key (.looking token) (.sql (.select (.idempotencyKey key))) (.ok row)
        (.preparing token)
  | restore {token : LockToken} {response : Response} :
      Moves key (.restoring token response)
        (.cacheSet (.idempotency key) (.response response.body response.statusCode)
          idempotencyTtlMs) (.ok ()) (.freeing token response)
  | free {token : LockToken} {response : Response} :
      Moves key (.freeing token response) (.releaseLock (.idempotency key) token) (.ok ())
        (.answering (reply response))
  | clock {token : LockToken} (now : Nat) :
      Moves key (.preparing token) .now (.ok now) (.preparing token)
  | insert {token : LockToken} (expiresAt : Nat) :
      Moves key (.preparing token) (.sql (.insertKey key expiresAt)) (.ok ()) (.starting token)
  | start {token : LockToken} :
      Moves key (.starting token) (.observe .handlerStarted) (.ok ()) (.handling token false)
  | work {token : LockToken} {opened : Bool} {op : Operation} (ordinary : op.Ordinary)
      (reply : Except Failure op.Reply) :
      Moves key (.handling token opened) op reply (.handling token (op.leavesOpen opened reply))
  | succeed {token : LockToken} (body : Transaction) :
      Moves key (.handling token false) (.observe (.handlerReturned body)) (.ok ())
        (.returned token body)
  | throw {token : LockToken} (error : Failure) :
      Moves key (.handling token false) (.observe (.handlerThrew error)) (.ok ())
        (.throwing token error)
  | release {token : LockToken} {error : Failure} :
      Moves key (.throwing token error) (.releaseLock (.idempotency key) token) (.ok ())
        (.refusing error)
  | respond {token : LockToken} {body : Transaction} :
      Moves key (.returned token body) (.observe (.responded body created)) (.ok ())
        (.persisting token body false false)
  | cache {token : LockToken} {body : Transaction} {stored : Bool} :
      Moves key (.persisting token body false stored)
        (.cacheSet (.idempotency key) (.response body created) idempotencyTtlMs) (.ok ())
        (.persisting token body true stored)
  | store {token : LockToken} {body : Transaction} {cached : Bool} :
      Moves key (.persisting token body cached false) (.sql (.updateKey key body created)) (.ok ())
        (.persisting token body cached true)
  | conclude {token : LockToken} {body : Transaction} :
      Moves key (.persisting token body true true) (.releaseLock (.idempotency key) token) (.ok ())
        .ended
  | answer {response : Response} :
      Moves key (.answering response) (.observe (.responded response.body response.statusCode))
        (.ok ()) .ended
  | refuse {error : Failure} :
      Moves key (.refusing error) (.observe (.rejected error)) (.ok ()) .ended

section Follows

variable {key : String} {token : LockToken}

/-- A read of the cache, whose reply the protocol always gives. -/
theorem follows_getResponse {phase : Phase}
    (allowed : (Moves key).Allows phase (.cacheGet (.idempotency key)))
    {post : Except Failure (Option Response) → Phase → Prop}
    (each : ∀ reply later, Moves key phase (.cacheGet (.idempotency key)) reply later →
      ∃ value, reply = .ok value ∧ post (.ok (cachedResponse value)) later) :
    Follows (Moves key) post (getResponse key) phase := by
  have asks : Follows (Moves key) (Moves key phase (.cacheGet (.idempotency key)))
      (call (.cacheGet (.idempotency key))) phase := .perform allowed fun _ _ moved => moved
  refine asks.bind ?_ ?_
  · intro value later moved
    obtain ⟨_, same, holds⟩ := each _ _ moved
    cases same
    cases value with
    | none => exact holds
    | some value =>
        cases value with
        | response _ _ | rate _ | page _ | stats _ => exact holds
  · intro error later moved
    obtain ⟨_, absurd, _⟩ := each _ _ moved
    cases absurd

/-- A call with one possible move. -/
theorem follows_call {phase next : Phase} {op : Operation} {answer : op.Reply}
    (allowed : Moves key phase op (.ok answer) next)
    (only : ∀ reply later, Moves key phase op reply later → reply = .ok answer ∧ later = next) :
    Follows (Moves key) (fun outcome later => outcome = .ok answer ∧ later = next)
      (call op) phase :=
  .perform ⟨_, _, allowed⟩ only

theorem follows_swallow {phase next : Phase} {op : Operation} {answer : op.Reply}
    (allowed : Moves key phase op (.ok answer) next)
    (only : ∀ reply later, Moves key phase op reply later → reply = .ok answer ∧ later = next) :
    Follows (Moves key) (fun outcome later => outcome = .ok () ∧ later = next)
      (swallow (call op)) phase :=
  (follows_call allowed only).swallow fun _ _ called => ⟨rfl, called.2⟩

theorem follows_poll (remaining : Nat) :
    Follows (Moves key) (fun outcome later => match outcome with
        | .ok response => later = .answering response
        | .error error => later = .polling ∧ error = keyInUse)
      (poll key remaining) .polling := by
  induction remaining with
  | zero => exact ⟨rfl, rfl⟩
  | succ remaining ih =>
      have sleeps : Follows (Moves key) (fun outcome later => outcome = .ok () ∧ later = .polling)
          (call (.sleep 250)) .polling :=
        follows_call .sleep fun _ _ moved => by cases moved; exact ⟨rfl, rfl⟩
      refine sleeps.andThen ?_
      have reads : Follows (Moves key) (fun outcome later =>
          (∃ response, outcome = .ok (some response) ∧ later = .answering (reply response)) ∨
          outcome = .ok none ∧ later = .polling) (getResponse key) .polling := by
        refine follows_getResponse ⟨.ok none, _, .pollMiss rfl⟩ fun reply later moved => ?_
        cases moved with
        | pollHit hit => exact ⟨_, rfl, .inl ⟨_, congrArg Except.ok hit, rfl⟩⟩
        | pollMiss miss => exact ⟨_, rfl, .inr ⟨congrArg Except.ok miss, rfl⟩⟩
      refine reads.bind ?_ ?_
      · intro polled later read
        rcases read with ⟨response, same, rfl⟩ | ⟨same, rfl⟩
        · cases same
          exact rfl
        · cases same
          exact ih
      · intro error later read
        rcases read with ⟨_, absurd, _⟩ | ⟨absurd, _⟩
        · cases absurd
        · cases absurd

/-- The lookup under the lock. -/
theorem follows_lookup :
    Follows (Moves key) (fun outcome later =>
        (∃ response, outcome = .ok (some response) ∧ later = .answering response) ∨
        outcome = .ok none ∧ later = .starting token)
      (lookup key token) (.looking token) := by
  have selects : Follows (Moves key) (fun outcome later => ∃ row, outcome = .ok row ∧
      ((∃ response, row.bind recorded = some response ∧ later = .restoring token response) ∨
        row.bind recorded = none ∧ later = .preparing token))
      (sql (.select (.idempotencyKey key))) (.looking token) := by
    refine .perform ⟨.ok none, _, .miss rfl⟩ fun reply later moved => ?_
    cases moved with
    | find found => exact ⟨_, rfl, .inl ⟨_, found, rfl⟩⟩
    | miss unknown => exact ⟨_, rfl, .inr ⟨unknown, rfl⟩⟩
  refine selects.bind ?_ fun _ _ absurd => by obtain ⟨_, absurd, _⟩ := absurd; cases absurd
  intro row later selected
  obtain ⟨row, same, ⟨response, found, rfl⟩ | ⟨unknown, rfl⟩⟩ := selected
  · cases same
    simp only [found]
    have restores : Follows (Moves key)
        (fun outcome later => outcome = .ok () ∧ later = .freeing token response)
        (swallow (setResponse key response)) (.restoring token response) :=
      follows_swallow .restore fun _ _ moved => by cases moved; exact ⟨rfl, rfl⟩
    refine restores.andThen ?_
    have frees : Follows (Moves key)
        (fun outcome later => outcome = .ok () ∧ later = .answering (reply response))
        (releaseLock (.idempotency key) token) (.freeing token response) :=
      follows_swallow .free fun _ _ moved => by cases moved; exact ⟨rfl, rfl⟩
    exact frees.andThen (.inl ⟨_, rfl, rfl⟩)
  · cases same
    simp only [unknown]
    have clocks : Follows (Moves key) (fun outcome later =>
        (∃ now, outcome = .ok now) ∧ later = .preparing token) newDate (.preparing token) := by
      refine .perform ⟨_, _, .clock 0⟩ fun reply later moved => ?_
      cases moved
      exact ⟨⟨_, rfl⟩, rfl⟩
    refine clocks.bind ?_ fun _ _ absurd => by obtain ⟨⟨_, absurd⟩, _⟩ := absurd; cases absurd
    intro now later clocked
    obtain ⟨_, rfl⟩ := clocked
    have inserts : Follows (Moves key)
        (fun outcome later => outcome = .ok () ∧ later = .starting token)
        (sql (.insertKey key (now + idempotencyTtlMs * 1000))) (.preparing token) :=
      follows_call (.insert _) fun _ _ moved => by cases moved; exact ⟨rfl, rfl⟩
    exact inserts.andThen (.inr ⟨rfl, rfl⟩)

theorem follows_preCheck :
    Follows (Moves key) (fun outcome later =>
        (∃ response, outcome = .ok (some response) ∧ later = .answering response) ∨
        outcome = .ok none ∧ later = .starting token)
      (preCheck key token) (.looking token) := by
  refine follows_lookup.tryCatch (fun _ _ looked => looked) ?_
  intro error later looked
  rcases looked with ⟨_, absurd, _⟩ | ⟨absurd, _⟩
  · cases absurd
  · cases absurd

/-- The response is cached and stored, in either order, before the lock is released. -/
theorem follows_persist (cacheFirst : Bool) (body : Transaction) :
    Follows (Moves key) (fun outcome later => outcome = .ok () ∧ later = .ended)
      (persist cacheFirst key token ⟨body, created⟩) (.persisting token body false false) := by
  have caches : ∀ stored, Follows (Moves key)
      (fun outcome later => outcome = .ok () ∧ later = .persisting token body true stored)
      (swallow (setResponse key ⟨body, created⟩)) (.persisting token body false stored) :=
    fun _ => follows_swallow .cache fun _ _ moved => by cases moved; exact ⟨rfl, rfl⟩
  have stores : ∀ cached, Follows (Moves key)
      (fun outcome later => outcome = .ok () ∧ later = .persisting token body cached true)
      (swallow (sql (.updateKey key body created))) (.persisting token body cached false) :=
    fun _ => follows_swallow .store fun _ _ moved => by cases moved; exact ⟨rfl, rfl⟩
  have releases : Follows (Moves key) (fun outcome later => outcome = .ok () ∧ later = .ended)
      (releaseLock (.idempotency key) token) (.persisting token body true true) :=
    follows_swallow .conclude fun _ _ moved => by cases moved; exact ⟨rfl, rfl⟩
  cases cacheFirst with
  | true =>
      refine (caches false).andThen ?_
      refine (stores true).andThen ?_
      exact releases
  | false =>
      refine (stores false).andThen ?_
      refine (caches true).andThen ?_
      exact releases

/-- How the interceptor ends: with a response to send, with the handler's own response,
which is still to be recorded, or with a failure. -/
def Intercepted (key : String) : Except Failure (Response × Service Unit) → Phase → Prop
  | .ok answered, later => answered.2 = .ret () ∧ later = .answering answered.1 ∨
      ∃ token body, answered.1 = ⟨body, created⟩ ∧ later = .returned token body ∧
        Follows (Moves key) (fun outcome last => outcome = .ok () ∧ last = .ended) answered.2
          (.persisting token body false false)
  | .error error, later => later = .polling ∧ error = keyInUse ∨ later = .refusing error

/-- The execution of the handler. -/
theorem follows_observed (handler : Handler) :
    Follows (Moves key) (fun outcome later => match outcome with
        | .ok body => later = .returned token body
        | .error error => later = .throwing token error)
      (observed handler.body) (.starting token) := by
  have starts : Follows (Moves key)
      (fun outcome later => outcome = .ok () ∧ later = .handling token false)
      (call (.observe .handlerStarted)) (.starting token) :=
    follows_call .start fun _ _ moved => by cases moved; exact ⟨rfl, rfl⟩
  refine starts.andThen ?_
  have works : Follows (Moves key) (fun _ later => later = .handling token false) handler.body
      (.handling token false) := by
    have simulated : Follows (Moves key)
        (fun _ last => ∃ opened, last = .handling token opened ∧ opened = false) handler.body
        (.handling token false) := by
      refine handler.follows.simulate (fun opened phase => phase = Phase.handling token opened)
        ?_ ?_ rfl
      · intro opened phase op same allowed
        obtain ⟨reply, later, moved⟩ := allowed
        subst same
        cases moved with
        | call ordinary => exact ⟨_, _, .work ordinary reply⟩
      · intro opened phase op reply next same allowed moved
        obtain ⟨_, _, permitted⟩ := allowed
        subst same
        cases permitted with
        | call ordinary =>
            cases moved with
            | work _ _ => exact ⟨_, .call ordinary reply, rfl⟩
            | succeed body => exact ordinary.elim
            | throw error => exact ordinary.elim
    refine simulated.mono fun _ last ended => ?_
    obtain ⟨opened, same, closed⟩ := ended
    rw [same, closed]
  refine works.attempt.bind ?_ fun _ _ absurd => by obtain ⟨_, absurd, _⟩ := absurd; cases absurd
  intro outcome later worked
  obtain ⟨inner, same, rfl⟩ := worked
  cases same
  cases outcome with
  | ok body =>
      have succeeds : Follows (Moves key)
          (fun outcome later => outcome = .ok () ∧ later = .returned token body)
          (call (.observe (.handlerReturned body))) (.handling token false) := by
        refine follows_call (.succeed body) fun reply later moved => ?_
        cases moved with
        | succeed _ => exact ⟨rfl, rfl⟩
        | work ordinary => exact ordinary.elim
      exact succeeds.andThen rfl
  | error error =>
      have throws : Follows (Moves key)
          (fun outcome later => outcome = .ok () ∧ later = .throwing token error)
          (call (.observe (.handlerThrew error))) (.handling token false) := by
        refine follows_call (.throw error) fun reply later moved => ?_
        cases moved with
        | throw _ => exact ⟨rfl, rfl⟩
        | work ordinary => exact ordinary.elim
      exact throws.andThen rfl

theorem follows_handle (cacheFirst : Bool) (handler : Handler) :
    Follows (Moves key) (Intercepted key) (handle cacheFirst key token (observed handler.body))
      (.starting token) := by
  have caught : Follows (Moves key) (fun outcome later => match outcome with
        | .ok body => later = .returned token body
        | .error error => later = .refusing error)
      (tryCatch (observed handler.body) fun error => do
        releaseLock (.idempotency key) token
        .fail error) (.starting token) := by
    refine (follows_observed handler).tryCatch (fun _ _ returned => returned) ?_
    intro error later thrown
    subst thrown
    have frees : Follows (Moves key)
      (fun outcome later => outcome = .ok () ∧ later = .refusing error)
        (releaseLock (.idempotency key) token) (.throwing token error) :=
      follows_swallow .release fun _ _ moved => by cases moved; exact ⟨rfl, rfl⟩
    exact frees.andThen rfl
  refine caught.bind ?_ fun _ _ refused => .inr refused
  intro body later returned
  subst returned
  exact .inr ⟨token, body, rfl, rfl, follows_persist cacheFirst body⟩

/-- The interceptor from the arrival of the request to its answer. -/
theorem follows_intercept (cacheFirst : Bool) (handler : Handler) :
    Follows (Moves key) (Intercepted key) (intercept cacheFirst key (observed handler.body))
      .arrived := by
  have reads : Follows (Moves key) (fun outcome later =>
      (∃ response, outcome = .ok (some response) ∧ later = .answering (reply response)) ∨
      outcome = .ok none ∧ later = .locking) (getResponse key) .arrived := by
    refine follows_getResponse ⟨.ok none, _, .readMiss rfl⟩ fun reply later moved => ?_
    cases moved with
    | readHit hit => exact ⟨_, rfl, .inl ⟨_, congrArg Except.ok hit, rfl⟩⟩
    | readMiss miss => exact ⟨_, rfl, .inr ⟨congrArg Except.ok miss, rfl⟩⟩
  refine reads.bind ?_ ?_
  · intro cached later read
    rcases read with ⟨response, same, rfl⟩ | ⟨same, rfl⟩
    · cases same
      exact .inl ⟨rfl, rfl⟩
    · cases same
      have locks : Follows (Moves key) (fun outcome later =>
          (∃ token, outcome = .ok (some token) ∧ later = .looking token) ∨
          outcome = .ok none ∧ later = .polling)
          (acquireLock (.idempotency key) lockTtlMs) .locking := by
        refine .perform ⟨_, _, .wait⟩ fun reply later moved => ?_
        cases moved with
        | lock token => exact .inl ⟨token, rfl, rfl⟩
        | wait => exact .inr ⟨rfl, rfl⟩
      refine locks.bind ?_ ?_
      · intro token later locked
        rcases locked with ⟨token, same, rfl⟩ | ⟨same, rfl⟩
        · cases same
          refine follows_preCheck.bind ?_ ?_
          · intro known later looked
            rcases looked with ⟨response, same, rfl⟩ | ⟨same, rfl⟩
            · cases same
              exact .inl ⟨rfl, rfl⟩
            · cases same
              exact follows_handle cacheFirst handler
          · intro error later looked
            rcases looked with ⟨_, absurd, _⟩ | ⟨absurd, _⟩
            · cases absurd
            · cases absurd
        · cases same
          refine (follows_poll pollAttempts).bind ?_ fun _ _ polled => .inl polled
          exact fun response later polled => .inl ⟨rfl, polled⟩
      · intro error later locked
        rcases locked with ⟨_, absurd, _⟩ | ⟨absurd, _⟩
        · cases absurd
        · cases absurd
  · intro error later read
    rcases read with ⟨_, absurd, _⟩ | ⟨absurd, _⟩
    · cases absurd
    · cases absurd

/-- A request follows the protocol of its key from its arrival to its end. -/
theorem follows_request (cacheFirst : Bool) (handler : Handler) :
    Follows (Moves key) (fun outcome later => outcome = .ok () ∧ later = .ended)
      (request cacheFirst key handler.body) .arrived := by
  refine (follows_intercept cacheFirst handler).attempt.bind ?_ fun _ _ absurd => by
    obtain ⟨_, absurd, _⟩ := absurd; cases absurd
  intro outcome later intercepted
  obtain ⟨inner, same, intercepted⟩ := intercepted
  cases same
  cases outcome with
  | ok answered =>
      obtain ⟨response, remaining⟩ := answered
      rcases intercepted with ⟨rfl, rfl⟩ | ⟨token, body, rfl, rfl, persists⟩
      · have answers : Follows (Moves key) (fun outcome later => outcome = .ok () ∧ later = .ended)
            (call (.observe (.responded response.body response.statusCode)))
            (.answering response) :=
          follows_call .answer fun _ _ moved => by cases moved; exact ⟨rfl, rfl⟩
        exact answers.andThen ⟨rfl, rfl⟩
      · have responds : Follows (Moves key)
            (fun outcome later => outcome = .ok () ∧ later = .persisting token body false false)
            (call (.observe (.responded body created))) (.returned token body) :=
          follows_call .respond fun _ _ moved => by cases moved; exact ⟨rfl, rfl⟩
        exact responds.andThen persists
  | error error =>
      rcases intercepted with ⟨rfl, rfl⟩ | rfl
      · exact follows_call .giveUp fun _ _ moved => by cases moved; exact ⟨rfl, rfl⟩
      · exact follows_call .refuse fun _ _ moved => by cases moved; exact ⟨rfl, rfl⟩

end Follows
end IdempotencyInterceptor
end Payroute
