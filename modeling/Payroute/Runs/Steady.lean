import Payroute.Effects.Monitor
import Payroute.Runs.Processes

/-! # Steady processes

A protocol that leaves reads, caches, queues and the tables beside the books alone says
nothing about listings, statistics and the handling of idempotency keys. Where every
operation follows it, every process does.
-/

namespace Payroute

open EffectSystem Program

variable {S α : Type} {protocol : Protocol Failure Operation.Reply S}

/-- The protocol allows every call that leaves the books alone. -/
def SparesAloof (protocol : Protocol Failure Operation.Reply S) : Prop :=
  ∀ op : Operation, op.Aloof → ∀ phase, protocol.Allows phase op

theorem SparesAloof.steady (spares : SparesAloof protocol) {body : Service α}
    (only : body.OnlyCalls Operation.Aloof) : Steady protocol body :=
  .of_onlyCalls only spares

namespace IdempotencyInterceptor

variable {handler : Service Transaction}

/-- What is left to do once the response is sent is steady. -/
theorem steady_intercept (spares : SparesAloof protocol) (cacheFirst : Bool) (key : String)
    (handles : Steady protocol handler) (phase : S) :
    Follows protocol (fun outcome _ => ∀ answered, outcome = .ok answered →
        Steady protocol answered.2) (intercept cacheFirst key handler) phase := by
  have answers : ∀ (response : Response) (phase : S),
      Follows protocol (fun outcome _ => ∀ answered, outcome = .ok answered →
        Steady protocol answered.2)
      (.ret (response, .ret ()) : Service (Response × Service Unit)) phase := by
    intro response phase answered same
    cases same
    exact .ret ()
  refine (spares.steady (aloof_getResponse key) phase).bind (fun cached second _ => ?_)
    fun _ _ _ => nofun
  cases cached with
  | some response => exact answers _ second
  | none =>
      have acquires : Steady protocol (acquireLock (.idempotency key) lockTtlMs) :=
        spares.steady (onlyCalls_perform trivial)
      refine (acquires second).bind (fun token third _ => ?_) fun _ _ _ => nofun
      cases token with
      | none =>
          exact (spares.steady (aloof_poll key _) third).bind
            (fun response last _ => answers response last) fun _ _ _ => nofun
      | some token =>
          refine (spares.steady (aloof_preCheck key token) third).bind (fun known last _ => ?_)
            fun _ _ _ => nofun
          cases known with
          | some response => exact answers response last
          | none =>
              have handled : Steady protocol (tryCatch handler fun error => do
                  releaseLock (.idempotency key) token
                  .fail error) :=
                .tryCatch handles fun error =>
                  .bind (spares.steady (aloof_releaseLock _ _)) fun _ => .fail error
              refine (handled last).bind (fun body final _ => ?_) fun _ _ _ => nofun
              intro answered same
              cases same
              exact spares.steady (aloof_persist cacheFirst key token _)

theorem steady_request (spares : SparesAloof protocol) (cacheFirst : Bool) (key : String)
    (handles : Steady protocol handler) : Steady protocol (request cacheFirst key handler) := by
  have observes : ∀ note : Note, Steady protocol (call (.observe note)) :=
    fun _ => spares.steady (onlyCalls_perform trivial)
  have handled : Steady protocol (observed handler) := by
    refine .bind (observes _) fun _ => .bind handles.attempt fun outcome => ?_
    cases outcome with
    | ok body => exact .bind (observes _) fun _ => .ret body
    | error error => exact .bind (observes _) fun _ => .fail error
  intro phase
  refine (steady_intercept spares cacheFirst key handled phase).attempt.bind
    (fun outcome later reached => ?_) fun _ _ _ => trivial
  obtain ⟨inner, same, steady⟩ := reached
  cases same
  cases outcome with
  | error error => exact observes _ later
  | ok answered => exact Steady.bind (observes _) (fun _ => steady answered rfl) later

end IdempotencyInterceptor

/-- Every process follows a protocol that the worker and all operations follow. -/
theorem Activity.follows {deployment : Deployment} {body : Service Unit} {phase : S}
    (activity : Activity deployment body) (spares : SparesAloof protocol)
    (works : ∀ id, Follows protocol (fun _ _ => True) (ProviderProcessor.work id) phase)
    (creates : ∀ dto key, Steady protocol (PaymentsService.createPayment deployment dto key))
    (operates : ∀ command : Command, (∀ data, command ≠ .process data) →
      Steady protocol (command.program deployment)) :
    Follows protocol (fun _ _ => True) body phase := by
  cases activity with
  | operation command queued => exact operates command queued phase
  | work id => exact works id
  | request cacheFirst key dto =>
      exact IdempotencyInterceptor.steady_request spares cacheFirst key (creates dto key) phase
  | findAll dto =>
      exact Steady.bind (spares.steady (PaymentsService.aloof_findAll deployment dto))
        (fun _ => .ret ()) phase
  | getStats =>
      exact Steady.bind (spares.steady PaymentsService.aloof_getStats) (fun _ => .ret ()) phase

end Payroute
