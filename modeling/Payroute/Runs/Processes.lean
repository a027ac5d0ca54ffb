import Payroute.Runs.Calls
import Payroute.Runs.Concurrent
import Payroute.Runs.Serial
import Payroute.Services.Listings

/-! # The processes of the backend

Beside the operations there run workers that take their jobs from the queue, requests
under an idempotency key, listings and statistics. All of them keep the locking contract,
and only the operations among them commit anything to the books.
-/

namespace Payroute

open EffectSystem Program

/-- A worker takes up a job of the queue. -/
def ProviderProcessor.work (id : JobId) : Service Unit := do
  let found ← call (.queueGet id)
  match found with
  | none => return ()
  | some job => process job.data

/-- What the processes of a deployment run. The provider's worker gets its job from the
queue. -/
inductive Activity (deployment : Deployment) : Service Unit → Prop
  | operation (command : Command) (queued : ∀ data, command ≠ .process data) :
      Activity deployment (command.program deployment)
  | work (id : JobId) : Activity deployment (ProviderProcessor.work id)
  | request (cacheFirst : Bool) (key : String) (dto : CreatePaymentDto) :
      Activity deployment (IdempotencyInterceptor.request cacheFirst key
        (PaymentsService.createPayment deployment dto key))
  | findAll (dto : ListPaymentsDto) : Activity deployment (do
      let _ ← PaymentsService.findAll deployment dto)
  | getStats : Activity deployment (do
      let _ ← PaymentsService.getStats)

/-- The call leaves the books and the provider alone. -/
def Operation.Aloof : Operation → Prop
  | .sql (.select _) => True
  | .sql statement => statement.IsSide
  | .scheduleCallback _ _ => False
  | op => op.Neutral

namespace Setting.Outside

variable {setting : Setting} {commit : Database → Database → Prop} {who : ProcessId}
  {world : World} {α β : Type}

theorem aloof_call {op : Operation} (aloof : op.Aloof) :
    setting.Outside commit who (fun _ _ => True) (call op) world := by
  have sides : ∀ statement : Statement, statement.IsSide →
      setting.Outside commit who (fun _ _ => True) (call (.sql statement)) world :=
    fun statement side => Outside.skipSide side fun _ _ => trivial
  have others : ∀ other : Operation, other.Neutral →
      setting.Outside commit who (fun _ _ => True) (call other) world :=
    fun other neutral => Outside.skip neutral fun _ _ => trivial
  cases op with
  | sql statement =>
      cases statement with
      | select query => exact others _ trivial
      | _ => exact sides _ aloof
  | scheduleCallback _ _ => exact aloof.elim
  | _ => exact others _ aloof

/-- Code that leaves the books and the provider alone. -/
theorem aloof {body : Service α} (only : body.OnlyCalls Operation.Aloof) :
    setting.Outside commit who (fun _ _ => True) body world := by
  induction body generalizing world with
  | ret value => exact .ret trivial
  | fail error => exact .fail trivial
  | call op next ih =>
      have split : Program.call op next = (Program.attempt (call op)).bind next := by
        change _ = Program.call op _
        congr
        funext reply
        cases reply with
        | ok value => rfl
        | error error => rfl
      have recorded : setting.Outside commit who (fun _ _ => True) (Program.attempt (call op))
          world := Outside.attempt (aloof_call only.1)
      rw [split]
      refine Outside.bind recorded (fun outcome _ _ => ih outcome (only.2 outcome)) ?_
      exact fun _ _ _ => trivial

/-- One program after another. -/
theorem chain {body : Service α} {next : α → Service β}
    (first : setting.Outside commit who (fun _ _ => True) body world)
    (rest : ∀ value middle, setting.Outside commit who (fun _ _ => True) (next value) middle) :
    setting.Outside commit who (fun _ _ => True) (body.bind next) world :=
  Outside.bind first (fun value middle _ => rest value middle) fun _ _ _ => trivial

end Setting.Outside

/-! ## Requests -/

namespace IdempotencyInterceptor

theorem aloof_getResponse (key : String) : (getResponse key).OnlyCalls Operation.Aloof :=
  onlyCalls_getResponse key trivial

theorem aloof_releaseLock (key : LockKey) (token : LockToken) :
    (releaseLock key token).OnlyCalls Operation.Aloof := .swallow (onlyCalls_perform trivial)

theorem aloof_poll (key : String) (remaining : Nat) :
    (poll key remaining).OnlyCalls Operation.Aloof := onlyCalls_poll key remaining trivial trivial

theorem aloof_preCheck (key : String) (token : LockToken) :
    (preCheck key token).OnlyCalls Operation.Aloof :=
  onlyCalls_preCheck trivial (fun _ => trivial) trivial trivial fun _ => trivial

theorem aloof_persist (cacheFirst : Bool) (key : String) (token : LockToken)
    (response : Response) :
    (persist cacheFirst key token response).OnlyCalls Operation.Aloof :=
  onlyCalls_persist cacheFirst (fun _ => trivial) trivial trivial

variable {setting : Setting} {commit : Database → Database → Prop} {who : ProcessId}
  {handler : Service Transaction}

open Setting

/-- What is left to do once the response is sent keeps the contract. -/
def Concludes (setting : Setting) (commit : Database → Database → Prop) (who : ProcessId)
    (outcome : Except Failure (Response × Service Unit)) (_ : World) : Prop :=
  ∀ answered, outcome = .ok answered → ∀ world,
    setting.Outside commit who (fun _ _ => True) answered.2 world

theorem outside_intercept (cacheFirst : Bool) (key : String) {world : World}
    (handles : ∀ world, setting.Outside commit who (fun _ _ => True) handler world) :
    setting.Outside commit who (Concludes setting commit who) (intercept cacheFirst key handler)
      world := by
  have fails : ∀ (error : Failure) (last : World), True →
      Concludes setting commit who (.error error) last := fun _ _ _ => nofun
  have answers : ∀ (response : Response) (world : World), setting.Outside commit who
      (Concludes setting commit who) (.ret (response, .ret ())) world := by
    intro response world
    refine .ret fun answered same later => ?_
    cases same
    exact .ret trivial
  refine Outside.bind (Outside.aloof (aloof_getResponse key)) (fun cached second _ => ?_) fails
  cases cached with
  | some response => exact answers _ second
  | none =>
      refine Outside.bind (Outside.aloof_call trivial) (fun token third _ => ?_) fails
      cases token with
      | none =>
          exact Outside.bind (Outside.aloof (aloof_poll key _))
            (fun response last _ => answers response last) fails
      | some token =>
          refine Outside.bind (Outside.aloof (aloof_preCheck key token)) (fun known last _ => ?_)
            fails
          cases known with
          | some response => exact answers response last
          | none =>
              have handled : setting.Outside commit who (fun _ _ => True)
                  (tryCatch handler fun error => do
                    releaseLock (.idempotency key) token
                    .fail error) last :=
                Outside.tryCatch (handles last) (fun _ _ _ => trivial) fun error _ _ =>
                  .chain (.aloof (aloof_releaseLock _ _)) fun _ _ => .fail trivial
              refine Outside.bind handled (fun body final _ => .ret ?_) fails
              intro answered same later
              cases same
              exact .aloof (aloof_persist cacheFirst key token _)

/-- A request keeps the contract where its handler does. -/
theorem outside_request (cacheFirst : Bool) (key : String) {world : World}
    (handles : ∀ world, setting.Outside commit who (fun _ _ => True) handler world) :
    setting.Outside commit who (fun _ _ => True) (request cacheFirst key handler) world := by
  have observes : ∀ world, setting.Outside commit who (fun _ _ => True) (observed handler)
      world := by
    intro world
    refine .chain (.aloof_call trivial) fun _ middle => ?_
    refine .chain (.attempt (handles middle)) fun outcome last => ?_
    cases outcome with
    | ok body => exact .chain (.aloof_call trivial) fun _ _ => .ret trivial
    | error error => exact .chain (.aloof_call trivial) fun _ _ => .fail trivial
  have intercepts : setting.Outside commit who (fun outcome last => ∀ inner,
      outcome = .ok inner → Concludes setting commit who inner last)
      (Program.attempt (intercept cacheFirst key (observed handler))) world := by
    refine .attempt ((outside_intercept cacheFirst key observes).mono fun outcome last ends => ?_)
    intro inner same
    cases same
    exact ends
  refine Outside.bind intercepts (fun outcome middle reached => ?_) fun _ _ _ => trivial
  cases outcome with
  | error error => exact .aloof_call trivial
  | ok answered =>
      exact .chain (.aloof_call trivial) fun _ last => reached _ rfl answered rfl last

end IdempotencyInterceptor

/-! ## Listings -/

namespace PaymentsService

theorem aloof_findAll (deployment : Deployment) (dto : ListPaymentsDto) :
    (findAll deployment dto).OnlyCalls Operation.Aloof := by
  have queries : (queryPage deployment dto).OnlyCalls Operation.Aloof := by
    refine .bind (onlyCalls_perform trivial) fun found => ?_
    obtain ⟨data, total⟩ := found
    change (if Dateless dto then (swallow (call (.cacheSet (listCacheKey dto)
      (.page (pageResult dto data total)) listCacheTtlMs))).bind fun _ =>
        .ret (pageResult dto data total)
      else .ret (pageResult dto data total) : Service PaymentsPage).OnlyCalls Operation.Aloof
    by_cases dateless : Dateless dto
    · rw [if_pos dateless]
      exact .bind (.swallow (onlyCalls_perform trivial)) fun _ => trivial
    · rw [if_neg dateless]
      trivial
  unfold findAll
  by_cases dateless : Dateless dto
  · rw [if_pos dateless]
    refine .bind (onlyCalls_perform trivial) fun cached => ?_
    cases cached with
    | none => exact queries
    | some value =>
        cases value with
        | page result => trivial
        | response _ _ | rate _ | stats _ => exact queries
  · rw [if_neg dateless]
    exact queries

theorem aloof_getStats : getStats.OnlyCalls Operation.Aloof := by
  have queries : queryStats.OnlyCalls Operation.Aloof :=
    .bind (onlyCalls_perform trivial) fun _ => .bind (onlyCalls_perform trivial) fun _ =>
      .bind (onlyCalls_perform trivial) fun _ =>
        .bind (.swallow (onlyCalls_perform trivial)) fun _ => trivial
  refine .bind (onlyCalls_perform trivial) fun cached => ?_
  cases cached with
  | none => exact queries
  | some value =>
      cases value with
      | stats result => trivial
      | response _ _ | rate _ | page _ => exact queries

end PaymentsService

/-! ## Pools of processes -/

/-- What the processes of a deployment commit to the books. -/
abbrev Activity.Commits (deployment : Deployment) : Database → Database → Prop :=
  Command.CommitsOf concurrent deployment fun _ => True

/-- Every process keeps the contract. -/
theorem Activity.outside {deployment : Deployment} {body : Service Unit}
    (activity : Activity deployment body) (who : ProcessId) (world : World) :
    concurrent.Outside (Activity.Commits deployment) who (fun _ _ => True) body world := by
  have commands : ∀ (command : Command) (world : World), concurrent.Outside
      (Activity.Commits deployment) who (fun _ _ => True) (command.program deployment) world :=
    fun command world => Command.starts_outside
      (guarded_shared (fun _ _ => True) (Activity.Commits deployment))
      (fun _ _ made => made) who _ ⟨command, trivial, rfl⟩ world
  cases activity with
  | operation command _ => exact commands command world
  | work id =>
      refine .chain (.aloof_call trivial) fun found middle => ?_
      cases found with
      | none => exact .ret trivial
      | some job => exact commands (.process job.data) middle
  | request cacheFirst key dto =>
      refine IdempotencyInterceptor.outside_request cacheFirst key fun world => ?_
      exact Setting.Outside.createPayment trivial deployment dto key fun row _ _ creates checked =>
        ⟨.createPayment dto key, trivial, row, creates, checked⟩
  | findAll dto =>
      exact .chain (.aloof (PaymentsService.aloof_findAll deployment dto)) fun _ _ => .ret trivial
  | getStats => exact .chain (.aloof PaymentsService.aloof_getStats) fun _ _ => .ret trivial

/-- One step of a pool of processes. -/
theorem Activity.valid_step {deployment : Deployment}
    {first second : Pool ProcessId Failure Operation.Reply World}
    (valid : concurrent.Valid (Activity.Commits deployment) (fun _ _ _ => True) first)
    (step : Pool.Step backend (surroundings fun _ => Activity deployment) first second) :
    concurrent.Valid (Activity.Commits deployment) (fun _ _ _ => True) second := by
  have shared := guarded_shared (fun _ _ => True) (Activity.Commits deployment)
  refine (valid.step (shared.compatible fun who _ activity world =>
    Activity.outside activity who world) ?_).1
  cases step with
  | spawn who body free started => exact .spawn who body free started
  | call who choice op next current ready =>
      exact Pool.Step.call (M := concurrent.machine) who choice op next current
        ⟨ready, concurrent_unguarded _ _ _⟩
  | finish who ended => exact .finish who ended
  | crash who alive => exact .crash who alive
  | drift next moved => exact .drift next moved

/-- Every reachable state of a pool of processes is valid. -/
theorem Activity.valid_reachable {deployment : Deployment} {initial : World}
    (rest : initial.AtRest) {pool : Pool ProcessId Failure Operation.Reply World}
    (reached : Pool.Reachable backend (surroundings fun _ => Activity deployment) initial pool) :
    concurrent.Valid (Activity.Commits deployment) (fun _ _ _ => True) pool := by
  induction reached with
  | refl => exact Setting.valid_quiet rest
  | tail _ step ih => exact Activity.valid_step ih step

section Keeping

variable {deployment : Deployment}
  {before after : Pool ProcessId Failure Operation.Reply World}

/-- A step keeps the payments and the numbers that were handed out. -/
theorem Activity.step_keeps
    (valid : concurrent.Valid (Activity.Commits deployment) (fun _ _ _ => True) before)
    (step : Pool.Step backend (surroundings fun _ => Activity deployment) before after) :
    before.shared.db.Persists after.shared.db ∧
      ∀ supply, before.shared.next supply ≤ after.shared.next supply := by
  cases step with
  | spawn who body free started => exact ⟨.refl _, fun _ => Nat.le_refl _⟩
  | call who choice op next current ready =>
      obtain ⟨_, granted, _⟩ := valid.running who _ current before.shared
        ((concurrent.regular _).refl who _) valid.inv choice ⟨ready, concurrent_unguarded _ _ _⟩
      have frame := granted.frames (who + 1) (Nat.succ_ne_self who)
      exact ⟨frame.persists, frame.supplies⟩
  | finish who ended => exact ⟨.refl _, fun _ => Nat.le_refl _⟩
  | crash who alive => exact ⟨.refl _, fun _ => Nat.le_refl _⟩
  | drift next moved =>
      have elapses : before.shared.Elapses next := moved
      have frame := elapses.aside.frame 0
      exact ⟨frame.persists, frame.supplies⟩

/-- Whatever happens, payments stay. -/
theorem Activity.steps_persist
    (valid : concurrent.Valid (Activity.Commits deployment) (fun _ _ _ => True) before)
    (steps : Pool.Steps backend (surroundings fun _ => Activity deployment) before after) :
    before.shared.db.Persists after.shared.db ∧
      concurrent.Valid (Activity.Commits deployment) (fun _ _ _ => True) after := by
  induction steps with
  | refl => exact ⟨.refl _, valid⟩
  | tail _ step ih =>
      exact ⟨ih.1.trans (Activity.step_keeps ih.2 step).1, Activity.valid_step ih.2 step⟩

end Keeping

/-- Operations that take turns are processes of the deployment. -/
theorem takeTurns_activities {deployment : Deployment} {turns : List Turn}
    {pool : Pool ProcessId Failure Operation.Reply World}
    (playable : TurnsPlayable backend deployment turns pool)
    (queued : ∀ turn ∈ turns, ∀ command ∈ turn.starts, ∀ data, command ≠ .process data) :
    Pool.Steps backend (surroundings fun _ => Activity deployment) pool
      (takeTurns backend deployment turns pool) :=
  takeTurns_steps playable fun turn taken command started =>
    .operation command (queued turn taken command started)

end Payroute
