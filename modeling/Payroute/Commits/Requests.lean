import Payroute.Commits.Payments
import Payroute.Isolation.Autocommit

/-! # Requests to the payments service

Each operation as a whole: its steps keep the contract and commit what its
relation says.
-/

namespace Payroute

open EffectSystem KeyedTable PaymentsService

namespace Setting.Outside

variable {setting : Setting} {commit : Database → Database → Prop} {who : ProcessId}
  {world : World} {id : TransactionId}

/-- A transaction whose body settles an existing payment has settled it when it returns. -/
theorem settles {α : Type} {body : Service α} {relation : Database → Database → Prop}
    (begins : ∀ start : World, start.Sound → setting.Rely who world start →
      setting.Within commit who (fun _ last => Within.Settles setting relation who last) body
        (start.begin who .readCommitted))
    (included : ∀ first second, relation first second → commit first second) :
    setting.Outside commit who
      (fun outcome last => ∀ value, outcome = .ok value → ∃ first, relation first last.db)
      (Payroute.transaction .readCommitted body) world := by
  refine Outside.transaction (fun start sound rely _ => begins start sound rely) ?_
    fun error last value absurd => by cases absurd
  rintro value before middle _ ⟨settlement, drafts, commits⟩ rely
  have settled := commits middle rely
  refine ⟨_, drafts.frame rely.frame, .inr (included _ _ settled), fun last done _ _ => ?_⟩
  rw [done]
  exact ⟨_, settled⟩

/-- The steps of an operation before and after its database transaction. -/
theorem andThen {α β : Type} {body : Service α} {next : α → Service β}
    {result : Except Failure α → World → Prop}
    (first : setting.Outside commit who result body world)
    (rest : ∀ value middle, result (.ok value) middle →
      setting.Outside commit who (fun _ _ => True) (next value) middle) :
    setting.Outside commit who (fun _ _ => True) (body.bind next) world :=
  first.bind rest fun _ _ _ => trivial

/-- Dropping cached statistics commits nothing. -/
theorem invalidatePaymentCaches (property : Database → Prop)
    (stable : ∀ first second, setting.drift first second → property first → property second)
    (holds : property world.db) :
    setting.Outside commit who (fun _ last => property last.db)
      PaymentsService.invalidatePaymentCaches world := by
  have drops : ∀ (op : Operation) (start : World), op.Neutral → property start.db →
      setting.Outside commit who (fun _ last => property last.db)
        (Program.swallow (call op)) start :=
    fun op start neutral holds =>
      Outside.swallow (Outside.pass neutral stable holds) fun _ _ kept => kept
  exact (drops _ _ (by trivial) holds).bind (fun _ _ kept => drops _ _ (by trivial) kept)
    fun _ _ kept => kept

/-- The cleanup of a Redis lock. -/
theorem locked {α : Type} {body : Service α} {key : LockKey} {token : LockToken}
    (outside : setting.Outside commit who (fun _ _ => True) body world) :
    setting.Outside commit who (fun _ _ => True)
      (Program.tryFinally body (releaseLock key token)) world := by
  refine Outside.tryFinally outside fun _ middle _ => ?_
  exact Outside.swallow (Outside.skip (by trivial) fun _ _ => trivial) fun _ _ _ =>
    .inr ⟨rfl, trivial⟩

/-- The payment that was found was read from committed tables and is still there. -/
theorem findTransaction (origin : setting.origin world.db) :
    setting.Outside commit who
      (fun outcome last => ∀ row, outcome = .ok row → setting.Read last.db id row ∧
        ∃ current, last.db.transactions.get? id = some current)
      (PaymentsService.findTransaction id) world := by
  have reads : setting.Outside commit who
      (fun outcome last => ∀ row, outcome = .ok (some row) → setting.Read last.db id row ∧
        ∃ current, last.db.transactions.get? id = some current)
      (sql (.select (.transaction id))) world := by
    change setting.Outside commit who _ (call (.sql (.select (.transaction id)))) world
    apply Outside.neutral (by trivial)
    · intro middle _ closed rely _
      refine ⟨fun row same => ?_, fun row absurd => by cases absurd⟩
      have found : middle.db.transactions.get? id = some row := by
        rw [← World.view_closed closed]
        exact Except.ok.inj same
      exact ⟨⟨middle.db, setting.origin_drift _ _ origin rely.drift,
        setting.later_drift _ _ (setting.drift_refl _), found⟩, row, found⟩
    · intro middle _ row absurd
      cases absurd
  refine reads.bind ?_ ?_
  · intro found middle holds
    refine Outside.orThrow ?_ ?_
    · rintro value rfl row same
      cases same
      exact holds _ rfl
    · rintro row ⟨⟩
  · rintro error middle _ row ⟨⟩

/-- The steps after an operation's database transaction. -/
theorem concludes (id : TransactionId) (world : World) :
    setting.Outside commit who (fun _ _ => True)
      (do
        PaymentsService.invalidatePaymentCaches
        sql (.select (.transaction id))) world := by
  refine Outside.andThen (Outside.invalidatePaymentCaches (fun _ => True) (fun _ _ _ holds => holds)
    trivial) fun _ _ _ => ?_
  change setting.Outside commit who _ (call (.sql (.select (.transaction id)))) _
  exact Outside.skip (by trivial) fun _ _ => trivial

/-- A database transaction under the refund lock, and what follows it. -/
theorem underRefundLock {β : Type} {body : Service Unit} {relation : Database → Database → Prop}
    {rest : Service β} (since : setting.Since world.db)
    (begins : ∀ start : World, start.Sound → setting.Since start.db →
      setting.Within commit who (fun _ last => Within.Settles setting relation who last) body
        (start.begin who .readCommitted))
    (included : ∀ first second, relation first second → commit first second)
    (follows : ∀ middle, setting.Outside commit who (fun _ _ => True) rest middle) :
    setting.Outside commit who (fun _ _ => True)
      ((acquireLock (.refund id) refundLockTtlMs).bind fun token =>
        (Payroute.orThrow refundBusy token).bind fun token =>
          (Program.tryFinally (Payroute.transaction .readCommitted body)
            (releaseLock (.refund id) token)).bind fun _ => rest) world := by
  have acquired : setting.Outside commit who (fun _ last => setting.Since last.db)
      (acquireLock (.refund id) refundLockTtlMs) world :=
    Outside.pass (by trivial) (fun first second step holds =>
      holds.later (setting.later_drift _ _ step)) since
  refine acquired.andThen fun token second holds => ?_
  have taken : setting.Outside commit who (fun _ last => setting.Since last.db)
      (Payroute.orThrow refundBusy token) second := Outside.orThrow (fun _ _ => holds) holds
  refine taken.andThen fun token third holds => ?_
  have settled : setting.Outside commit who (fun _ _ => True)
      (Payroute.transaction .readCommitted body) third :=
    (Outside.settles (fun start sound rely => begins start sound
      (holds.later (setting.later_drift _ _ rely.drift))) included).mono fun _ _ _ => trivial
  exact settled.locked.andThen fun _ middle _ => follows middle

/-- The check of a status read before the transaction. -/
theorem checked {β : Type} {row : Transaction} {wanted : String} {rest : Service β}
    (follows : row.status.Allows wanted →
      setting.Outside commit who (fun _ _ => True) rest world) :
    setting.Outside commit who (fun _ _ => True)
      ((validateTransition row.status wanted).bind fun _ => rest) world := by
  unfold validateTransition Payroute.require
  by_cases allowed : row.status.Allows wanted
  · rw [if_pos allowed]
    exact follows allowed
  · rw [if_neg allowed]
    exact Outside.fail trivial

/-- A refund commits at most a refund of its payment. -/
theorem refundPayment (origin : setting.origin world.db) (dto : RefundPaymentDto)
    (included : ∀ first second, Refunds setting id first second → commit first second) :
    setting.Outside commit who (fun _ _ => True) (PaymentsService.refundPayment id dto) world := by
  refine (Outside.findTransaction origin).andThen fun row second holds => ?_
  obtain ⟨read, _⟩ := holds row rfl
  apply Outside.checked
  intro _
  refine Outside.underRefundLock read.since (fun start _ since => ?_) included fun middle => ?_
  · exact Within.refundBody (.begin start who _) since
  · refine Outside.andThen (Outside.skip (by trivial) fun _ _ => trivial) fun _ last _ => ?_
    exact Outside.concludes id last

/-- A dispute commits at most the dispute of its payment. -/
theorem raiseDispute (origin : setting.origin world.db) (dto : DisputePaymentDto)
    (included : ∀ first second, Raises setting id first second → commit first second) :
    setting.Outside commit who (fun _ _ => True) (PaymentsService.raiseDispute id dto) world := by
  refine (Outside.findTransaction origin).andThen fun row second holds => ?_
  obtain ⟨read, current, known⟩ := holds row rfl
  apply Outside.checked
  intro allowed
  refine Outside.andThen (Outside.settles (fun start _ rely => ?_) included)
    fun _ last _ => Outside.concludes id last
  obtain ⟨later, there, _⟩ := rely.frame.persists.transaction id current known
  exact Within.raiseBody (.begin start who _) ⟨later, there⟩
    (read.later (setting.later_drift _ _ rely.drift)) allowed

/-- The branch of a resolution commits at most what its action resolves. -/
theorem resolveBranch {row : Transaction} {action : ResolveAction}
    (read : setting.Read world.db id row)
    (known : ∃ current, world.db.transactions.get? id = some current)
    (allowed : row.status.Allows (resolvedStatus action).text)
    (included : ∀ first second, Resolves setting id action first second → commit first second) :
    setting.Outside commit who (fun _ _ => True) (PaymentsService.resolveBranch id action)
      world := by
  cases action with
  | reverse =>
      have follows : ∀ middle, setting.Outside commit who (fun _ _ => True)
          (call (.emit (.refunded id "Dispute resolved: chargeback"))) middle :=
        fun middle => Outside.skip (by trivial) fun _ _ => trivial
      exact Outside.underRefundLock read.since
        (fun start _ since => Within.reverseBody (.begin start who _) since) included follows
  | reject =>
      refine (Outside.settles (fun start _ rely => ?_) included).mono fun _ _ _ => trivial
      obtain ⟨current, found⟩ := known
      obtain ⟨later, there, _⟩ := rely.frame.persists.transaction id current found
      exact Within.rejectBody (.begin start who _) ⟨later, there⟩
        (read.later (setting.later_drift _ _ rely.drift)) allowed

/-- So does the whole resolution. -/
theorem resolveDispute (origin : setting.origin world.db) (dto : ResolveDisputeDto)
    (included : ∀ first second, Resolves setting id dto.action first second →
      commit first second) :
    setting.Outside commit who (fun _ _ => True) (PaymentsService.resolveDispute id dto) world := by
  refine (Outside.findTransaction origin).andThen fun row second holds => ?_
  obtain ⟨read, known⟩ := holds row rfl
  apply Outside.checked
  intro allowed
  exact (Outside.resolveBranch read known allowed included).andThen fun _ last _ =>
    Outside.concludes id last

/-- `createPayment` up to the release of the account lock. -/
theorem commitPayment (origin : setting.origin world.db) (deployment : Deployment)
    (dto : CreatePaymentDto)
    (included : ∀ row first second, Creates setting dto row first second →
      Checked setting deployment dto row first → commit first second) :
    setting.Outside commit who (fun _ _ => True) (PaymentsService.commitPayment deployment dto)
      world := by
  have since : setting.Since world.db := ⟨_, origin, setting.later_drift _ _ (setting.drift_refl _)⟩
  have acquired : setting.Outside commit who (fun _ last => setting.Since last.db)
      (acquireLock (.account dto.senderAccountId) accountLockTtlMs) world :=
    Outside.pass (by trivial) (fun first second step holds =>
      holds.later (setting.later_drift _ _ step)) since
  refine acquired.andThen fun token second holds => ?_
  have taken : setting.Outside commit who (fun _ last => setting.Since last.db)
      (Payroute.orThrow accountBusy token) second := Outside.orThrow (fun _ _ => holds) holds
  refine taken.andThen fun token third holds => ?_
  apply Outside.locked
  have reserves : ∀ start : World, start.Sound → setting.Rely who third start →
      setting.Issues who (.begin .serializable) start →
      setting.Within commit who (Within.Opens setting who deployment dto)
        (PaymentsService.reserveFunds deployment dto) (start.begin who .serializable) :=
    fun start _ rely issues => Within.reserveFunds start issues
      (holds.later (setting.later_drift _ _ rely.drift)) deployment dto
  refine Outside.transaction reserves ?_ fun _ _ => trivial
  rintro saved before middle _ ⟨row, changes, _, drafts, creates⟩ rely
  obtain ⟨opens, checked⟩ := creates middle rely
  exact ⟨changes, drafts.frame rely.frame, .inr (included row _ _ opens checked),
    fun _ _ => trivial⟩

/-- `createPayment` commits at most a new payment that was checked. -/
theorem createPayment (origin : setting.origin world.db) (deployment : Deployment)
    (dto : CreatePaymentDto) (idempotencyKey : String)
    (included : ∀ row first second, Creates setting dto row first second →
      Checked setting deployment dto row first → commit first second) :
    setting.Outside commit who (fun _ _ => True)
      (PaymentsService.createPayment deployment dto idempotencyKey) world := by
  refine (Outside.commitPayment origin deployment dto included).andThen fun saved second _ => ?_
  refine Outside.andThen (Outside.skip (by trivial) fun _ _ => trivial) fun _ third _ => ?_
  exact (Outside.invalidatePaymentCaches (fun _ => True) (fun _ _ _ holds => holds) trivial).andThen
    fun _ _ _ => Outside.ret trivial

end Setting.Outside
end Payroute
