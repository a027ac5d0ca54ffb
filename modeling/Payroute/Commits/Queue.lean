import Payroute.Commits.Requests

/-! # Queue workers and schedulers -/

namespace Payroute

open EffectSystem KeyedTable

/-- A call of a stuck-payment sweep. -/
def Operation.Sweeping : Operation → Prop
  | .now | .sql (.select _) | .queueGet _ | .queueRemove _ | .queueAdd _ _ _ => True
  | _ => False

/-- A sweep touches neither tables nor locks. -/
theorem Operation.Sweeping.neutral {op : Operation} (sweeping : op.Sweeping) : op.Neutral := by
  cases op with
  | sql statement =>
      cases statement with
      | select query => trivial
      | _ => exact sweeping.elim
  | now | queueGet _ | queueRemove _ | queueAdd _ _ _ => trivial
  | _ => exact sweeping.elim

namespace StuckPaymentScheduler

open Program

/-- Programs that only sweep. -/
abbrev Sweeping {α : Type} (body : Service α) : Prop := body.OnlyCalls Operation.Sweeping

/-- A retry adds a job. -/
theorem sweeping_retry (txn : Transaction) : Sweeping (retry txn) := by
  have adds : Sweeping (enqueue txn) := onlyCalls_perform trivial
  refine .bind (onlyCalls_perform trivial) fun existingJob => ?_
  cases existingJob with
  | none => exact adds
  | some job =>
      refine .bind (onlyCalls_perform trivial) fun current => ?_
      by_cases waits : current.any (fun job => pending job.state) = true
      · rw [if_pos waits]
        trivial
      · rw [if_neg waits]
        exact .bind (.swallow (onlyCalls_perform trivial)) fun _ => adds

/-- A stuck payment is retried or reported. -/
theorem sweeping_evaluate (cutoff : Nat) (txn : Transaction) : Sweeping (evaluate cutoff txn) := by
  unfold evaluate
  by_cases old : txn.createdAt / 1000 * 1000 < cutoff
  · rw [if_pos old]
    trivial
  · rw [if_neg old]
    exact sweeping_retry txn

/-- So is each of them. -/
theorem sweeping_evaluateAll (cutoff : Nat) (stuck : List Transaction) :
    Sweeping (evaluateAll cutoff stuck) := by
  induction stuck with
  | nil => trivial
  | cons txn rest ih => exact .bind (sweeping_evaluate cutoff txn) fun _ => ih

/-- The whole sweep commits nothing. -/
theorem sweeping_retryStuckPayments : Sweeping retryStuckPayments := by
  refine .bind (.bind (onlyCalls_perform trivial) fun _ => onlyCalls_perform trivial)
    fun stuck => ?_
  by_cases none : stuck.length = 0
  · rw [if_pos none]
    trivial
  · rw [if_neg none]
    exact .bind (onlyCalls_perform trivial) fun _ => sweeping_evaluateAll _ stuck

end StuckPaymentScheduler

namespace Setting

variable {setting : Setting} {commit : Database → Database → Prop} {who : ProcessId}
  {world : World} {id : TransactionId}

/-- The payment was not in progress. -/
def Spared (setting : Setting) (id : TransactionId) : Prop :=
  ∃ seen, setting.Since seen ∧ (seen.transactions.get? id).map Transaction.status ≠ some .processing

/-- The dead-letter handler either settles the payment or does nothing. -/
theorem Within.exhaustedBody (drafts : world.Drafts who .readCommitted {})
    (since : setting.Since world.db) :
    setting.Within commit who
      (fun _ last => last.Drafts who .readCommitted {} ∧ setting.Spared id ∨
        Within.Settles setting (Exhausts setting id) who last)
      (DeadLetterHandler.exhaustedBody id) world := by
  apply (Within.lockTransaction drafts id false).bind
  rintro found second _ kept ⟨drafts, read, locks⟩
  rw [Changes.apply_empty] at read
  have spared : found.map Transaction.status ≠ some .processing → setting.Spared id :=
    fun idle => ⟨second.db, since.later kept.later, read ▸ idle⟩
  cases found with
  | none => exact .ret (.inl ⟨drafts, spared fun absurd => by cases absurd⟩)
  | some current =>
      have locked := locks current rfl
      have found := read.symm
      change setting.Within commit who _ (if current.status = .processing then _ else _) second
      by_cases processing : current.status = .processing
      · rw [if_pos processing]
        apply (Within.returnFunds drafts locked).bind
        rintro _ third _ keptThird ⟨entries, returns, drafts⟩
        have lockedThird := keptThird.locks _ locked
        have foundThird := (keptThird.transaction locked).trans found
        refine (Within.updateAndRecord drafts ⟨current, foundThird⟩ rfl _ _).mono ?_
        rintro _ last _ keptLast ⟨_, timestamp, _, _, _, drafts⟩
        refine .inr ⟨_, drafts, fun later rely => ?_⟩
        have keeps := keptLast.trans (Keeps.of_rely rely)
        refine ⟨current, entries, timestamp, ?_, (keeps.transaction lockedThird).trans foundThird,
          processing, returns.congr (keeps.entriesOf lockedThird), rfl⟩
        exact since.later (((kept.trans keptThird).trans keeps).later)
      · rw [if_neg processing]
        exact .ret (.inl ⟨drafts, spared fun same => processing (Option.some.inj same)⟩)

namespace Outside

/-- The transaction of the dead-letter handler. -/
theorem exhaust (since : setting.Since world.db)
    (included : ∀ first second, Exhausts setting id first second → commit first second) :
    setting.Outside commit who
      (fun outcome last => ∀ value, outcome = .ok value →
        setting.Spared id ∨ ∃ first, Exhausts setting id first last.db)
      (Payroute.transaction .readCommitted (DeadLetterHandler.exhaustedBody id)) world := by
  have begins : ∀ start : World, start.Sound → setting.Rely who world start →
      setting.Within commit who
        (fun _ last => last.Drafts who .readCommitted {} ∧ setting.Spared id ∨
          Within.Settles setting (Exhausts setting id) who last)
        (DeadLetterHandler.exhaustedBody id) (start.begin who .readCommitted) :=
    fun start _ rely => Within.exhaustedBody (.begin start who _)
      (since.later (setting.later_drift _ _ rely.drift))
  refine Outside.transaction (fun start sound rely _ => begins start sound rely) ?_
    fun error last value absurd => by cases absurd
  rintro value before middle _ (⟨drafts, spared⟩ | ⟨settlement, drafts, commits⟩) rely
  · refine ⟨_, drafts.frame rely.frame, .inl ?_, fun last done _ _ => .inl ?_⟩
    · rw [Changes.apply_empty]
      exact .refl _
    · exact spared
  · have settled := commits middle rely
    refine ⟨_, drafts.frame rely.frame, .inr (included _ _ settled), fun last done _ _ => ?_⟩
    rw [done]
    exact .inr ⟨_, settled⟩

/-- The dead-letter handler commits at most the failure of its payment. -/
theorem onProviderJobExhausted (origin : setting.origin world.db) (jobId : JobId) (reason : String)
    (included : ∀ id first second, Exhausts setting id first second → commit first second) :
    setting.Outside commit who (fun _ _ => True)
      (DeadLetterHandler.onProviderJobExhausted jobId reason) world := by
  have since : setting.Since world.db := ⟨_, origin, setting.later_drift _ _ (setting.drift_refl _)⟩
  have gets : setting.Outside commit who (fun _ last => setting.Since last.db)
      (call (.queueGet jobId)) world :=
    Outside.pass (by trivial) (fun first second step holds =>
      holds.later (setting.later_drift _ _ step)) since
  refine gets.andThen fun found second holds => ?_
  cases found with
  | none => exact Outside.ret trivial
  | some job =>
      change setting.Outside commit who _ (if job.attemptsMade < job.attempts then _ else _) second
      by_cases left : job.attemptsMade < job.attempts
      · rw [if_pos left]
        exact Outside.ret trivial
      · rw [if_neg left]
        have settles : setting.Outside commit who _ _ second :=
          Outside.exhaust holds (included job.data.transactionId)
        refine Outside.swallow (settles.andThen fun _ _ _ => ?_) fun _ _ _ => trivial
        exact Outside.skip (by trivial) fun _ _ => trivial

/-- The provider's reference is one not handed out before. -/
theorem submitPayment {property : Database → Prop}
    (stable : ∀ first second, setting.drift first second → property first → property second)
    (holds : property world.db) (floor : setting.floor ≤ world.next .reference)
    (amount : Text) (currency : String) :
    setting.Outside commit who
      (fun outcome last => ∀ reference, outcome = .ok reference →
        property last.db ∧ setting.floor ≤ reference ∧ reference < last.next .reference)
      (ProviderService.submitPayment id amount currency) world := by
  have sleeps : setting.Outside commit who
      (fun _ last => property last.db ∧ setting.floor ≤ last.next .reference)
      (call (.sleep 50)) world := by
    apply Outside.neutral (by trivial)
    · intro middle _ _ rely _
      have kept : property middle.db ∧ setting.floor ≤ middle.next .reference :=
        ⟨stable _ _ rely.drift holds, floor.trans (rely.frame.supplies _)⟩
      exact ⟨kept, kept⟩
    · exact fun middle rely => ⟨stable _ _ rely.drift holds, floor.trans (rely.frame.supplies _)⟩
  refine sleeps.bind ?_ fun _ _ _ reference absurd => by cases absurd
  rintro _ second ⟨holds, floor⟩
  apply Outside.neutral (by trivial)
  · intro middle _ _ rely _
    refine ⟨fun reference same => ?_, fun reference absurd => by cases absurd⟩
    cases same
    refine ⟨stable _ _ rely.drift holds, floor.trans (rely.frame.supplies _), ?_⟩
    change middle.next .reference <
      Function.update middle.next .reference (middle.next .reference + 1) .reference
    rw [Function.update_self]
    exact Nat.lt_succ_self _
  · intro middle _ reference absurd
    cases absurd

/-- A worker commits at most a reference for its payment. -/
theorem process (origin : setting.origin world.db)
    (floor : setting.floor ≤ world.next .reference) (data : ProviderJobData)
    (included : ∀ first second, Assigns setting data.transactionId first second →
      commit first second) :
    setting.Outside commit who (fun _ _ => True) (ProviderProcessor.process data) world := by
  have reads : setting.Outside commit who
      (fun outcome last => ∀ row, outcome = .ok (some row) →
        setting.Read last.db data.transactionId row ∧
          setting.floor ≤ last.next .reference)
      (sql (.select (.transaction data.transactionId))) world := by
    change setting.Outside commit who _ (call (.sql (.select (.transaction data.transactionId))))
      world
    apply Outside.neutral (by trivial)
    · intro middle _ closed rely _
      refine ⟨fun row same => ?_, fun row absurd => by cases absurd⟩
      have found : middle.db.transactions.get? data.transactionId = some row := by
        rw [← World.view_closed closed]
        exact Except.ok.inj same
      exact ⟨⟨middle.db, setting.origin_drift _ _ origin rely.drift,
        setting.later_drift _ _ (setting.drift_refl _), found⟩,
        floor.trans (rely.frame.supplies _)⟩
    · intro middle _ row absurd
      cases absurd
  refine reads.andThen fun found second holds => ?_
  cases found with
  | none => exact Outside.ret trivial
  | some row =>
      obtain ⟨read, floor⟩ := holds row rfl
      change setting.Outside commit who _
        (if ProviderProcessor.eligible row then ProviderProcessor.submit data else _) second
      by_cases eligible : ProviderProcessor.eligible row
      · rw [if_pos eligible]
        have submits : setting.Outside commit who
            (fun outcome last => ∀ reference, outcome = .ok reference →
              setting.Read last.db data.transactionId row ∧ setting.floor ≤ reference ∧
                reference < last.next .reference)
            (ProviderService.submitPayment data.transactionId data.sourceAmount
              data.sourceCurrency) second :=
          Outside.submitPayment (fun first second step holds =>
            Read.later holds (setting.later_drift _ _ step)) read floor _ _
        refine submits.andThen fun reference third holds => ?_
        obtain ⟨read, fresh, handed⟩ := holds reference rfl
        have assigns : setting.Outside commit who (fun _ _ => True)
            (sql (.updateTransaction data.transactionId
              { providerReference := some reference })) third := by
          refine Outside.updateTransaction ?_ (fun middle rely => included _ _ ?_)
            fun _ _ => trivial
          · rintro stored ⟨⟩
            exact handed
          · exact ⟨row, reference, read.later (setting.later_drift _ _ rely.drift), eligible, fresh,
              rfl⟩
        exact assigns.andThen fun _ _ _ => Outside.skip (by trivial) fun _ _ => trivial
      · rw [if_neg eligible]
        exact Outside.ret trivial

/-- The sweep commits nothing. -/
theorem retryStuckPayments :
    setting.Outside commit who (fun _ _ => True) StuckPaymentScheduler.retryStuckPayments world :=
  Outside.idle (StuckPaymentScheduler.sweeping_retryStuckPayments.mono fun _ =>
    Operation.Sweeping.neutral) fun _ _ => trivial

/-- The cleanup of the keys changes no books. -/
theorem cleanupExpiredIdempotencyKeys :
    setting.Outside commit who (fun _ _ => True) RetentionScheduler.cleanupExpiredIdempotencyKeys
      world := by
  refine Outside.andThen (Outside.skip (by trivial) fun _ _ => trivial) fun now second _ => ?_
  exact Outside.skipSide (by trivial) fun _ _ => trivial

/-- The cleanup of the events deletes processed ones only. -/
theorem cleanupOldProcessedWebhookEvents (deployment : Deployment) :
    setting.Outside commit who (fun _ _ => True)
      (RetentionScheduler.cleanupOldProcessedWebhookEvents deployment) world := by
  refine Outside.andThen (Outside.skip (by trivial) fun _ _ => trivial) fun now second _ => ?_
  exact Outside.skipSide (by trivial) fun _ _ => trivial

end Outside
end Setting
end Payroute
