import Payroute.Runs.Solo
import Payroute.Runs.Transitions

/-! # What an operation alone emits

An operation that runs alone, with its commits answered, emits a final event only
after it took a payment a step on.
-/

namespace Payroute

open EffectSystem KeyedTable Program

/-- The final status an event announces for a payment. -/
def PaymentEvent.announces : PaymentEvent → Option (TransactionId × TransactionStatus)
  | .initiated _ _ _ _ _ _ => none
  | .completed id _ _ _ _ => some (id, .completed)
  | .failed id _ _ => some (id, .failed)
  | .refunded id _ => some (id, .reversed)

/-- The events an operation emits about a payment it took a step on. A delivery was the
first for its reference and status. -/
def Command.Announces (world : World) (id : TransactionId) (event : PaymentEvent) : Command → Prop
  | .process _ => event.announces = none
  | .processWebhook payload _ _ =>
      world.db.webhookEvents.get? (payload.reference, payload.status) = none ∧
      (world.db.byReference payload.reference).map Transaction.id = some id ∧
      (payload.status = "completed" ∧ event.announces = some (id, .completed) ∨
        payload.status = "failed" ∧ event.announces = some (id, .failed))
  | .onProviderJobExhausted _ _ => event.announces = some (id, .failed)
  | .refundPayment _ _ => event.announces = some (id, .reversed)
  | .resolveDispute _ dto => dto.action = .reverse ∧ event.announces = some (id, .reversed)
  | _ => False

/-- The operations that emit no final event. -/
def Command.Mute : Command → Prop
  | .processWebhook payload _ _ => payload.status ≠ "completed" ∧ payload.status ≠ "failed"
  | .onProviderJobExhausted _ _ => False
  | .refundPayment _ _ => False
  | .resolveDispute _ dto => dto.action = .reject
  | _ => True

/-- Either nothing is emitted, and then the books are the same unless the operation is
mute, or one event is, about a payment that was taken a step on. -/
def Command.Emits (deployment : Deployment) (world : World) (command : Command)
    (last : World) : Prop :=
  last.emitted = world.emitted ∧ (world.db.SameBooks last.db ∨ command.Mute) ∨
    ∃ id event, last.emitted = world.emitted ++ [event] ∧ command.Announces world id event ∧
      command.Proceeds deployment world id last.db

/-- The job of a dead-letter handler belongs to a payment in progress, if it is
exhausted. -/
def Command.Exhausted (world : World) : Command → Prop
  | .onProviderJobExhausted jobId _ => ∀ job ∈ world.jobs.get? jobId,
      job.attempts ≤ job.attemptsMade →
      (world.db.transactions.get? job.data.transactionId).map Transaction.status = some .processing
  | _ => True

/-- How a database transaction of an operation that started in `first` ends. -/
def Ended (first : World) (relation : Database → Database → Prop) {α : Type}
    (outcome : Except Failure α) (last : World) : Prop :=
  last.AtRest ∧ first.Silent last ∧
    ((∃ error, outcome = .error error ∧ first.db.SameBooks last.db) ∨
      ∃ value db, outcome = .ok value ∧ relation db last.db)

theorem Ended.still {first second last : World} {relation : Database → Database → Prop} {α : Type}
    {outcome : Except Failure α} (ended : Ended first relation outcome second)
    (still : second.Still last) : Ended first relation outcome last := by
  obtain ⟨_, silent, result⟩ := ended
  refine ⟨still.rest, silent.trans still.silent, ?_⟩
  rw [still.db]
  exact result

section Emissions

variable {deployment : Deployment} {world : World} {who : ProcessId} {id : TransactionId}

theorem Command.Emits.congr {command : Command} {middle last : World}
    (emits : command.Emits deployment world middle) (db : last.db = middle.db)
    (emitted : last.emitted = middle.emitted) : command.Emits deployment world last := by
  unfold Command.Emits at emits ⊢
  rw [db, emitted]
  exact emits

/-- Nothing has happened yet. -/
theorem World.Still.emits {start : World} (still : world.Still start) (command : Command) :
    command.Emits deployment world start := by
  refine .inl ⟨still.silent.emitted, .inl ?_⟩
  rw [still.db]
  exact .refl _

/-- A database transaction that settles a payment when it returns. -/
theorem solo_settles {α : Type} {body : Service α} {relation : Database → Database → Prop}
    {start : World} (calm : world.Calm start)
    (settles : (serial world).Outside relation who
      (fun outcome last => ∀ value, outcome = .ok value → ∃ db, relation db last.db)
      (transaction .readCommitted body) start)
    (only : body.OnlyCalls Operation.Inside) :
    Solo backend Acknowledged who (Ended world relation)
      (transaction .readCommitted body) start := by
  have judged : Solo backend Acknowledged who (fun outcome last => (∀ value, outcome = .ok value →
      ∃ db, relation db last.db) ∧ last.AtRest) (transaction .readCommitted body) start :=
    solo_serial (fun outcome db => ∀ value, outcome = .ok value → ∃ first, relation first db)
      settles calm.rest calm.clock
  refine (judged.and (solo_transaction (fun _ _ answered => answered) only)).mono ?_
  intro outcome last ended
  obtain ⟨⟨settled, rest⟩, silent, failed⟩ := ended
  refine ⟨rest, calm.silent.trans silent, ?_⟩
  cases outcome with
  | ok value =>
      obtain ⟨db, made⟩ := settled value rfl
      exact .inr ⟨value, db, rfl, made⟩
  | error error =>
      refine .inl ⟨error, rfl, ?_⟩
      rw [failed error rfl]
      exact calm.books

/-- A transaction that failed leaves nothing to announce. -/
theorem Ended.failed {α : Type} {command : Command} {relation : Database → Database → Prop}
    {error : Failure} {last : World}
    (ended : Ended world relation (.error error : Except Failure α) last) :
    command.Emits deployment world last := by
  obtain ⟨_, silent, ⟨_, _, same⟩ | ⟨_, _, absurd, _⟩⟩ := ended
  · exact .inl ⟨silent.emitted, .inl same⟩
  · cases absurd

/-- The event that follows a transaction. -/
theorem Ended.announces {α β : Type} {command : Command} {relation : Database → Database → Prop}
    {value : α} {event : PaymentEvent} {rest : Service β} {later : World}
    (ended : Ended world relation (.ok value : Except Failure α) later)
    (proceeds : ∀ first second, relation first second →
      command.Proceeds deployment world id second)
    (announces : command.Announces world id event) (idle : rest.OnlyCalls Operation.Idle) :
    Solo backend Acknowledged who (fun _ last => command.Emits deployment world last)
      ((call (.emit event)).bind fun _ => rest) later := by
  obtain ⟨resting, silent, ⟨_, absurd, _⟩ | ⟨_, db, _, made⟩⟩ := ended
  · cases absurd
  refine (solo_emit event ?_ : Solo backend Acknowledged who (fun _ last =>
    last.db = later.db ∧ last.emitted = world.emitted ++ [event]) _ later).bind
      (fun _ last emitted => ?_) fun _ last emitted => ?_
  · exact ⟨rfl, congrArg (· ++ [event]) silent.emitted⟩
  · refine (solo_kept idle).mono fun _ final kept => .inr ⟨id, event, ?_, announces, ?_⟩
    · rw [kept.2.emitted, emitted.2]
    · rw [kept.1, emitted.1]
      exact proceeds _ _ made
  · refine .inr ⟨id, event, emitted.2, announces, ?_⟩
    rw [emitted.1]
    exact proceeds _ _ made

/-- A database transaction under the refund lock and what follows it. -/
theorem solo_underLock {β : Type} {body : Service Unit} {relation : Database → Database → Prop}
    {rest : Unit → Service β} {post : Except Failure β → World → Prop} {start : World}
    (still : world.Still start)
    (begins : ∀ start : World, (serial world).Since start.db →
      (serial world).Within relation who
        (fun _ last => Setting.Within.Settles (serial world) relation who last) body
        (start.begin who .readCommitted))
    (only : body.OnlyCalls Operation.Inside)
    (settled : ∀ value later, Ended world relation (.ok value : Except Failure Unit) later →
      Solo backend Acknowledged who post (rest value) later)
    (unlocked : ∀ error later, world.Still later → post (.error error) later)
    (failed : ∀ error later, Ended world relation (.error error : Except Failure Unit) later →
      post (.error error) later) :
    Solo backend Acknowledged who post
      ((acquireLock (.refund id) PaymentsService.refundLockTtlMs).bind fun token =>
        (orThrow PaymentsService.refundBusy token).bind fun token =>
          (tryFinally (transaction .readCommitted body) (releaseLock (.refund id) token)).bind
            rest) start := by
  refine solo_idle_bind still (idle_acquireLock _ _) (fun token second still => ?_) unlocked
  refine solo_idle_bind still (onlyCalls_orThrow _ _) (fun token third still => ?_) unlocked
  have since : (serial world).Since third.db := ⟨world.db, rfl, still.db ▸ .refl _⟩
  have settles : (serial world).Outside relation who
      (fun outcome last => ∀ value, outcome = .ok value → ∃ db, relation db last.db)
      (transaction .readCommitted body) third :=
    Setting.Outside.settles (fun start _ rely => begins start
      (since.later ((serial world).later_drift _ _ rely.drift))) fun _ _ made => made
  have ends : Solo backend Acknowledged who (Ended world relation)
      (tryFinally (transaction .readCommitted body) (releaseLock (.refund id) token)) third := by
    refine (solo_settles still.calm settles only).tryFinally fun outcome later ended => ?_
    have releases : Solo backend Acknowledged who (fun _ last => later.Still last)
        (call (.releaseLock (.refund id) token)) later :=
      solo_still ended.1.still (onlyCalls_perform ⟨trivial, trivial⟩)
    exact releases.swallow fun _ last still => ⟨rfl, ended.still still⟩
  exact ends.bind settled failed

/-- A database transaction under the refund lock and the event that follows it. -/
theorem solo_refunds {β : Type} {body : Service Unit} {command : Command}
    {relation : Database → Database → Prop} {event : PaymentEvent} {rest : Service β}
    {start : World} (still : world.Still start)
    (begins : ∀ start : World, (serial world).Since start.db →
      (serial world).Within relation who
        (fun _ last => Setting.Within.Settles (serial world) relation who last) body
        (start.begin who .readCommitted))
    (only : body.OnlyCalls Operation.Inside)
    (proceeds : ∀ first second, relation first second →
      command.Proceeds deployment world id second)
    (announces : command.Announces world id event) (idle : rest.OnlyCalls Operation.Idle) :
    Solo backend Acknowledged who (fun _ last => command.Emits deployment world last)
      ((acquireLock (.refund id) PaymentsService.refundLockTtlMs).bind fun token =>
        (orThrow PaymentsService.refundBusy token).bind fun token =>
          (tryFinally (transaction .readCommitted body) (releaseLock (.refund id) token)).bind
            fun _ => (call (.emit event)).bind fun _ => rest) start :=
  solo_underLock still begins only
    (fun _ _ ended => ended.announces proceeds announces idle) (fun _ _ still => still.emits _)
    fun _ _ ended => ended.failed

theorem refundPayment_emits (rest : world.AtRest) (id : TransactionId) (dto : RefundPaymentDto) :
    Solo backend Acknowledged who
      (fun _ last => (Command.refundPayment id dto).Emits deployment world last)
      (PaymentsService.refundPayment id dto) world := by
  refine solo_idle_bind rest.still (idle_findTransaction id) (fun row second still => ?_)
    fun _ _ still => still.emits _
  refine solo_idle_bind still (onlyCalls_require _ _) (fun _ third still => ?_)
    fun _ _ still => still.emits _
  exact solo_refunds still (fun start since => Setting.Within.refundBody (.begin start who _) since)
    ((PaymentsService.booking_refundBody id).inner.mono fun _ => Operation.Inner.inside)
    (fun _ _ refunds => Refunds.proceeds refunds) rfl (idle_concludes id)

theorem resolveBranch_emits {start : World} (still : world.Still start) (id : TransactionId) :
    Solo backend Acknowledged who
      (fun _ last => (Command.resolveDispute id ⟨.reverse⟩).Emits deployment world last)
      (PaymentsService.resolveBranch id .reverse) start := by
  have shape : PaymentsService.resolveBranch id .reverse =
      (acquireLock (.refund id) PaymentsService.refundLockTtlMs).bind fun token =>
        (orThrow PaymentsService.refundBusy token).bind fun token =>
          (tryFinally (transaction .readCommitted (PaymentsService.reverseBody id))
            (releaseLock (.refund id) token)).bind fun _ =>
              (call (.emit (.refunded id "Dispute resolved: chargeback"))).bind fun _ =>
                .ret () := by
    have ends : (call (.emit (.refunded id "Dispute resolved: chargeback"))).bind
        (fun _ => .ret ()) = call (.emit (.refunded id "Dispute resolved: chargeback")) :=
          bind_ret _
    simp only [ends]
    rfl
  rw [shape]
  exact solo_refunds still (fun start since =>
    Setting.Within.reverseBody (.begin start who _) since)
    ((PaymentsService.booking_reverseBody id).inner.mono fun _ => Operation.Inner.inside)
    (fun _ _ reverses => Reverses.proceeds reverses) ⟨rfl, rfl⟩ trivial

theorem onProviderJobExhausted_emits (rest : world.AtRest) (jobId : JobId) (reason : String)
    (exhausted : (Command.onProviderJobExhausted jobId reason).Exhausted world) :
    Solo backend Acknowledged who
      (fun _ last => (Command.onProviderJobExhausted jobId reason).Emits deployment world last)
      (DeadLetterHandler.onProviderJobExhausted jobId reason) world := by
  have gets : Solo backend Acknowledged who (fun outcome last => world.Still last ∧
      ∀ found, outcome = .ok found → found = world.jobs.get? jobId)
      (call (.queueGet jobId)) world := by
    have idle : (call (.queueGet jobId)).OnlyCalls Operation.Idle :=
      onlyCalls_perform ⟨trivial, trivial⟩
    refine (solo_still rest.still idle).and ?_
    refine solo_call (.queueGet jobId) fun delivery _ found returned => ?_
    have ran := World.exec_of_ok returned
    rw [ran] at returned
    exact (Except.ok.inj returned).symm
  refine gets.bind (fun found second got => ?_) fun _ _ got => got.1.emits _
  obtain ⟨still, read⟩ := got
  cases found with
  | none => exact .ret (still.emits _)
  | some job =>
      change Solo backend Acknowledged who _
        (if job.attemptsMade < job.attempts then _ else _) second
      by_cases left : job.attemptsMade < job.attempts
      · rw [if_pos left]
        exact .ret (still.emits _)
      · rw [if_neg left]
        have processing := exhausted job (read _ rfl).symm (Nat.not_lt.mp left)
        have settles : (serial world).Outside (Exhausts (serial world) job.data.transactionId) who
            (fun outcome last => ∀ value, outcome = .ok value →
              ∃ first, Exhausts (serial world) job.data.transactionId first last.db)
            (transaction .readCommitted (DeadLetterHandler.exhaustedBody job.data.transactionId))
            second := by
          refine (Setting.Outside.exhaust ⟨world.db, rfl, still.db ▸ .refl _⟩
            fun _ _ made => made).mono fun outcome last ended value returned => ?_
          rcases ended value returned with ⟨seen, since, idle⟩ | exhausts
          · rw [(serial_since since).transactions] at idle
            exact (idle processing).elim
          · exact exhausts
        have settled := solo_settles still.calm settles
          ((DeadLetterHandler.booking_exhaustedBody _).inner.mono fun _ => Operation.Inner.inside)
        refine Solo.swallow (settled.bind (fun _ later ended => ?_) fun error later ended =>
          ended.failed)
          fun _ _ emits => emits
        have ends : (call (.emit
          (.failed job.data.transactionId none s!"Dead letter: {reason}"))).bind
            (fun _ => .ret ()) =
              call (.emit (.failed job.data.transactionId none s!"Dead letter: {reason}")) :=
          bind_ret _
        rw [← ends]
        exact ended.announces (fun _ _ exhausts => Exhausts.proceeds exhausts) rfl trivial

/-- Nothing has happened to the books. -/
theorem World.Calm.emits {start : World} (calm : world.Calm start) (command : Command) :
    command.Emits deployment world start := .inl ⟨calm.silent.emitted, .inl calm.books⟩

section Webhooks

variable {payload : WebhookPayloadDto} {rawBody : List UInt8} {signature : String}

/-- The row of a delivery is inserted, unless there is one already. -/
theorem solo_insertEvent {fine : Operation → Delivery → Prop} (rest : world.AtRest) :
    Solo backend fine who
      (fun outcome last => world.Calm last ∧ ∀ event, outcome = .ok (some event) →
        (serial world).Arrived payload event last.db)
      (sql (.insertEvent (Setting.eventDraft payload
        (WebhooksService.verifySignature deployment rawBody signature)))) world := by
  have inserts : (serial world).Outside (fun _ _ => False) who
      (fun outcome last => ∀ event, outcome = .ok (some event) →
        (serial world).Arrived payload event last.db)
      (sql (.insertEvent (Setting.eventDraft payload
        (WebhooksService.verifySignature deployment rawBody signature)))) world :=
    (Setting.Outside.insertEvent rfl).mono fun outcome last holds event returned =>
      holds (some event) returned
  refine (solo_beside (fun (outcome : Except Failure (Option WebhookEvent)) db => ∀ event,
    outcome = .ok (some event) → (serial world).Arrived payload event db) inserts
    (onlyCalls_perform trivial) rest rfl).mono fun outcome last ended => ?_
  exact ⟨ended.2, ended.1⟩

/-- Notes on an event change nothing else. -/
theorem solo_note {fine : Operation → Delivery → Prop} {start : World} (calm : world.Calm start)
    (eventId : Nat) (error : String) :
    Solo backend fine who (fun _ last => world.Calm last)
      (sql (.updateEvent eventId { error := some error })) start := by
  have notes : (serial world).Outside (fun _ _ => False) who (fun _ _ => True)
      (sql (.updateEvent eventId { error := some error })) start :=
    Setting.Outside.skipSide (by rfl) fun _ _ => trivial
  refine (solo_beside (fun _ _ => True) notes (onlyCalls_perform trivial) calm.rest
    calm.clock).mono fun outcome last ended => ?_
  exact calm.trans ended.2

/-- The transaction of a delivery, whose failure is noted on the event. -/
theorem solo_applyEvent {event : WebhookEvent} {start : World} (calm : world.Calm start)
    (arrived : (serial world).Arrived payload event start.db)
    (valid : WebhooksService.verifySignature deployment rawBody signature = true) :
    Solo backend Acknowledged who
      (fun outcome last => match outcome with
        | .error _ => world.Calm last
        | .ok none => world.Calm last
        | .ok (some row) => world.db.byReference payload.reference = some row ∧
            Ended world (Delivers (serial world) deployment payload rawBody signature)
              (.ok () : Except Failure Unit) last)
      (WebhooksService.applyEvent payload event.id) start := by
  have only : (WebhooksService.webhookBody payload event.id).OnlyCalls Operation.Inside :=
    (WebhooksService.recording_webhookBody payload event.id).mono fun _ recording =>
      recording.handling.inside
  have judged : Solo backend Acknowledged who (fun outcome last => (∀ found, outcome = .ok found →
      Setting.Outside.Handled (serial world) deployment payload rawBody signature found last.db) ∧
        last.AtRest)
      (transaction .readCommitted (WebhooksService.webhookBody payload event.id)) start :=
    solo_serial (fun outcome db => ∀ found, outcome = .ok found →
      Setting.Outside.Handled (serial world) deployment payload rawBody signature found db)
      (Setting.Outside.deliver arrived valid fun _ _ made => made) calm.rest calm.clock
  have delivered := (judged.and (solo_transaction (fun _ _ answered => answered) only)).and
    (solo_clock _)
  refine delivered.tryCatch (fun found last ended => ?_) fun error last ended => ?_
  · obtain ⟨⟨⟨handled, resting⟩, silent, _⟩, clock⟩ := ended
    cases found with
    | none =>
        obtain ⟨first, misses⟩ := handled none rfl
        have missed := misses
        obtain ⟨_, _, marks, _⟩ := missed
        exact ⟨(serial_marks marks).2.trans misses.books, clock.trans calm.clock,
          calm.silent.trans silent, resting⟩
    | some row =>
        obtain ⟨first, delivers, looks⟩ := handled (some row) rfl
        have same := delivers
        obtain ⟨_, _, _, _, _, _, _, marks, _⟩ := same
        exact ⟨serial_looksUp (serial_marks marks).2 looks, resting, calm.silent.trans silent,
          .inr ⟨(), first, rfl, delivers⟩⟩
  · obtain ⟨⟨⟨_, resting⟩, silent, failed⟩, clock⟩ := ended
    have calm : world.Calm last := by
      refine ⟨?_, clock.trans calm.clock, calm.silent.trans silent, resting⟩
      rw [failed error rfl]
      exact calm.books
    have notes : Solo backend Acknowledged who (fun _ last => world.Calm last)
        (swallow (sql (.updateEvent event.id { error := some error.message }))) last :=
      (solo_note calm _ _).swallow fun _ _ calm => calm
    exact notes.bind (fun _ _ calm => .fail calm) fun _ _ calm => calm

/-- The event of a delivery that was applied. -/
theorem solo_announce {row : Transaction} {start : World}
    (found : world.db.byReference payload.reference = some row)
    (ended : Ended world (Delivers (serial world) deployment payload rawBody signature)
      (.ok () : Except Failure Unit) start)
    (proceeds : ∀ first second,
      Delivers (serial world) deployment payload rawBody signature first second →
      (Command.processWebhook payload rawBody signature).Proceeds deployment world row.id second) :
    Solo backend Acknowledged who
      (fun _ last => (Command.processWebhook payload rawBody signature).Emits deployment world last)
      (WebhooksService.announce row payload) start := by
  have emits : ∀ event : PaymentEvent,
      (Command.processWebhook payload rawBody signature).Announces world row.id event →
      Solo backend Acknowledged who
        (fun _ last => (Command.processWebhook payload rawBody signature).Emits deployment world
          last)
        (call (.emit event)) start := by
    intro event announces
    have ends : (call (.emit event)).bind (fun _ => .ret ()) = call (.emit event) := bind_ret _
    rw [← ends]
    exact ended.announces proceeds announces trivial
  have absent : world.db.webhookEvents.get? (payload.reference, payload.status) = none := by
    obtain ⟨_, _, ⟨_, absurd, _⟩ | ⟨_, _, _, _, _, _, _, _, _, _, marks, _⟩⟩ := ended
    · cases absurd
    · exact (serial_marks marks).1
  have named : (world.db.byReference payload.reference).map Transaction.id = some row.id := by
    rw [found, Option.map_some]
  unfold WebhooksService.announce
  by_cases completed : payload.status = "completed"
  · rw [if_pos completed]
    exact emits _ ⟨absent, named, .inl ⟨completed, rfl⟩⟩
  · rw [if_neg completed]
    by_cases failed : payload.status = "failed"
    · rw [if_pos failed]
      exact emits _ ⟨absent, named, .inr ⟨failed, rfl⟩⟩
    · rw [if_neg failed]
      exact .ret (.inl ⟨ended.2.1.emitted, .inr ⟨completed, failed⟩⟩)

theorem processWebhook_emits (rest : world.AtRest) (payload : WebhookPayloadDto)
    (rawBody : List UInt8) (signature : String) :
    Solo backend Acknowledged who
      (fun _ last => (Command.processWebhook payload rawBody signature).Emits deployment world last)
      (WebhooksService.processWebhook deployment payload rawBody signature) world := by
  have inserts : Solo backend Acknowledged who
      (fun outcome last => world.Calm last ∧ ∀ event, outcome = .ok (some event) →
        (serial world).Arrived payload event last.db)
      (sql (.insertEvent (Setting.eventDraft payload
        (WebhooksService.verifySignature deployment rawBody signature)))) world :=
    solo_insertEvent rest
  refine inserts.bind (fun reply second arrived => ?_) fun _ _ arrived => arrived.1.emits _
  obtain ⟨calm, arrived⟩ := arrived
  cases reply with
  | none => exact .ret (calm.emits _)
  | some event =>
      change Solo backend Acknowledged who _ (WebhooksService.handleEvent payload
        (WebhooksService.verifySignature deployment rawBody signature) event.id) second
      unfold WebhooksService.handleEvent
      cases valid : WebhooksService.verifySignature deployment rawBody signature with
      | false => exact (solo_note calm _ _).mono fun _ _ calm => calm.emits _
      | true =>
          rw [if_pos rfl]
          refine (solo_applyEvent calm (arrived _ rfl) valid).bind ?_ fun _ _ calm => calm.emits _
          intro processed third ended
          cases processed with
          | none => exact .ret (World.Calm.emits ended _)
          | some row =>
              obtain ⟨found, ended⟩ := ended
              have proceeds : ∀ first second,
                  Delivers (serial world) deployment payload rawBody signature first second →
                  (Command.processWebhook payload rawBody signature).Proceeds deployment world
                    row.id
                    second := by
                intro first second delivers
                obtain ⟨other, looked, proceeds⟩ := delivers.proceeds
                rw [found] at looked
                cases looked
                exact proceeds
              refine (solo_invalidatePaymentCaches ended.1.still).bind (fun _ fourth dropped => ?_)
                fun _ _ dropped => by cases dropped.1
              exact solo_announce found (ended.still dropped.2) proceeds

end Webhooks

/-- An update of a payment outside of transactions that was answered has been made. -/
theorem solo_update {start : World} (rest : start.AtRest) {row : Transaction}
    (found : start.db.transactions.get? id = some row) (patch : TransactionPatch) :
    Solo backend Acknowledged who
      (fun outcome last => last.emitted = start.emitted ∧ (outcome = .ok () →
        last.db = Settlement.apply { id := id, patches := [patch] } start.db))
      (sql (.updateTransaction id patch)) start := by
  have mute : (sql (.updateTransaction id patch)).OnlyCalls Operation.Mute :=
    onlyCalls_perform trivial
  refine (solo_mute rfl mute).and ?_
  refine solo_call (.sql (.updateTransaction id patch)) fun delivery _ returned => ?_
  have closed := rest.sessions who
  have ran := World.exec_of_ok returned
  rw [ran] at returned ⊢
  change (start.execute who (.updateTransaction id patch)).1 = .ok () at returned
  change (start.execute who (.updateTransaction id patch)).2.db = _
  rcases World.execute_cases start who (.updateTransaction id patch) with
    ⟨error, refused⟩ | ⟨outcome, done, _, ran⟩
  · rw [refused] at returned
    cases returned
  · simp only [Statement.eval, Database.updateTransaction, World.view_closed closed, found] at done
    cases done
    rw [ran, World.apply_closed_db closed, World.settlement_of_update found]

theorem process_emits (rest : world.AtRest) (data : ProviderJobData) :
    Solo backend Acknowledged who (fun _ last => (Command.process data).Emits deployment world last)
      (ProviderProcessor.process data) world := by
  have mute : ∀ {last : World}, last.emitted = world.emitted →
      (Command.process data).Emits deployment world last := fun same => .inl ⟨same, .inr trivial⟩
  have reads : Solo backend Acknowledged who (fun outcome last => world.Still last ∧
      ∀ found, outcome = .ok found → found = world.db.transactions.get? data.transactionId)
      (sql (.select (.transaction data.transactionId))) world := by
    have idle : (sql (.select (.transaction data.transactionId))).OnlyCalls Operation.Idle :=
      onlyCalls_perform ⟨trivial, trivial⟩
    refine (solo_still rest.still idle).and ?_
    refine solo_call (.sql (.select (.transaction data.transactionId)))
      fun delivery _ found returned => ?_
    have ran := World.exec_of_ok returned
    rw [ran] at returned
    have read : (world.view who).transactions.get? data.transactionId = found :=
      Except.ok.inj returned
    rw [World.view_closed (rest.sessions who)] at read
    exact read.symm
  refine reads.bind (fun found second read => ?_) fun _ _ read => mute read.1.silent.emitted
  obtain ⟨still, read⟩ := read
  have read := read found rfl
  cases found with
  | none => exact .ret (mute still.silent.emitted)
  | some row =>
      change Solo backend Acknowledged who _
        (if ProviderProcessor.eligible row then _ else _) second
      by_cases eligible : ProviderProcessor.eligible row
      · rw [if_pos eligible]
        have submits : Solo backend Acknowledged who
            (fun _ last => last.db = world.db ∧ last.emitted = world.emitted ∧ last.AtRest)
            (ProviderService.submitPayment data.transactionId data.sourceAmount data.sourceCurrency)
            second := by
          have only : (ProviderService.submitPayment data.transactionId data.sourceAmount
              data.sourceCurrency).OnlyCalls fun op => op.Neutral ∧ op.Mute :=
            .bind (onlyCalls_perform ⟨trivial, trivial⟩) fun _ =>
              onlyCalls_perform ⟨trivial, trivial⟩
          refine Solo.keeps (fun last : World => last.db = world.db ∧
            last.emitted = world.emitted ∧ last.AtRest) ?_
              only ⟨still.db, still.silent.emitted, still.rest⟩
          intro delivery op later allowed held
          obtain ⟨same, emitted, resting⟩ := held
          have aside : later.Aside (World.exec who delivery op later).2 :=
            World.exec_neutral allowed.1
          exact ⟨aside.db.trans same, (later.exec_emitted who delivery allowed.2).trans emitted,
            resting.aside aside⟩
        refine submits.bind (fun reference third submitted => ?_) fun _ _ submitted =>
          mute submitted.2.1
        obtain ⟨same, emitted, resting⟩ := submitted
        have there : third.db.transactions.get? data.transactionId = some row := by
          rw [same]
          exact read.symm
        refine (solo_update resting there _).bind (fun _ fourth updated => ?_)
          fun _ _ updated => mute (updated.1.trans emitted)
        refine solo_emit _ (.inr ⟨data.transactionId, .initiated data.transactionId
          data.senderAccountId data.sourceAmount data.sourceCurrency data.destinationCurrency
          data.idempotencyKey, ?_, rfl, ?_⟩)
        · rw [updated.1, emitted]
        · change (Command.process data).Proceeds deployment world data.transactionId fourth.db
          rw [updated.2 rfl]
          refine Settlement.proceeds (same ▸ .refl _) Settlement.own_patches there ?_
          intro old _ named
          rw [← named] at eligible
          refine .submit data reference ?_ eligible (Settlement.continues rfl)
          rw [named]
          exact Table.key_of_get? there
      · rw [if_neg eligible]
        exact .ret (mute still.silent.emitted)

theorem mute_transaction {α : Type} {isolation : Isolation} {body : Service α}
    (inner : Inner body) :
    (transaction isolation body).OnlyCalls Operation.Mute :=
  onlyCalls_transaction trivial trivial trivial (inner.mono fun _ => Operation.Inner.mute)

theorem mute_of_idle {α : Type} {body : Service α} (idle : body.OnlyCalls Operation.Idle) :
    body.OnlyCalls Operation.Mute := by
  refine idle.mono fun op allowed => ?_
  cases op with
  | emit event => exact allowed.2.elim
  | _ => trivial

theorem mute_createPayment (dto : CreatePaymentDto) (idempotencyKey : String) :
    (PaymentsService.createPayment deployment dto idempotencyKey).OnlyCalls Operation.Mute := by
  have reserves : (PaymentsService.commitPayment deployment dto).OnlyCalls Operation.Mute :=
    .bind (mute_of_idle (idle_acquireLock _ _)) fun _ => .bind (onlyCalls_orThrow _ _) fun _ =>
      .tryFinally (mute_transaction (PaymentsService.inner_reserveFunds deployment dto))
        (mute_of_idle (idle_releaseLock _ _))
  exact .bind reserves fun _ => .bind (onlyCalls_perform trivial) fun _ =>
    .bind (mute_of_idle idle_invalidatePaymentCaches) fun _ => trivial

theorem mute_raiseDispute (dto : DisputePaymentDto) :
    (PaymentsService.raiseDispute id dto).OnlyCalls Operation.Mute :=
  .bind (mute_of_idle (idle_findTransaction id)) fun _ => .bind (onlyCalls_require _ _) fun _ =>
    .bind (mute_transaction (PaymentsService.booking_raiseBody _ _).inner) fun _ =>
      mute_of_idle (idle_concludes id)

theorem resolveDispute_emits (rest : world.AtRest) (id : TransactionId) (dto : ResolveDisputeDto) :
    Solo backend Acknowledged who
      (fun _ last => (Command.resolveDispute id dto).Emits deployment world last)
      (PaymentsService.resolveDispute id dto) world := by
  refine solo_idle_bind rest.still (idle_findTransaction id) (fun row second still => ?_)
    fun _ _ still => still.emits _
  refine solo_idle_bind still (onlyCalls_require _ _) (fun _ third still => ?_)
    fun _ _ still => still.emits _
  obtain ⟨action⟩ := dto
  cases action with
  | reverse =>
      refine (resolveBranch_emits still id).bind (fun _ fourth emits => ?_) fun _ _ emits => emits
      exact (solo_kept (idle_concludes id)).mono fun _ _ kept =>
        emits.congr kept.1 kept.2.emitted
  | reject =>
      have only : ((PaymentsService.resolveBranch id .reject).bind fun _ => do
          PaymentsService.invalidatePaymentCaches
          sql (.select (.transaction id))).OnlyCalls Operation.Mute :=
        .bind (mute_transaction (PaymentsService.booking_rejectBody id).inner) fun _ =>
          mute_of_idle (idle_concludes id)
      exact (solo_mute still.silent.emitted only).mono fun _ _ same => .inl ⟨same, .inr rfl⟩

/-- What an operation that runs alone with its commits answered emits. -/
theorem Command.run_emits (rest : world.AtRest) (command : Command)
    (exhausted : command.Exhausted world) :
    Solo backend Acknowledged who (fun _ last => command.Emits deployment world last)
      (command.program deployment) world := by
  cases command with
  | createPayment dto idempotencyKey =>
      have only : ((PaymentsService.createPayment deployment dto idempotencyKey).bind
          fun _ => .ret ()).OnlyCalls Operation.Mute :=
        .bind (mute_createPayment dto idempotencyKey) fun _ => trivial
      exact (solo_mute rfl only).mono fun _ _ same => .inl ⟨same, .inr trivial⟩
  | process data => exact process_emits rest data
  | processWebhook payload rawBody signature =>
      exact processWebhook_emits rest payload rawBody signature
  | onProviderJobExhausted jobId failedReason =>
      exact onProviderJobExhausted_emits rest jobId failedReason exhausted
  | refundPayment id dto =>
      exact (refundPayment_emits rest id dto).bind (fun _ _ emits => .ret emits)
        fun _ _ emits => emits
  | raiseDispute id dto =>
      have only : ((PaymentsService.raiseDispute id dto).bind
          fun _ => .ret ()).OnlyCalls Operation.Mute :=
        .bind (mute_raiseDispute dto) fun _ => trivial
      exact (solo_mute rfl only).mono fun _ _ same => .inl ⟨same, .inr trivial⟩
  | resolveDispute id dto =>
      exact (resolveDispute_emits rest id dto).bind (fun _ _ emits => .ret emits)
        fun _ _ emits => emits
  | retryStuckPayments =>
      have only : StuckPaymentScheduler.retryStuckPayments.OnlyCalls Operation.Mute :=
        StuckPaymentScheduler.sweeping_retryStuckPayments.mono fun _ => Operation.Sweeping.mute
      exact (solo_mute rfl only).mono fun _ _ same => .inl ⟨same, .inr trivial⟩
  | cleanupExpiredIdempotencyKeys =>
      have only : RetentionScheduler.cleanupExpiredIdempotencyKeys.OnlyCalls Operation.Mute :=
        .bind (onlyCalls_perform trivial) fun _ => onlyCalls_perform trivial
      exact (solo_mute rfl only).mono fun _ _ same => .inl ⟨same, .inr trivial⟩
  | cleanupOldProcessedWebhookEvents =>
      have only : (RetentionScheduler.cleanupOldProcessedWebhookEvents deployment).OnlyCalls
          Operation.Mute :=
        .bind (onlyCalls_perform trivial) fun _ => onlyCalls_perform trivial
      exact (solo_mute rfl only).mono fun _ _ same => .inl ⟨same, .inr trivial⟩

end Emissions
end Payroute
