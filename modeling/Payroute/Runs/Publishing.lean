import Payroute.Books.Postings
import Payroute.Runs.Knowledge
import Payroute.Runs.Processes

/-! # The programs and what they publish

Each program of the backend keeps to the protocol of knowledge: what it submits, emits,
caches or answers is about a payment that an earlier reply has shown to be committed.
-/

namespace Payroute

open EffectSystem Program KeyedTable

/-! ## Rules -/

/-- Whether the code runs inside a transaction, with the payments known before it. -/
inductive Place where
  | outside
  | inside (before : Set Transaction)

/-- Where the code stands, with what is known there. -/
def Place.standing (known : Set Transaction) : Place → Standing
  | .outside => .outside known
  | .inside before => .inside before known

/-- The call publishes nothing and stays where it is. -/
def Place.Silent (op : Operation) : Place → Prop
  | .outside => op.Free ∧ ∀ publication, ¬ op.Publishing publication
  | .inside _ => op.Handling

/-- From the known payments the program keeps to the protocol. It forgets none, and what
it returns comes with what it knows then. -/
def Telling {α : Type} (place : Place) (known : Set Transaction)
    (knows : α → Set Transaction → Prop) (body : Service α) : Prop :=
  Follows knowledge (fun outcome last => ∃ more, last = place.standing more ∧ known ⊆ more ∧
    ∀ value, outcome = .ok value → knows value more) body (place.standing known)

namespace Telling

variable {α β : Type} {place : Place} {known : Set Transaction}
  {knows : α → Set Transaction → Prop}

/-- A value tells what is known of it. -/
theorem ret {value : α} (holds : knows value known) : Telling place known knows (.ret value) :=
  ⟨known, rfl, Set.Subset.rfl, fun _ same => by cases same; exact holds⟩

/-- A failure tells nothing. -/
theorem fail (error : Failure) : Telling place known knows (.fail error) :=
  ⟨known, rfl, Set.Subset.rfl, nofun⟩

/-- Less may be claimed of the value. -/
theorem mono {weaker : α → Set Transaction → Prop} {body : Service α}
    (tells : Telling place known knows body)
    (implies : ∀ value more, known ⊆ more → knows value more → weaker value more) :
    Telling place known weaker body :=
  Follows.mono tells fun _ _ reached => by
    obtain ⟨more, same, kept, returns⟩ := reached
    exact ⟨more, same, kept, fun value returned => implies value more kept (returns value returned)⟩

/-- What the first part learns is known to the rest. -/
theorem bind {final : β → Set Transaction → Prop} {body : Service α} {f : α → Service β}
    (first : Telling place known knows body)
    (rest : ∀ value more, known ⊆ more → knows value more → Telling place more final (f value)) :
    Telling place known final (body.bind f) := by
  refine Follows.bind first (fun value later reached => ?_) fun error later reached => ?_
  · obtain ⟨more, rfl, kept, returns⟩ := reached
    refine Follows.mono (rest value more kept (returns value rfl)) fun outcome last ended => ?_
    obtain ⟨final, same, grown, holds⟩ := ended
    exact ⟨final, same, kept.trans grown, holds⟩
  · obtain ⟨more, same, kept, _⟩ := reached
    exact ⟨more, same, kept, nofun⟩

/-- A call outside a transaction. -/
theorem call {op : Operation} (free : op.Free) (founded : op.Founded known) :
    Telling .outside known (fun value more => op.Teaches more (.ok value)) (call op) := by
  refine Follows.perform ?_ fun reply later moved => ?_
  · exact ⟨.error .unavailable, _, .served free founded Set.Subset.rfl (op.teaches_error _ _)⟩
  · cases moved with
    | served _ _ kept teaches =>
        exact ⟨_, rfl, kept, fun value same => by subst same; exact teaches⟩
    | begun _ _ | refused _ _ _ => exact free.elim

/-- A call inside a transaction. -/
theorem draft {before : Set Transaction} {op : Operation} (handling : op.Handling) :
    Telling (.inside before) known (fun value more => op.Teaches more (.ok value))
      (Payroute.call op) := by
  refine Follows.perform ?_ fun reply later moved => ?_
  · exact ⟨.error .unavailable, _, .drafted handling Set.Subset.rfl (op.teaches_error _ _)⟩
  · cases moved with
    | drafted _ kept teaches =>
        exact ⟨_, rfl, kept, fun value same => by subst same; exact teaches⟩
    | committed _ _ | uncommitted _ _ _ | abandoned _ _ _ => exact handling.free.elim

/-- A call that publishes nothing. -/
theorem look {op : Operation} (silent : place.Silent op) :
    Telling place known (fun value more => op.Teaches more (.ok value)) (Payroute.call op) := by
  cases place with
  | outside => exact call silent.1 fun publication shown => (silent.2 publication shown).elim
  | inside before => exact draft silent

/-- Programs that publish nothing. -/
theorem quiet {body : Service α} (only : body.OnlyCalls place.Silent) :
    Telling place known (fun _ _ => True) body := by
  induction body generalizing known with
  | ret value => exact ret trivial
  | fail error => exact fail error
  | call op next ih =>
      have looks : Telling place known (fun _ _ => True) (Payroute.call op) :=
        (look only.1).mono fun _ _ _ _ => trivial
      refine ⟨looks.1, fun reply later moved => ?_⟩
      have reached := looks.2 reply later moved
      have kept : ∃ more, later = place.standing more ∧ known ⊆ more := by
        cases reply with
        | ok value =>
            obtain ⟨more, same, kept, _⟩ := reached
            exact ⟨more, same, kept⟩
        | error error =>
            obtain ⟨more, same, kept, _⟩ := reached
            exact ⟨more, same, kept⟩
      obtain ⟨more, rfl, grown⟩ := kept
      refine Follows.mono (ih reply (only.2 reply)) fun outcome last ended => ?_
      obtain ⟨final, same, further, holds⟩ := ended
      exact ⟨final, same, grown.trans further, holds⟩

/-- What a program returns while its failures are recorded. -/
theorem attempt {body : Service α} (tells : Telling place known knows body) :
    Telling place known (fun outcome more => ∀ value, outcome = .ok value → knows value more)
      (attempt body) :=
  (Follows.attempt tells).mono fun _ _ reached => by
    obtain ⟨inner, same, more, there, kept, returns⟩ := reached
    refine ⟨more, there, kept, fun outcome returned => ?_⟩
    cases same
    cases returned
    exact returns

/-- Nothing is claimed of an outcome that is ignored. -/
theorem swallow {body : Service α} (tells : Telling place known knows body) :
    Telling place known (fun _ _ => True) (swallow body) :=
  Follows.swallow tells fun _ _ reached => by
    obtain ⟨more, same, kept, _⟩ := reached
    exact ⟨more, same, kept, fun _ _ => trivial⟩

/-- The handler knows at least what was known before. -/
theorem tryCatch {body : Service α} {handler : Failure → Service α}
    (first : Telling place known knows body)
    (caught : ∀ error more, known ⊆ more → Telling place more knows (handler error)) :
    Telling place known knows (tryCatch body handler) := by
  refine Follows.tryCatch first (fun value later reached => reached) fun error later reached => ?_
  obtain ⟨more, rfl, kept, _⟩ := reached
  refine Follows.mono (caught error more kept) fun outcome last ended => ?_
  obtain ⟨final, same, grown, holds⟩ := ended
  exact ⟨final, same, kept.trans grown, holds⟩

/-- The value outlives the cleanup. -/
theorem tryFinally {body : Service α} {cleanup : Service Unit}
    (first : Telling place known knows body)
    (stable : ∀ value more last, more ⊆ last → knows value more → knows value last)
    (cleaned : ∀ more, known ⊆ more → Telling place more (fun _ _ => True) cleanup) :
    Telling place known knows (tryFinally body cleanup) := by
  refine first.attempt.bind fun outcome more kept returns => ?_
  refine (cleaned more kept).bind fun _ last grown _ => ?_
  cases outcome with
  | ok value => exact ret (stable value more last grown (returns value rfl))
  | error error => exact fail error

/-- A database transaction: what its body has drafted is committed when it returns. -/
theorem transaction {isolation : Isolation} {body : Service α}
    (tells : Telling (.inside known) known knows body) :
    Telling .outside known knows (transaction isolation body) := by
  have attempted : Follows knowledge
      (fun outcome last => (∃ value more, outcome = .ok value ∧ last = .outside more ∧
          known ⊆ more ∧ knows value more) ∨
        ∃ error, outcome = .error error ∧
          ((∃ more, last = .inside known more) ∨ last = .ending known))
      (do
        Payroute.call (.begin isolation)
        let value ← body
        Payroute.call .commit
        return value) (.outside known) := by
    refine ⟨⟨.error .unavailable, _, .refused known isolation _⟩, fun reply later moved => ?_⟩
    cases moved with
    | served free _ _ _ => exact free.elim
    | refused _ _ error => exact .inr ⟨error, rfl, .inr rfl⟩
    | begun _ _ =>
        change Follows knowledge _ (body.bind fun value => (Payroute.call .commit).bind fun _ =>
          .ret value) (.inside known known)
        refine Follows.bind tells (fun value later reached => ?_) fun error later reached => ?_
        · obtain ⟨more, rfl, kept, returns⟩ := reached
          refine ⟨⟨.ok (), _, .committed known more⟩, fun answer last ended => ?_⟩
          cases ended with
          | drafted handling _ _ => exact handling.free.elim
          | committed _ _ => exact .inl ⟨value, more, rfl, rfl, kept, returns value rfl⟩
          | uncommitted _ _ error => exact .inr ⟨error, rfl, .inr rfl⟩
        · obtain ⟨more, same, _⟩ := reached
          exact .inr ⟨error, rfl, .inl ⟨more, same⟩⟩
  refine attempted.tryCatch (fun value later reached => ?_) fun error later reached => ?_
  · rcases reached with ⟨found, more, same, there, kept, holds⟩ | ⟨_, absurd, _⟩
    · cases same
      exact ⟨more, there, kept, fun other returned => by cases returned; exact holds⟩
    · cases absurd
  · rcases reached with ⟨_, _, absurd, _⟩ | ⟨_, _, ⟨more, rfl⟩ | rfl⟩
    · cases absurd
    · refine ⟨⟨.ok (), _, .abandoned known more _⟩, fun reply last moved => ?_⟩
      cases moved with
      | drafted handling _ _ => exact handling.free.elim
      | abandoned _ _ _ =>
          cases reply with
          | ok _ => exact ⟨known, rfl, Set.Subset.rfl, nofun⟩
          | error _ => exact ⟨known, rfl, Set.Subset.rfl, nofun⟩
    · refine ⟨⟨.ok (), _, .ended known _⟩, fun reply last moved => ?_⟩
      cases moved with
      | ended _ _ =>
          cases reply with
          | ok _ => exact ⟨known, rfl, Set.Subset.rfl, nofun⟩
          | error _ => exact ⟨known, rfl, Set.Subset.rfl, nofun⟩

/-- A failed check ends the program, and what follows may rely on the value found. -/
theorem orThrow {final : β → Set Transaction → Prop} {failure : Failure} {found : Option α}
    {f : α → Service β} (rest : ∀ value, found = some value → Telling place known final (f value)) :
    Telling place known final ((orThrow failure found).bind f) := by
  cases found with
  | none => exact fail failure
  | some value => exact rest value rfl

/-- A check tells nothing. -/
theorem require {final : β → Set Transaction → Prop} {condition : Prop} [Decidable condition]
    {failure : Failure} {f : Unit → Service β} (rest : Telling place known final (f ())) :
    Telling place known final ((require condition failure).bind f) := by
  unfold Payroute.require
  by_cases met : condition
  · rw [if_pos met]
    exact rest
  · rw [if_neg met]
    exact fail failure

/-- Ordinary code inside a transaction publishes nothing. -/
theorem inner {before : Set Transaction} {body : Service α} (inner : Inner body) :
    Telling (.inside before) known (fun _ _ => True) body :=
  quiet (inner.mono fun _ => .inl)

/-- A transaction that opens no payment publishes nothing. -/
theorem booking {isolation : Isolation} {body : Service α} (booking : Booking body) :
    Telling .outside known (fun _ _ => True) (Payroute.transaction isolation body) :=
  transaction (inner booking.inner)

/-- A call outside a transaction that publishes nothing. -/
theorem skip {op : Operation} (free : op.Free)
    (silent : ∀ publication, ¬ op.Publishing publication) :
    Telling .outside known (fun _ _ => True) (Payroute.call op) :=
  (call free fun publication shown => (silent publication shown).elim).mono fun _ _ _ _ => trivial

/-- Such a call whose failure is ignored. -/
theorem hush {op : Operation} (free : op.Free)
    (silent : ∀ publication, ¬ op.Publishing publication) :
    Telling .outside known (fun _ _ => True) (Program.swallow (Payroute.call op)) :=
  swallow (skip free silent)

/-- Taking a lock publishes nothing. -/
theorem acquireLock (key : LockKey) (ttlMs : Nat) :
    Telling .outside known (fun _ _ => True) (acquireLock key ttlMs) :=
  skip trivial fun _ => nofun

/-- Nor does releasing it. -/
theorem releaseLock (key : LockKey) (token : LockToken) :
    Telling .outside known (fun _ _ => True) (releaseLock key token) :=
  hush trivial fun _ => nofun

end Telling

/-! ## Creating a payment -/

namespace PaymentsService

variable {known : Set Transaction}

/-- Dropping cached statistics publishes nothing. -/
theorem telling_invalidatePaymentCaches :
    Telling .outside known (fun _ _ => True) invalidatePaymentCaches :=
  .bind (Telling.hush trivial fun _ => nofun) fun _ _ _ _ => .hush trivial fun _ => nofun

/-- The new payment is known, and its job describes it. -/
def Opened (dto : CreatePaymentDto) (saved : Transaction) (known : Set Transaction) : Prop :=
  ∃ row ∈ known, saved.terms = row.terms ∧
    ∀ idempotencyKey, (providerJob dto idempotencyKey saved).Describes row

/-- What was opened stays known. -/
theorem Opened.mono {dto : CreatePaymentDto} {saved : Transaction} {more : Set Transaction}
    (opened : Opened dto saved known) (kept : known ⊆ more) : Opened dto saved more := by
  obtain ⟨row, member, describes⟩ := opened
  exact ⟨row, kept member, describes⟩

/-- The body of `createPayment` knows the payment it has inserted. -/
theorem telling_reserveFunds (deployment : Deployment) (dto : CreatePaymentDto)
    {before : Set Transaction} :
    Telling (.inside before) known (Opened dto) (reserveFunds deployment dto) := by
  refine .bind (Telling.inner (booking_lockSender _).inner) fun sender _ _ _ => ?_
  refine Telling.require ?_
  refine .bind (Telling.inner (booking_checkRecipient dto).inner) fun _ _ _ _ => ?_
  refine .bind (Telling.inner (booking_checkLimits deployment dto).inner) fun _ _ _ _ => ?_
  refine .bind (Telling.inner (FxService.inner_createQuote _ _ _)) fun quote _ _ _ => ?_
  refine .bind (Telling.draft (.inl trivial)) fun now _ _ _ => Telling.require ?_
  refine .bind (Telling.draft (.inl trivial)) fun saved more _ inserted => ?_
  obtain ⟨member, opens⟩ := inserted
  have opened : ∀ {last : Set Transaction}, more ⊆ last →
      Opened dto { saved with status := .processing } last := fun kept =>
    ⟨saved, kept member, rfl, fun _ => ⟨rfl, opens.sourceAmount, opens.sourceCurrency,
      opens.destinationCurrency, opens.senderAccountId⟩⟩
  refine .bind (Telling.draft (.inl trivial)) fun _ first kept _ => ?_
  refine .bind (Telling.inner (LedgerService.booking_debit _ _ _).inner) fun _ second grown _ => ?_
  refine .bind (Telling.draft (.inl rfl)) fun _ third further _ => ?_
  refine .bind (Telling.draft (.inl trivial)) fun _ last ended _ => ?_
  exact .ret (opened (((kept.trans grown).trans further).trans ended))

/-- Once it is committed, `createPayment` publishes its job, its event and its answer. -/
theorem telling_createPayment (deployment : Deployment) (dto : CreatePaymentDto)
    (idempotencyKey : String) :
    Telling .outside known (fun saved more => (Publication.payment saved).Founded more)
      (createPayment deployment dto idempotencyKey) := by
  have commits : Telling .outside known (Opened dto) (commitPayment deployment dto) := by
    refine .bind (Telling.acquireLock _ _) fun token _ _ _ => Telling.orThrow fun token _ => ?_
    exact .tryFinally (.transaction (telling_reserveFunds deployment dto))
      (fun _ _ _ kept opened => opened.mono kept) fun _ _ => .releaseLock _ _
  refine commits.bind fun saved more _ opened => ?_
  obtain ⟨row, member, terms, describes⟩ := opened
  have submits : Operation.Founded more
      (.queueAdd (providerJob dto idempotencyKey saved) providerJobAttempts none) := by
    intro publication publishing
    cases publishing
    exact ⟨row, member, describes idempotencyKey⟩
  refine .bind (Telling.call trivial submits) fun _ first kept _ => ?_
  refine telling_invalidatePaymentCaches.bind fun _ last grown _ => ?_
  exact .ret ⟨row, grown (kept member), terms⟩

/-! ## Refunds and disputes -/

/-- The payment that was found is committed. -/
theorem telling_findTransaction (id : TransactionId) :
    Telling .outside known (fun row more => row ∈ more ∧ row.id = id) (findTransaction id) := by
  refine .bind (Telling.look ⟨trivial, fun _ => nofun⟩) fun found more _ shown => ?_
  cases found with
  | none => exact .fail _
  | some row => exact .ret shown

/-- The announcement of a refund. -/
theorem founded_refunded {row : Transaction} (member : row ∈ known) (reason : String) :
    Operation.Founded known (.emit (.refunded row.id reason)) := by
  intro publication publishing
  cases publishing
  exact ⟨row, member, rfl⟩

/-- A refund tells of the payment it has found. -/
theorem telling_refundPayment (id : TransactionId) (dto : RefundPaymentDto) :
    Telling .outside known (fun _ _ => True) (refundPayment id dto) := by
  refine (telling_findTransaction id).bind fun row more _ found => ?_
  obtain ⟨member, rfl⟩ := found
  refine Telling.require ?_
  refine .bind (Telling.acquireLock _ _) fun token first kept _ => Telling.orThrow fun token _ => ?_
  refine .bind (Telling.tryFinally (.booking (booking_refundBody _)) (fun _ _ _ _ => id) fun _ _ =>
    .releaseLock _ _) fun _ second grown _ => ?_
  refine .bind (Telling.call trivial (founded_refunded (grown (kept member)) _)) fun _ _ _ _ => ?_
  refine telling_invalidatePaymentCaches.bind fun _ _ _ _ => ?_
  exact .skip trivial fun _ => nofun

/-- A dispute publishes nothing. -/
theorem telling_raiseDispute (id : TransactionId) (dto : DisputePaymentDto) :
    Telling .outside known (fun _ _ => True) (raiseDispute id dto) := by
  refine (telling_findTransaction id).bind fun row _ _ _ => Telling.require ?_
  refine .bind (Telling.booking (booking_raiseBody _ _)) fun _ _ _ _ => ?_
  exact telling_invalidatePaymentCaches.bind fun _ _ _ _ => .skip trivial fun _ => nofun

/-- The resolution of a dispute tells of the payment it has found. -/
theorem telling_resolveDispute (id : TransactionId) (dto : ResolveDisputeDto) :
    Telling .outside known (fun _ _ => True) (resolveDispute id dto) := by
  refine (telling_findTransaction id).bind fun row more _ found => ?_
  obtain ⟨member, rfl⟩ := found
  refine Telling.require ?_
  have branches : Telling .outside more (fun _ _ => True) (resolveBranch row.id dto.action) := by
    cases dto.action with
    | reject => exact .booking (booking_rejectBody _)
    | reverse =>
        refine .bind (Telling.acquireLock _ _) fun token first kept _ =>
          Telling.orThrow fun token _ => ?_
        refine .bind (Telling.tryFinally (.booking (booking_reverseBody _)) (fun _ _ _ _ => id)
          fun _ _ => .releaseLock _ _) fun _ second grown _ => ?_
        exact .mono (Telling.call trivial (founded_refunded (grown (kept member)) _))
          fun _ _ _ _ => trivial
  refine branches.bind fun _ _ _ _ => ?_
  exact telling_invalidatePaymentCaches.bind fun _ _ _ _ => .skip trivial fun _ => nofun

end PaymentsService

/-! ## Workers and schedulers -/

section Workers

variable {known : Set Transaction}

/-- The worker submits and announces the payment on the terms of its job. -/
theorem ProviderProcessor.telling_process {data : ProviderJobData} {row : Transaction}
    (member : row ∈ known) (describes : data.Describes row) :
    Telling .outside known (fun _ _ => True) (process data) := by
  refine .bind (Telling.look ⟨trivial, fun _ => nofun⟩) fun found more kept _ => ?_
  cases found with
  | none => exact .ret trivial
  | some txn =>
      change Telling .outside more _ (if eligible txn then submit data else return ())
      by_cases stands : eligible txn
      · rw [if_pos stands]
        have schedules : ∀ {last : Set Transaction}, known ⊆ last → Operation.Founded last
            (.scheduleCallback data.sourceAmount data.sourceCurrency) := by
          intro last grown publication publishing
          cases publishing
          exact ⟨row, grown member, describes.sourceAmount, describes.sourceCurrency⟩
        have announces : ∀ {last : Set Transaction}, known ⊆ last → Operation.Founded last
            (.emit (.initiated data.transactionId data.senderAccountId data.sourceAmount
              data.sourceCurrency data.destinationCurrency data.idempotencyKey)) := by
          intro last grown publication publishing
          cases publishing
          exact ⟨row, grown member, describes.transactionId, describes.senderAccountId,
            describes.sourceAmount, describes.sourceCurrency, describes.destinationCurrency⟩
        have submits : Telling .outside more (fun _ _ => True)
            (ProviderService.submitPayment data.transactionId data.sourceAmount
              data.sourceCurrency) := by
          refine .bind (Telling.skip trivial fun _ => nofun) fun _ last grown _ => ?_
          exact .mono (Telling.call trivial (schedules (kept.trans grown))) fun _ _ _ _ => trivial
        refine .bind submits fun reference second grown _ => ?_
        refine .bind (Telling.skip trivial fun _ => nofun) fun _ last further _ => ?_
        exact .mono (Telling.call trivial (announces ((kept.trans grown).trans further)))
          fun _ _ _ _ => trivial
      · rw [if_neg stands]
        exact .ret trivial

/-- A worker asks for a callback on the payment its job states. -/
theorem ProviderProcessor.telling_work (id : JobId) :
    Telling .outside known (fun _ _ => True) (work id) := by
  refine .bind (Telling.look ⟨trivial, fun _ => nofun⟩) fun found more _ shown => ?_
  cases found with
  | none => exact .ret trivial
  | some job =>
      obtain ⟨row, member, describes⟩ := shown
      exact telling_process member describes

/-- The dead-letter handler tells of the payment whose job it found. -/
theorem DeadLetterHandler.telling_onProviderJobExhausted (jobId : JobId) (failedReason : String) :
    Telling .outside known (fun _ _ => True) (onProviderJobExhausted jobId failedReason) := by
  refine .bind (Telling.look ⟨trivial, fun _ => nofun⟩) fun found more _ shown => ?_
  cases found with
  | none => exact .ret trivial
  | some job =>
      obtain ⟨row, member, describes⟩ := shown
      change Telling .outside more _ (if job.attemptsMade < job.attempts then return () else
        failPayment job.data.transactionId failedReason)
      by_cases left : job.attemptsMade < job.attempts
      · rw [if_pos left]
        exact .ret trivial
      · rw [if_neg left]
        have announces : ∀ {last : Set Transaction}, more ⊆ last → Operation.Founded last
            (.emit (.failed job.data.transactionId none s!"Dead letter: {failedReason}")) := by
          intro last kept publication publishing
          cases publishing
          exact ⟨row, kept member, describes.transactionId⟩
        exact .swallow (.bind (Telling.booking (booking_exhaustedBody _)) fun _ last kept _ =>
          Telling.call trivial (announces kept))

namespace StuckPaymentScheduler

/-- The job of a retry states the payment it is made from. -/
theorem describes_retryJob (txn : Transaction) : (retryJob txn).Describes txn :=
  ⟨rfl, numericOfText_amountText _, rfl, rfl, rfl⟩

/-- A retry enqueues a job on a payment that was read. -/
theorem telling_enqueue {txn : Transaction} (member : txn ∈ known) :
    Telling .outside known (fun _ _ => True) (enqueue txn) := by
  refine .mono (Telling.call trivial ?_) fun _ _ _ _ => trivial
  intro publication publishing
  cases publishing
  exact ⟨txn, member, describes_retryJob txn⟩

/-- One stuck payment is retried. -/
theorem telling_retry {txn : Transaction} (member : txn ∈ known) :
    Telling .outside known (fun _ _ => True) (retry txn) := by
  refine .bind (Telling.skip trivial fun _ => nofun) fun found first kept _ => ?_
  cases found with
  | none => exact telling_enqueue (kept member)
  | some job =>
      refine .bind (Telling.skip trivial fun _ => nofun) fun current second grown _ => ?_
      by_cases running : current.any (fun job => pending job.state) = true
      · rw [if_pos running]
        exact .ret trivial
      · rw [if_neg running]
        exact .bind (Telling.hush trivial fun _ => nofun) fun _ _ further _ =>
          telling_enqueue (further (grown (kept member)))

/-- So are all that were read. -/
theorem telling_evaluateAll (cutoff : Nat) {stuck : List Transaction}
    (members : ∀ txn ∈ stuck, txn ∈ known) :
    Telling .outside known (fun _ _ => True) (evaluateAll cutoff stuck) := by
  induction stuck generalizing known with
  | nil => exact .ret trivial
  | cons txn rest ih =>
      have evaluates : Telling .outside known (fun _ _ => True) (evaluate cutoff txn) := by
        unfold evaluate
        by_cases old : txn.createdAt / 1000 * 1000 < cutoff
        · rw [if_pos old]
          exact .ret trivial
        · rw [if_neg old]
          exact telling_retry (members txn List.mem_cons_self)
      exact .bind evaluates fun _ more kept _ =>
        ih fun other member => kept (members other (List.mem_cons_of_mem _ member))

/-- The sweep reads the payments it retries. -/
theorem telling_retryStuckPayments :
    Telling .outside known (fun _ _ => True) retryStuckPayments := by
  have finds : Telling .outside known (fun rows more => ∀ row ∈ rows, row ∈ more) findStuck :=
    .bind (Telling.skip trivial fun _ => nofun) fun now _ _ _ =>
      .call trivial fun _ => nofun
  refine .bind finds fun stuck more _ members => ?_
  by_cases none : stuck.length = 0
  · rw [if_pos none]
    exact .ret trivial
  · rw [if_neg none]
    exact .bind (Telling.skip trivial fun _ => nofun) fun now _ kept _ =>
      telling_evaluateAll _ fun row member => kept (members row member)

end StuckPaymentScheduler

end Workers

/-! ## Deliveries -/

namespace WebhooksService

variable {known : Set Transaction}

/-- The payment a delivery was about is known once its transaction is committed. -/
theorem telling_applyEvent (payload : WebhookPayloadDto) (eventId : Nat) :
    Telling .outside known (fun processed more => ∀ row, processed = some row → row ∈ more)
      (applyEvent payload eventId) := by
  have body : Telling (.inside known) known
      (fun processed more => ∀ row, processed = some row → row ∈ more)
      (webhookBody payload eventId) := by
    refine .bind (Telling.draft (.inl trivial)) fun found more _ shown => ?_
    cases found with
    | none =>
        refine .bind (Telling.draft (.inr ⟨_, _, rfl⟩)) fun _ _ _ _ => .ret ?_
        exact fun _ absurd => by cases absurd
    | some row =>
        have applies : Telling (.inside known) more (fun _ _ => True)
            (applyWebhook row payload eventId) := by
          refine Telling.require ?_
          refine .bind (Telling.inner (booking_settle _ _).inner) fun _ _ _ _ => ?_
          refine .bind (Telling.draft (.inl trivial)) fun _ _ _ _ => ?_
          refine .bind (Telling.draft (.inl trivial)) fun _ _ _ _ => ?_
          exact .mono (Telling.draft (.inr ⟨_, _, rfl⟩)) fun _ _ _ _ => trivial
        refine .bind applies fun _ last kept _ => .ret ?_
        intro other same
        cases same
        exact kept shown
  refine .tryCatch (.transaction body) fun error more _ => ?_
  exact .bind (Telling.hush trivial fun _ => nofun) fun _ _ _ _ => .fail error

/-- A delivery announces the payment it has settled. -/
theorem telling_announce {row : Transaction} (payload : WebhookPayloadDto) (member : row ∈ known) :
    Telling .outside known (fun _ _ => True) (announce row payload) := by
  unfold announce
  by_cases completed : payload.status = "completed"
  · rw [if_pos completed]
    refine .mono (Telling.call trivial ?_) fun _ _ _ _ => trivial
    intro publication publishing
    cases publishing
    exact ⟨row, member, rfl, rfl, numericOfText_amountText _, rfl⟩
  · rw [if_neg completed]
    by_cases failed : payload.status = "failed"
    · rw [if_pos failed]
      refine .mono (Telling.call trivial ?_) fun _ _ _ _ => trivial
      intro publication publishing
      cases publishing
      exact ⟨row, member, rfl⟩
    · rw [if_neg failed]
      exact .ret trivial

/-- A delivery publishes nothing before its transaction has committed. -/
theorem telling_processWebhook (deployment : Deployment) (payload : WebhookPayloadDto)
    (rawBody : List UInt8) (signature : String) :
    Telling .outside known (fun _ _ => True)
      (processWebhook deployment payload rawBody signature) := by
  refine .bind (Telling.skip trivial fun _ => nofun) fun inserted more _ _ => ?_
  cases inserted with
  | none => exact .ret trivial
  | some event =>
      change Telling .outside more _ (handleEvent payload _ event.id)
      unfold handleEvent
      split
      · refine .bind (telling_applyEvent payload event.id) fun processed last _ member => ?_
        cases processed with
        | none => exact .ret trivial
        | some row =>
            exact .bind PaymentsService.telling_invalidatePaymentCaches fun _ _ kept _ =>
              telling_announce payload (kept (member row rfl))
      · exact .skip trivial fun _ => nofun

end WebhooksService

/-! ## Listings -/

namespace PaymentsService

variable {known : Set Transaction}

/-- Every payment of the page is a known one. -/
def Shown (result : PaymentsPage) (known : Set Transaction) : Prop :=
  ∀ listed ∈ result.data, (Publication.payment listed.payment).Founded known

/-- A page shows what its query read. -/
theorem telling_queryPage (deployment : Deployment) (dto : ListPaymentsDto) :
    Telling .outside known Shown (queryPage deployment dto) := by
  refine .bind (Telling.look ⟨trivial, fun _ => nofun⟩) fun found more _ seen => ?_
  obtain ⟨data, total⟩ := found
  have shown : ∀ {last : Set Transaction}, more ⊆ last →
      Shown (pageResult dto data total) last := fun kept listed member =>
    ⟨listed.payment, kept (seen listed member), rfl⟩
  have founded : Operation.Founded more (.cacheSet (listCacheKey dto)
      (.page (pageResult dto data total)) listCacheTtlMs) := by
    intro publication publishing
    cases publishing with
    | cached _ shows =>
        cases shows with
        | page member => exact shown Set.Subset.rfl _ member
  change Telling .outside more _ (if Dateless dto then
    (swallow (call (.cacheSet (listCacheKey dto) (.page (pageResult dto data total))
      listCacheTtlMs))).bind fun _ => .ret (pageResult dto data total)
    else .ret (pageResult dto data total))
  by_cases dateless : Dateless dto
  · rw [if_pos dateless]
    exact .bind (Telling.swallow (Telling.call trivial founded)) fun _ _ kept _ => .ret (shown kept)
  · rw [if_neg dateless]
    exact .ret (shown Set.Subset.rfl)

/-- A listing shows committed payments, also where the cache answers. -/
theorem telling_findAll (deployment : Deployment) (dto : ListPaymentsDto) :
    Telling .outside known Shown (findAll deployment dto) := by
  unfold findAll
  by_cases dateless : Dateless dto
  · rw [if_pos dateless]
    refine .bind (Telling.look ⟨trivial, fun _ => nofun⟩) fun cached more _ shows => ?_
    cases cached with
    | none => exact telling_queryPage deployment dto
    | some value =>
        cases value with
        | page result => exact .ret fun listed member => shows _ (.page member)
        | response _ _ | rate _ | stats _ => exact telling_queryPage deployment dto
  · rw [if_neg dateless]
    exact telling_queryPage deployment dto

/-- The statistics state no payment. -/
theorem telling_getStats : Telling .outside known (fun _ _ => True) getStats := by
  have queries : ∀ {more : Set Transaction},
      Telling .outside more (fun _ _ => True) queryStats := by
    intro more
    refine .bind (Telling.skip trivial fun _ => nofun) fun _ _ _ _ => ?_
    refine .bind (Telling.skip trivial fun _ => nofun) fun _ _ _ _ => ?_
    refine .bind (Telling.skip trivial fun _ => nofun) fun _ _ _ _ => ?_
    refine .bind (Telling.hush trivial fun publication publishing => ?_) fun _ _ _ _ => .ret trivial
    cases publishing with
    | cached _ shows => cases shows
  refine .bind (Telling.skip trivial fun _ => nofun) fun cached more _ _ => ?_
  cases cached with
  | none => exact queries
  | some value =>
      cases value with
      | stats result => exact .ret trivial
      | response _ _ | rate _ | page _ => exact queries

end PaymentsService

/-! ## Requests -/

namespace IdempotencyInterceptor

variable {known : Set Transaction} {key : String} {token : LockToken} {response : Response}

/-- The response shows a known payment. -/
def Grounded (response : Response) (known : Set Transaction) : Prop :=
  (Publication.payment response.body).Founded known

/-- A response in the cache is grounded. -/
theorem telling_getResponse (key : String) :
    Telling .outside known (fun found more => ∀ response, found = some response →
      Grounded response more) (getResponse key) := by
  refine .bind (Telling.look ⟨trivial, fun _ => nofun⟩) fun cached more _ shows => ?_
  have absent : ∀ response, (none : Option Response) = some response →
      Grounded response more := fun _ absurd => by cases absurd
  cases cached with
  | none => exact .ret absent
  | some value =>
      cases value with
      | response body statusCode =>
          exact .ret fun _ same => by cases same; exact shows _ (.response key body statusCode)
      | rate _ | page _ | stats _ => exact .ret absent

/-- Only a grounded response is cached. -/
theorem telling_setResponse (grounded : Grounded response known) :
    Telling .outside known (fun _ _ => True) (setResponse key response) := by
  refine .mono (Telling.call trivial ?_) fun _ _ _ _ => trivial
  intro publication publishing
  cases publishing with
  | cached _ shows =>
      cases shows with
      | response _ _ _ => exact grounded

/-- Only a grounded response is recorded under a key. -/
theorem telling_updateKey (grounded : Grounded response known) :
    Telling .outside known (fun _ _ => True)
      (sql (.updateKey key response.body response.statusCode)) := by
  refine .mono (Telling.call trivial ?_) fun _ _ _ _ => trivial
  intro publication publishing
  cases publishing
  exact grounded

/-- A request that waits answers with a response it found. -/
theorem telling_poll (key : String) (remaining : Nat) :
    Telling .outside known Grounded (poll key remaining) := by
  induction remaining generalizing known with
  | zero => exact .fail _
  | succ remaining ih =>
      refine .bind (Telling.skip trivial fun _ => nofun) fun _ _ _ _ => ?_
      refine .bind (telling_getResponse key) fun polled more _ shows => ?_
      cases polled with
      | none => exact ih
      | some response => exact .ret (shows response rfl)

/-- So does one that finds a recorded response. -/
theorem telling_preCheck (key : String) (token : LockToken) :
    Telling .outside known (fun found more => ∀ response, found = some response →
      Grounded response more) (preCheck key token) := by
  have looks : Telling .outside known (fun found more => ∀ response, found = some response →
      Grounded response more) (lookup key token) := by
    refine .bind (Telling.look ⟨trivial, fun _ => nofun⟩) fun row more _ shown => ?_
    have absent : ∀ {last : Set Transaction}, ∀ response, (none : Option Response) =
        some response → Grounded response last := fun _ absurd => by cases absurd
    cases answered : row.bind recorded with
    | none =>
        exact .bind (Telling.skip trivial fun _ => nofun) fun _ _ _ _ =>
          .bind (Telling.skip trivial fun _ => nofun) fun _ _ _ _ => .ret absent
    | some response =>
        obtain ⟨stored, rfl, replied⟩ := Option.bind_eq_some_iff.mp answered
        obtain ⟨body, found, rfl⟩ := Option.map_eq_some_iff.mp replied
        have grounded := shown body found
        refine .bind (Telling.swallow (telling_setResponse grounded)) fun _ first kept _ => ?_
        refine .bind (Telling.releaseLock _ _) fun _ last grown _ => .ret ?_
        intro _ same
        cases same
        exact grounded.mono (kept.trans grown)
  exact .tryCatch looks fun _ _ _ => .ret fun _ absurd => by cases absurd

/-- The response of the handler is recorded in both places. -/
theorem telling_persist (cacheFirst : Bool) (grounded : Grounded response known) :
    Telling .outside known (fun _ _ => True) (persist cacheFirst key token response) := by
  cases cacheFirst with
  | true =>
      refine .bind (Telling.swallow (telling_setResponse grounded)) fun _ _ kept _ => ?_
      exact .bind (Telling.swallow (telling_updateKey (grounded.mono kept))) fun _ _ _ _ =>
        .releaseLock _ _
  | false =>
      refine .bind (Telling.swallow (telling_updateKey grounded)) fun _ _ kept _ => ?_
      exact .bind (Telling.swallow (telling_setResponse (grounded.mono kept))) fun _ _ _ _ =>
        .releaseLock _ _

/-- The answer shows a known payment, and so does what is recorded once it is sent. -/
def Replies (answered : Response × Service Unit) (known : Set Transaction) : Prop :=
  Grounded answered.1 known ∧
    ∀ more, known ⊆ more → Telling .outside more (fun _ _ => True) answered.2

/-- A grounded response that needs no recording is a reply. -/
theorem replies_of_grounded (grounded : Grounded response known) :
    Replies (response, .ret ()) known :=
  ⟨grounded, fun _ _ => .ret trivial⟩

variable {handler : Service Transaction}

/-- The request that runs the handler answers with the committed payment. -/
theorem telling_handle (cacheFirst : Bool) (key : String) (token : LockToken)
    (tells : Telling .outside known (fun saved more => (Publication.payment saved).Founded more)
      handler) : Telling .outside known Replies (handle cacheFirst key token handler) := by
  have handles : Telling .outside known
      (fun saved more => (Publication.payment saved).Founded more)
      (tryCatch handler fun error => do
        releaseLock (.idempotency key) token
        .fail error) :=
    .tryCatch tells fun error _ _ => .bind (Telling.releaseLock _ _) fun _ _ _ _ => .fail error
  refine .bind handles fun saved more _ founded => .ret ⟨founded, fun last kept => ?_⟩
  exact telling_persist cacheFirst (founded.mono kept)

/-- Every request with a key answers with a committed payment. -/
theorem telling_intercept (cacheFirst : Bool) (key : String)
    (tells : ∀ known, Telling .outside known
      (fun saved more => (Publication.payment saved).Founded more) handler) :
    Telling .outside known Replies (intercept cacheFirst key handler) := by
  refine .bind (telling_getResponse key) fun cached first _ shows => ?_
  cases cached with
  | some response => exact .ret (replies_of_grounded (shows response rfl))
  | none =>
      refine .bind (Telling.acquireLock _ _) fun token second _ _ => ?_
      cases token with
      | none =>
          exact .bind (telling_poll key _) fun response _ _ grounded =>
            .ret (replies_of_grounded grounded)
      | some token =>
          refine .bind (telling_preCheck key token) fun found third _ shown => ?_
          cases found with
          | some response => exact .ret (replies_of_grounded (shown response rfl))
          | none => exact telling_handle cacheFirst key token (tells third)

/-- What the client sees is what the handler answered. -/
theorem telling_observed
    (tells : ∀ known, Telling .outside known
      (fun saved more => (Publication.payment saved).Founded more) handler) :
    Telling .outside known (fun saved more => (Publication.payment saved).Founded more)
      (observed handler) := by
  refine .bind (Telling.skip trivial fun _ => nofun) fun _ first _ _ => ?_
  refine .bind (Telling.attempt (tells first)) fun outcome second _ returned => ?_
  cases outcome with
  | ok saved =>
      exact .bind (Telling.skip trivial fun _ => nofun) fun _ last kept _ =>
        .ret ((returned saved rfl).mono kept)
  | error error => exact .bind (Telling.skip trivial fun _ => nofun) fun _ _ _ _ => .fail error

/-- A request answers with a payment that is committed, and records no other. -/
theorem telling_request (cacheFirst : Bool) (key : String)
    (tells : ∀ known, Telling .outside known
      (fun saved more => (Publication.payment saved).Founded more) handler) :
    Telling .outside known (fun _ _ => True) (request cacheFirst key handler) := by
  refine .bind (Telling.attempt (telling_intercept cacheFirst key fun _ => telling_observed tells))
    fun outcome more _ returned => ?_
  cases outcome with
  | error error => exact .skip trivial fun _ => nofun
  | ok answered =>
      obtain ⟨grounded, persists⟩ := returned answered rfl
      refine .bind (Telling.call trivial fun publication publishing => ?_) fun _ last kept _ =>
        persists last kept
      cases publishing
      exact grounded

end IdempotencyInterceptor
end Payroute
