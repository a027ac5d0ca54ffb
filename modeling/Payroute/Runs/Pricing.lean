import Payroute.Effects.Protocol
import Payroute.Runs.Calls
import Payroute.Runs.Concurrent

/-! # Prices

Whatever runs at the same time, every payment is stored with the rate of its two
currencies and with the source amount converted at that rate. The creation of a payment
follows a protocol whose replies quote the listed rates; nothing else prices a payment.
-/

namespace Payroute

open EffectSystem KeyedTable Program

/-- The rate of a pair of currencies `getRate` supports. -/
def FxService.rateOf (fromCurrency toCurrency : String) : Option Nat :=
  if fromCurrency = toCurrency then some (10 ^ scale) else simulatedRates fromCurrency toCurrency

/-- The payment is stored with the rate of its currencies and the amount it converts to. -/
structure Transaction.Converted (row : Transaction) : Prop where
  rate : FxService.rateOf row.sourceCurrency row.destinationCurrency = some row.fxRate
  amount : row.destinationAmount = FxService.convert row.sourceAmount row.fxRate
  fits : Fits row.destinationAmount

/-- Every payment in the tables is converted. -/
def Database.Converted (db : Database) : Prop := ∀ row ∈ db.transactions.rows, row.Converted

/-- A payment that is written is converted. -/
def Write.Converted : Write → Prop
  | .transaction row => row.Converted
  | _ => True

/-- A payment that is inserted is converted. -/
structure TransactionDraft.Converted (draft : TransactionDraft) : Prop where
  rate : FxService.rateOf draft.sourceCurrency draft.destinationCurrency = some draft.fxRate
  amount : ∀ amount, numericOfText draft.sourceAmount = some amount →
    draft.destinationAmount = FxService.convert amount draft.fxRate

/-- The rates in the cache are the listed ones, and no payment is stored or about to be
stored at another price. -/
structure World.Priced (world : World) : Prop where
  rates : ∀ source destination units,
    world.cache (.rate source destination) = some (.rate units) →
    FxService.simulatedRates source destination = some units
  db : world.db.Converted
  sessions : ∀ who session, world.sessions who = some session →
    session.snapshot.Converted ∧ ∀ version ∈ session.log, version.Converted

/-! ## Tables -/

section Tables

variable {db : Database} {version : Write}

/-- Updates keep the conversion of a payment. -/
theorem Transaction.Converted.patched {row : Transaction} (converted : row.Converted)
    (patch : TransactionPatch) : (patch.apply row).Converted :=
  ⟨converted.rate, converted.amount, converted.fits⟩

/-- A converted row version keeps all payments converted. -/
theorem Database.Converted.write (converted : db.Converted) (fits : version.Converted) :
    (db.write version).Converted := by
  intro row member
  cases version with
  | transaction written =>
      rcases (Table.mem_put_iff db.transactions written row).mp member with rfl | ⟨old, _⟩
      · exact fits
      · exact converted row old
  | _ => exact converted row member

/-- So do those of a whole log. -/
theorem Database.Converted.replay {log : List Write} (converted : db.Converted)
    (fits : ∀ version ∈ log, version.Converted) : (db.replay log).Converted := by
  induction log generalizing db with
  | nil => exact converted
  | cons version rest ih =>
      exact ih (converted.write (fits version List.mem_cons_self)) fun later member =>
        fits later (List.mem_cons_of_mem _ member)

end Tables

/-! ## Calls -/

namespace Operation

/-- The call prices no payment otherwise than at the listed rate. -/
def Priced : Operation → Prop
  | .sql (.insertTransaction draft) => draft.Converted
  | .cacheSet (.rate source destination) value _ =>
      ∃ rate, value = .rate rate ∧ FxService.simulatedRates source destination = some rate
  | _ => True

/-- The reply quotes a listed rate, or the terms of a quote as they were given. -/
def Quotes : (op : Operation) → Except Failure op.Reply → Prop
  | .cacheGet (.rate source destination), .ok (some (.rate units)) =>
      FxService.simulatedRates source destination = some units
  | .sql (.insertQuote draft), .ok quote =>
      quote.rate = draft.rate ∧ quote.destinationAmount = draft.destinationAmount
  | _, _ => True

/-- A call that failed quotes nothing. -/
theorem quotes_error (op : Operation) (error : Failure) : op.Quotes (.error error) := by
  cases op with
  | sql statement => cases statement <;> trivial
  | cacheGet key => cases key <;> trivial
  | _ => trivial

/-- A booking call changes no prices. -/
theorem Booking.priced {op : Operation} (booking : op.Booking) : op.Priced := by
  cases op with
  | sql statement =>
      cases statement with
      | insertTransaction _ => exact booking.elim
      | _ => trivial
  | cacheSet _ _ _ => exact booking.elim
  | _ => trivial

/-- Nor does the handling of a delivery. -/
theorem Delivering.priced {op : Operation} (delivering : op.Delivering) : op.Priced := by
  cases op with
  | sql statement =>
      cases statement with
      | insertTransaction _ => exact delivering.elim
      | _ => trivial
  | cacheSet _ _ _ => exact delivering.elim
  | _ => trivial

/-- Nor does a sweep. -/
theorem Sweeping.priced {op : Operation} (sweeping : op.Sweeping) : op.Priced := by
  cases op with
  | sql statement =>
      cases statement with
      | insertTransaction _ => exact sweeping.elim
      | _ => trivial
  | cacheSet _ _ _ => exact sweeping.elim
  | _ => trivial

end Operation

namespace World

variable {world : World} {who : ProcessId}

/-- What a process sees is converted. -/
theorem Priced.view (priced : world.Priced) (who : ProcessId) : (world.view who).Converted := by
  unfold World.view World.base World.log
  cases opened : world.sessions who with
  | none => exact priced.db
  | some session =>
      obtain ⟨snapshot, log⟩ := priced.sessions who session opened
      obtain ⟨isolation, before, startedAt, writes⟩ := session
      cases isolation with
      | readCommitted => exact priced.db.replay log
      | serializable => exact snapshot.replay log

/-- What a statement writes into the payments. -/
theorem Priced.written (priced : world.Priced) {statement : Statement}
    (listed : (Operation.sql statement).Priced) {outcome : Outcome statement.Reply}
    (done : statement.eval (world.view who) (world.session who) = .ok outcome) :
    ∀ version, outcome.writes = some version → version.Converted := by
  intro version written
  have writes := Statement.written_of_eval done written
  generalize outcome.locks = locks, outcome.draws = draws at writes
  cases writes with
  | patch patch found =>
      exact (priced.view who _ (Table.mem_of_get? found)).patched patch
  | payment draft read fits => exact ⟨listed.rate, listed.amount _ read, fits.2⟩
  | _ => trivial

/-- A step that leaves the cached rates and the tables alone. -/
theorem Priced.keep (priced : world.Priced) {next : World}
    (rates : ∀ source destination, next.cache (.rate source destination) =
      world.cache (.rate source destination) ∨ next.cache (.rate source destination) = none)
    (db : next.db.Converted)
    (sessions : ∀ who session, next.sessions who = some session →
      session.snapshot.Converted ∧ ∀ version ∈ session.log, version.Converted) :
    next.Priced := by
  refine ⟨fun source destination units cached => ?_, db, sessions⟩
  rcases rates source destination with same | absent
  · rw [same] at cached
    exact priced.rates source destination units cached
  · rw [absent] at cached
    cases cached

/-- A statement that writes converted rows keeps the world priced. -/
theorem Priced.apply (priced : world.Priced) {ρ : Type} {outcome : Outcome ρ}
    (fits : ∀ version, outcome.writes = some version → version.Converted) :
    (world.apply who outcome).Priced := by
  cases opened : world.sessions who with
  | none =>
      rw [apply_closed outcome opened]
      refine priced.keep (fun _ _ => .inl rfl) ?_ priced.sessions
      cases written : outcome.writes with
      | none => exact priced.db
      | some version => exact priced.db.write (fits version written)
  | some session =>
      rw [apply_open outcome opened]
      refine priced.keep (fun _ _ => .inl rfl) priced.db fun other later current => ?_
      cases written : outcome.writes with
      | none =>
          simp only [written] at current
          exact priced.sessions other later current
      | some version =>
          simp only [written] at current
          by_cases own : other = who
          · subst own
            rw [Function.update_self] at current
            cases current
            obtain ⟨snapshot, log⟩ := priced.sessions other session opened
            refine ⟨snapshot, fun earlier member => ?_⟩
            rcases List.mem_append.mp member with old | new
            · exact log earlier old
            · rw [List.mem_singleton.mp new]
              exact fits version written
          · rw [Function.update_of_ne own] at current
            exact priced.sessions other later current

/-- The sessions after one process began or ended its transaction. -/
theorem Priced.sessions_update (priced : world.Priced) {session : Option OpenTransaction}
    (fits : ∀ opened, session = some opened →
      opened.snapshot.Converted ∧ ∀ version ∈ opened.log, version.Converted) :
    ∀ other later, Function.update world.sessions who session other = some later →
      later.snapshot.Converted ∧ ∀ version ∈ later.log, version.Converted := by
  intro other later current
  by_cases own : other = who
  · subst own
    rw [Function.update_self] at current
    exact fits later current
  · rw [Function.update_of_ne own] at current
    exact priced.sessions other later current

/-- So does the end of a transaction. -/
theorem Priced.release (priced : world.Priced) : (world.release who).Priced :=
  priced.keep (fun _ _ => .inl rfl) priced.db
    (priced.sessions_update fun _ absurd => by cases absurd)

/-- So does every listed call. -/
theorem Priced.perform (priced : world.Priced) {op : Operation} (listed : op.Priced) :
    (world.perform who op).2.Priced := by
  cases op with
  | begin isolation =>
      refine priced.keep (fun _ _ => .inl rfl) priced.db (priced.sessions_update ?_)
      intro opened same
      cases same
      exact ⟨priced.db, fun _ member => (List.not_mem_nil member).elim⟩
  | commit =>
      refine priced.keep (fun _ _ => .inl rfl) ?_
        (priced.sessions_update fun _ absurd => by cases absurd)
      refine priced.db.replay ?_
      unfold log
      cases opened : world.sessions who with
      | none => exact fun _ member => (List.not_mem_nil member).elim
      | some session => exact (priced.sessions who session opened).2
  | rollback => exact priced.release
  | sql statement =>
      change (world.execute who statement).2.Priced
      rcases execute_cases world who statement with ⟨error, refused⟩ | ⟨outcome, done, _, ran⟩
      · rw [refused]
        exact priced
      · rw [ran]
        exact priced.apply (priced.written listed done)
  | acquireLock key ttlMs =>
      change (world.acquireLock key ttlMs).2.Priced
      unfold acquireLock
      cases world.redisLocks key with
      | none => exact priced.keep (fun _ _ => .inl rfl) priced.db priced.sessions
      | some _ => exact priced.keep (fun _ _ => .inl rfl) priced.db priced.sessions
  | releaseLock key token =>
      change (world.releaseLock key token).Priced
      unfold releaseLock
      split
      · exact priced.keep (fun _ _ => .inl rfl) priced.db priced.sessions
      · exact priced
  | queueAdd data attempts jobId =>
      change (world.queueAdd data attempts jobId).Priced
      unfold queueAdd
      simp only
      split
      · exact priced
      · exact priced.keep (fun _ _ => .inl rfl) priced.db priced.sessions
  | cacheSet key value ttlMs =>
      refine ⟨fun source destination units cached => ?_, priced.db, priced.sessions⟩
      change Function.update world.cache key (some value) (.rate source destination) = _ at cached
      by_cases same : CacheKey.rate source destination = key
      · subst same
        obtain ⟨rate, rfl, listed⟩ := listed
        rw [Function.update_self] at cached
        cases cached
        exact listed
      · rw [Function.update_of_ne same] at cached
        exact priced.rates source destination units cached
  | cacheDelete key =>
      refine priced.keep (fun source destination => ?_) priced.db priced.sessions
      change Function.update world.cache key none (.rate source destination) = _ ∨
        Function.update world.cache key none (.rate source destination) = _
      by_cases same : CacheKey.rate source destination = key
      · subst same
        exact .inr (Function.update_self _ _ _)
      · exact .inl (Function.update_of_ne same _ _)
  | cacheDeleteLists => exact priced.keep (fun _ _ => .inl rfl) priced.db priced.sessions
  | _ => exact priced.keep (fun _ _ => .inl rfl) priced.db priced.sessions

/-- The replies of a world whose prices are right. -/
theorem Priced.quotes (priced : world.Priced) (op : Operation) :
    op.Quotes (world.perform who op).1 := by
  cases op with
  | sql statement =>
      cases statement with
      | insertQuote draft =>
          change Operation.Quotes (.sql (.insertQuote draft))
            (world.execute who (.insertQuote draft)).1
          rcases execute_cases world who (.insertQuote draft) with
            ⟨error, refused⟩ | ⟨outcome, done, _, ran⟩
          · rw [refused]
            exact Operation.quotes_error _ error
          · rw [ran]
            simp only [Statement.eval, Payroute.insertQuote] at done
            repeat' split at done
            all_goals cases done
            exact ⟨rfl, rfl⟩
      | _ => trivial
  | cacheGet key =>
      cases key with
      | rate source destination =>
          change Operation.Quotes (.cacheGet (.rate source destination))
            (.ok (world.cache (.rate source destination)))
          cases cached : world.cache (.rate source destination) with
          | none => trivial
          | some value =>
              cases value with
              | rate units => exact priced.rates source destination units cached
              | _ => trivial
      | _ => trivial
  | _ => trivial

/-- Also one that is lost or not acknowledged; what it returns is quoted. -/
theorem Priced.exec (priced : world.Priced) (who : ProcessId) (delivery : Delivery)
    {op : Operation} (listed : op.Priced) :
    op.Quotes (World.exec who delivery op world).1 ∧
      (World.exec who delivery op world).2.Priced := by
  rcases exec_cases who delivery op world with ran | ⟨failed, unchanged | ran⟩
  · rw [ran]
    exact ⟨priced.quotes op, priced.perform listed⟩
  · rw [failed, unchanged]
    exact ⟨Operation.quotes_error op _, priced⟩
  · rw [failed, ran]
    exact ⟨Operation.quotes_error op _, priced.perform listed⟩

end World

/-! ## Programs -/

/-- Calls that price payments as listed, with replies that quote the listed rates. -/
def pricing : Protocol Failure Operation.Reply Unit := fun _ op reply _ =>
  op.Priced ∧ op.Quotes reply

/-- The protocol allows the listed calls. -/
theorem pricing_allows {op : Operation} (priced : op.Priced) : pricing.Allows () op :=
  ⟨.error .unavailable, (), priced, op.quotes_error _⟩

section Programs

variable {α : Type}

/-- Programs that price no payment. -/
theorem follows_of_priced {body : Service α} (only : body.OnlyCalls Operation.Priced) :
    Follows pricing (fun _ _ => True) body () :=
  (Follows.of_onlyCalls only (fun _ => pricing_allows) fun _ _ _ _ _ => rfl).mono
    fun _ _ _ => trivial

/-- Booking code follows it. -/
theorem follows_of_booking {body : Service α} (booking : Booking body) :
    Follows pricing (fun _ _ => True) body () :=
  follows_of_priced (booking.mono fun _ => Operation.Booking.priced)

/-- So does code that opens no payment. -/
theorem follows_of_serving {body : Service α} (serving : Serving body) :
    Follows pricing (fun _ _ => True) body () :=
  follows_of_priced (serving.mono fun _ serving => serving.delivering.priced)

/-- So does a single listed call. -/
theorem follows_call {op : Operation} (priced : op.Priced) :
    Follows pricing (fun reply _ => op.Quotes reply) (call op) () :=
  .perform (pricing_allows priced) fun _ _ moved => moved.2

/-- A database transaction whose body follows the protocol. -/
theorem follows_transaction {isolation : Isolation} {body : Service α}
    (follows : Follows pricing (fun _ _ => True) body ()) :
    Follows pricing (fun _ _ => True) (transaction isolation body) () := by
  have attempted : Follows pricing (fun _ _ => True) (do
      call (.begin isolation)
      let value ← body
      call .commit
      return value) () := by
    refine .bind (follows_call trivial) (fun _ _ _ => ?_) fun _ _ _ => trivial
    refine follows.bind (fun value _ _ => ?_) fun _ _ _ => trivial
    exact .bind (follows_call trivial) (fun _ _ _ => trivial) fun _ _ _ => trivial
  refine attempted.tryCatch (fun _ _ _ => trivial) fun error _ _ => ?_
  exact .bind (follows_call trivial) (fun _ _ _ => trivial) fun _ _ _ => trivial

namespace FxService

/-- The rate is that of the pair. -/
theorem follows_getRate (fromCurrency toCurrency : String) :
    Follows pricing
      (fun outcome _ => ∀ rate, outcome = .ok rate → rateOf fromCurrency toCurrency = some rate)
      (getRate fromCurrency toCurrency) () := by
  unfold getRate rateOf
  by_cases same : fromCurrency = toCurrency
  · rw [if_pos same, if_pos same]
    rintro rate returned
    cases returned
    rfl
  · rw [if_neg same, if_neg same]
    have loads : Follows pricing (fun outcome _ => ∀ rate, outcome = .ok rate →
        simulatedRates fromCurrency toCurrency = some rate) (do
          let rate ← orThrow
            (.badRequest s!"Unsupported currency pair: {fromCurrency} → {toCurrency}")
            (simulatedRates fromCurrency toCurrency)
          call (.cacheSet (.rate fromCurrency toCurrency) (.rate rate) rateCacheTtlMs)
          return rate) () := by
      cases listed : simulatedRates fromCurrency toCurrency with
      | none =>
          intro rate absurd
          cases absurd
      | some found =>
          have priced : Operation.Priced (.cacheSet (.rate fromCurrency toCurrency) (.rate found)
              rateCacheTtlMs) := ⟨found, rfl, listed⟩
          change Follows pricing _ ((call (.cacheSet (.rate fromCurrency toCurrency) (.rate found)
            rateCacheTtlMs)).bind fun _ => .ret found) ()
          refine .bind (follows_call priced) ?_ ?_
          · intro _ _ _ rate returned
            cases returned
            rfl
          · intro error _ _ rate absurd
            cases absurd
    refine .bind (follows_call trivial) (fun cached _ quoted => ?_) ?_
    · cases cached with
      | none => exact loads
      | some value =>
          cases value with
          | rate units =>
              intro rate returned
              cases returned
              exact quoted
          | response _ _ | page _ | stats _ => exact loads
    · intro error _ _ rate absurd
      cases absurd

/-- The quote is at the rate of its pair and states what the amount converts to. -/
theorem follows_createQuote (fromCurrency toCurrency : String) (sourceAmount : Text) :
    Follows pricing
      (fun outcome _ => ∀ quote, outcome = .ok quote →
        rateOf fromCurrency toCurrency = some quote.rate ∧
          quote.destinationAmount = convert (parseAmount sourceAmount) quote.rate)
      (createQuote fromCurrency toCurrency sourceAmount) () := by
  have fails : ∀ error : Failure, ∀ quote : FxQuote, Except.error error = .ok quote →
      rateOf fromCurrency toCurrency = some quote.rate ∧
        quote.destinationAmount = convert (parseAmount sourceAmount) quote.rate := by
    intro error quote absurd
    cases absurd
  refine (follows_getRate fromCurrency toCurrency).bind (fun rate _ listed => ?_)
    fun error _ _ => fails error
  refine .bind (follows_call trivial) (fun now _ _ => ?_) fun error _ _ => fails error
  refine .mono (follows_call trivial) fun outcome _ quoted quote returned => ?_
  subst returned
  obtain ⟨same, amount⟩ := quoted
  rw [same, amount]
  exact ⟨listed rate rfl, rfl⟩

end FxService

namespace PaymentsService

/-- The body of `createPayment` inserts a converted payment. -/
theorem follows_reserveFunds (deployment : Deployment) (dto : CreatePaymentDto) :
    Follows pricing (fun _ _ => True) (reserveFunds deployment dto) () := by
  have ends : ∀ (error : Failure) (phase : Unit), True → True := fun _ _ _ => trivial
  refine (follows_of_booking (booking_lockSender _)).bind (fun sender _ _ => ?_) ends
  refine (follows_of_booking (onlyCalls_require _ _)).bind (fun _ _ _ => ?_) ends
  refine (follows_of_booking (booking_checkRecipient dto)).bind (fun _ _ _ => ?_) ends
  refine (follows_of_booking (booking_checkLimits deployment dto)).bind (fun _ _ _ => ?_) ends
  refine (FxService.follows_createQuote _ _ _).bind (fun quote _ quoted => ?_) fun _ _ _ => trivial
  obtain ⟨rate, converted⟩ := quoted quote rfl
  refine .bind (follows_call trivial) (fun now _ _ => ?_) fun _ _ _ => trivial
  refine (follows_of_booking (onlyCalls_require _ _)).bind (fun _ _ _ => ?_) ends
  have draft : TransactionDraft.Converted
      { senderAccountId := dto.senderAccountId
        recipientAccountId := dto.recipientAccountId
        sourceCurrency := dto.sourceCurrency
        destinationCurrency := dto.destinationCurrency
        sourceAmount := numberText dto.amount
        destinationAmount := quote.destinationAmount
        fxRate := quote.rate
        fxQuoteId := quote.id
        status := .initiated } := by
    refine ⟨rate, fun amount readable => ?_⟩
    have parsed : FxService.parseAmount (numberText dto.amount) = amount := by
      unfold FxService.parseAmount
      rw [readable]
      rfl
    rw [← parsed]
    exact converted
  refine .bind (follows_call draft) (fun saved _ _ => ?_) fun _ _ _ => trivial
  refine .bind (follows_call trivial) (fun _ _ _ => ?_) fun _ _ _ => trivial
  refine (follows_of_booking (LedgerService.booking_debit _ _ _)).bind (fun _ _ _ => ?_) ends
  refine .bind (follows_call trivial) (fun _ _ _ => ?_) fun _ _ _ => trivial
  exact .bind (follows_call trivial) (fun _ _ _ => trivial) fun _ _ _ => trivial

/-- So does the whole operation. -/
theorem follows_createPayment (deployment : Deployment) (dto : CreatePaymentDto)
    (idempotencyKey : String) :
    Follows pricing (fun _ _ => True) (createPayment deployment dto idempotencyKey) () := by
  have ends : ∀ (error : Failure) (phase : Unit), True → True := fun _ _ _ => trivial
  have commits : Follows pricing (fun _ _ => True) (commitPayment deployment dto) () := by
    refine .bind (follows_call trivial) (fun token _ _ => ?_) fun _ _ _ => trivial
    refine (follows_of_booking (onlyCalls_orThrow _ _)).bind (fun token _ _ => ?_) ends
    refine (follows_transaction (follows_reserveFunds deployment dto)).tryFinally
      fun outcome _ _ => ?_
    exact .swallow (follows_call trivial) fun _ _ _ => ⟨rfl, trivial⟩
  refine commits.bind (fun saved _ _ => ?_) ends
  refine .bind (follows_call trivial) (fun _ _ _ => ?_) fun _ _ _ => trivial
  exact (follows_of_serving serving_invalidatePaymentCaches).bind (fun _ _ _ => trivial) ends

end PaymentsService

/-- Every operation prices payments as listed. -/
theorem Command.follows_pricing (deployment : Deployment) (command : Command) :
    Follows pricing (fun _ _ => True) (command.program deployment) () := by
  cases command with
  | createPayment dto idempotencyKey =>
      exact (PaymentsService.follows_createPayment deployment dto idempotencyKey).bind
        (fun _ _ _ => trivial) fun _ _ _ => trivial
  | process data =>
      exact follows_of_priced (ProviderProcessor.onlyCalls_process data (fun _ => trivial)
        (fun _ => trivial) (fun _ _ => trivial) (fun _ _ => trivial) fun _ => trivial)
  | processWebhook payload rawBody signature =>
      exact follows_of_priced ((WebhooksService.delivering_processWebhook deployment payload
        rawBody signature).mono fun _ => Operation.Delivering.priced)
  | onProviderJobExhausted jobId failedReason =>
      exact follows_of_serving (DeadLetterHandler.serving_onProviderJobExhausted _ _)
  | refundPayment id dto =>
      exact follows_of_serving
        (.bind (PaymentsService.serving_refundPayment id dto) fun _ => trivial)
  | raiseDispute id dto =>
      exact follows_of_serving
        (.bind (PaymentsService.serving_raiseDispute id dto) fun _ => trivial)
  | resolveDispute id dto =>
      exact follows_of_serving
        (.bind (PaymentsService.serving_resolveDispute id dto) fun _ => trivial)
  | retryStuckPayments =>
      exact follows_of_priced (StuckPaymentScheduler.sweeping_retryStuckPayments.mono
        fun _ => Operation.Sweeping.priced)
  | cleanupExpiredIdempotencyKeys =>
      exact follows_of_priced (.bind (onlyCalls_perform trivial) fun _ => onlyCalls_perform trivial)
  | cleanupOldProcessedWebhookEvents =>
      exact follows_of_priced (.bind (onlyCalls_perform trivial) fun _ => onlyCalls_perform trivial)

end Programs

/-- The prices stay right whatever the operations do. -/
theorem governs_pricing (deployment : Deployment) (admitted : Command → Prop) :
    Governs backend (surroundings (Command.Starts deployment admitted)) pricing ()
      (fun _ world => world.Priced) where
  start := by
    rintro who body ⟨command, _, rfl⟩
    exact (command.follows_pricing deployment).mono fun _ _ _ => rfl
  call := by
    intro phases world who delivery op priced allowed _
    obtain ⟨_, _, listed, _⟩ := allowed
    obtain ⟨quotes, kept⟩ := priced.exec who delivery listed
    exact ⟨(), ⟨listed, quotes⟩, kept⟩
  crash := fun _ _ _ priced => priced.release
  drift := by
    intro _ world next priced elapses
    refine priced.keep (fun source destination => elapses.cache _) ?_ ?_
    · rw [elapses.db]
      exact priced.db
    · rw [elapses.sessions]
      exact priced.sessions

end Payroute
