import Payroute.Runs.Pricing
import Payroute.Runs.References
import Payroute.Runs.Steady

/-! # Quotes

A payment is stored at the price of a quote that its own database transaction has
stored before, so that the two are committed together. The quote had not expired when
the payment was made.
-/

namespace Payroute

open EffectSystem KeyedTable Program

/-- The payment has the terms of the quote and was made while it was valid. -/
structure FxQuote.Prices (quote : FxQuote) (row : Transaction) : Prop where
  named : row.fxQuoteId = quote.id
  source : row.sourceCurrency = quote.fromCurrency
  destination : row.destinationCurrency = quote.toCurrency
  rate : row.fxRate = quote.rate
  amount : row.sourceAmount = quote.sourceAmount
  converted : row.destinationAmount = quote.destinationAmount
  made : row.createdAt = quote.createdAt
  valid : row.createdAt < quote.expiresAt

theorem FxQuote.Prices.patched {quote : FxQuote} {row : Transaction} (prices : quote.Prices row)
    (patch : TransactionPatch) : quote.Prices (patch.apply row) :=
  ⟨prices.named, prices.source, prices.destination, prices.rate, prices.amount, prices.converted,
    prices.made, prices.valid⟩

/-- One of the quotes prices the payment. -/
def Transaction.QuotedIn (row : Transaction) (quotes : FxQuote → Prop) : Prop :=
  ∃ quote, quotes quote ∧ quote.Prices row

theorem Transaction.QuotedIn.mono {row : Transaction} {quotes more : FxQuote → Prop}
    (quoted : row.QuotedIn quotes) (subset : ∀ quote, quotes quote → more quote) :
    row.QuotedIn more := by
  obtain ⟨quote, member, prices⟩ := quoted
  exact ⟨quote, subset quote member, prices⟩

/-- Every payment in the tables has its quote there. -/
def Database.Quoted (db : Database) : Prop :=
  ∀ row ∈ db.transactions.rows, row.QuotedIn (· ∈ db.fxQuotes)

/-- What a transaction has read and written has quotes that are committed or its own. -/
structure OpenTransaction.Quoted (session : OpenTransaction) (quotes : List FxQuote) : Prop where
  snapshot : ∀ row ∈ session.snapshot.transactions.rows, row.QuotedIn (· ∈ quotes)
  log : ∀ row, Write.transaction row ∈ session.log →
    row.QuotedIn fun quote => quote ∈ quotes ∨ Write.quote quote ∈ session.log

theorem OpenTransaction.Quoted.mono {session : OpenTransaction} {quotes more : List FxQuote}
    (quoted : session.Quoted quotes) (subset : ∀ quote ∈ quotes, quote ∈ more) :
    session.Quoted more :=
  ⟨fun row member => (quoted.snapshot row member).mono subset, fun row member =>
    (quoted.log row member).mono fun quote => Or.imp_left (subset quote)⟩

/-- No payment is stored or about to be stored without its quote. -/
structure World.Quoted (world : World) : Prop where
  db : world.db.Quoted
  sessions : ∀ who session, world.sessions who = some session →
    session.Quoted world.db.fxQuotes

/-! ## Tables -/

section Tables

variable {db : Database} {log : List Write}

/-- The rows of replayed tables were there or are in the log. -/
theorem Database.mem_transactions_replay {row : Transaction}
    (member : row ∈ (db.replay log).transactions.rows) :
    row ∈ db.transactions.rows ∨ Write.transaction row ∈ log := by
  induction log generalizing db with
  | nil => exact .inl member
  | cons version rest ih =>
      have replayed : row ∈ ((db.write version).replay rest).transactions.rows := member
      rcases ih replayed with old | new
      · cases version with
        | transaction written =>
            rcases (Table.mem_put_iff db.transactions written row).mp old with rfl | ⟨before, _⟩
            · exact .inr List.mem_cons_self
            · exact .inl before
        | _ => exact .inl old
      · exact .inr (List.mem_cons_of_mem _ new)

theorem Database.mem_fxQuotes_replay {quote : FxQuote}
    (member : quote ∈ db.fxQuotes ∨ Write.quote quote ∈ log) :
    quote ∈ (db.replay log).fxQuotes := by
  induction log generalizing db with
  | nil => exact member.elim id fun absurd => by cases absurd
  | cons version rest ih =>
      have written : quote ∈ (db.write version).fxQuotes ∨ Write.quote quote ∈ rest := by
        rcases member with old | new
        · cases version with
          | quote row => exact .inl (List.mem_append.mpr (.inl old))
          | _ => exact .inl old
        · rcases List.mem_cons.mp new with rfl | later
          · exact .inl (List.mem_append.mpr (.inr List.mem_cons_self))
          · exact .inr later
      exact ih written

end Tables

/-! ## Calls -/

/-- Where a process stands with the quote of the payment it is about to store. -/
inductive QuotePhase where
  | outside
  /-- In a database transaction. -/
  | begun
  /-- In a database transaction that has stored the quote. -/
  | quoted (quote : FxQuote)

/-- The draft takes its price from the quote. -/
structure TransactionDraft.PricedBy (draft : TransactionDraft) (quote : FxQuote) : Prop where
  named : draft.fxQuoteId = quote.id
  source : draft.sourceCurrency = quote.fromCurrency
  destination : draft.destinationCurrency = quote.toCurrency
  rate : draft.fxRate = quote.rate
  amount : numericOfText draft.sourceAmount = some quote.sourceAmount
  converted : draft.destinationAmount = quote.destinationAmount

/-- The quote has the terms of the draft. -/
structure QuoteDraft.Yields (draft : QuoteDraft) (quote : FxQuote) : Prop where
  source : quote.fromCurrency = draft.fromCurrency
  destination : quote.toCurrency = draft.toCurrency
  rate : quote.rate = draft.rate
  amount : numericOfText draft.sourceAmount = some quote.sourceAmount
  converted : quote.destinationAmount = draft.destinationAmount

namespace Operation

/-- The call stores a payment only at the price of the quote, and a quote only in a
database transaction. -/
def Offers (phase : QuotePhase) : Operation → Prop
  | .sql (.insertTransaction draft) => ∃ quote, phase = .quoted quote ∧ draft.PricedBy quote
  | .sql (.insertQuote _) => phase ≠ .outside
  | _ => True

/-- The quote in a reply has the terms that were asked for. -/
def Renders : (op : Operation) → Except Failure op.Reply → Prop
  | .sql (.insertQuote draft), .ok quote => draft.Yields quote
  | _, _ => True

/-- Where a call and its reply take a process. -/
def quotePhase (phase : QuotePhase) : (op : Operation) → Except Failure op.Reply → QuotePhase
  | .begin _, .ok _ => .begun
  | .begin _, .error _ => .outside
  | .commit, _ => .outside
  | .rollback, _ => .outside
  | .sql (.insertQuote _), .ok quote => .quoted quote
  | _, _ => phase

/-- The call stores neither a payment nor a quote. -/
def Priceless : Operation → Prop
  | .sql (.insertTransaction _) => False
  | .sql (.insertQuote _) => False
  | _ => True

/-- The call neither begins nor ends a database transaction. -/
def Continues : Operation → Prop
  | .begin _ | .commit | .rollback => False
  | _ => True

end Operation

/-- Programs that store payments at the price of their quotes. -/
def quoting : Protocol Failure Operation.Reply QuotePhase := fun phase op reply later =>
  op.Offers phase ∧ op.Renders reply ∧ later = op.quotePhase phase reply

/-- What the phase of a process stands for. -/
def QuotePhase.Fits (who : ProcessId) (phase : QuotePhase) (world : World) : Prop :=
  match phase with
  | .outside => True
  | .begun => ∃ session, world.sessions who = some session
  | .quoted quote => ∃ session, world.sessions who = some session ∧
      Write.quote quote ∈ session.log ∧ quote.createdAt = session.startedAt ∧
      quote.createdAt < quote.expiresAt

/-- What a phase stands for speaks of the transaction of its own process. -/
theorem QuotePhase.Fits.keep {who : ProcessId} {phase : QuotePhase} {world next : World}
    (fits : phase.Fits who world) (same : next.sessions who = world.sessions who) :
    phase.Fits who next := by
  cases phase with
  | outside => trivial
  | begun =>
      obtain ⟨session, opened⟩ := fits
      exact ⟨session, same.trans opened⟩
  | quoted quote =>
      obtain ⟨session, opened, logged⟩ := fits
      exact ⟨session, same.trans opened, logged⟩

theorem Operation.renders_error (op : Operation) (error : Failure) :
    op.Renders (.error error) := by
  cases op with
  | sql statement => cases statement <;> trivial
  | _ => trivial

theorem quoting_allows {phase : QuotePhase} {op : Operation} (offers : op.Offers phase) :
    quoting.Allows phase op :=
  ⟨.error .unavailable, _, offers, op.renders_error _, rfl⟩

namespace World

variable {world next : World} {who : ProcessId}

theorem Quoted.view (quoted : world.Quoted) {row : Transaction}
    (member : row ∈ (world.view who).transactions.rows) :
    row.QuotedIn fun quote => quote ∈ world.db.fxQuotes ∨ Write.quote quote ∈ world.log who := by
  rcases Database.mem_transactions_replay member with based | logged
  · unfold base at based
    cases opened : world.sessions who with
    | none =>
        rw [opened] at based
        exact (quoted.db row based).mono fun _ => .inl
    | some session =>
        rw [opened] at based
        have own := quoted.sessions who session opened
        obtain ⟨isolation, snapshot, startedAt, writes⟩ := session
        cases isolation with
        | readCommitted => exact (quoted.db row based).mono fun _ => .inl
        | serializable => exact (own.snapshot row based).mono fun _ => .inl
  · unfold World.log at logged ⊢
    cases opened : world.sessions who with
    | none =>
        rw [opened] at logged
        cases logged
    | some session =>
        rw [opened] at logged
        exact (quoted.sessions who session opened).log row logged

/-- What a statement writes into the payments has its quote. -/
theorem Quoted.written (quoted : world.Quoted) {phase : QuotePhase} (fits : phase.Fits who world)
    {statement : Statement} (offers : (Operation.sql statement).Offers phase)
    {outcome : Outcome statement.Reply}
    (done : statement.eval (world.view who) (world.session who) = .ok outcome) {row : Transaction}
    (written : outcome.writes = some (.transaction row)) :
    row.QuotedIn fun quote => quote ∈ world.db.fxQuotes ∨ Write.quote quote ∈ world.log who := by
  have writes := Statement.written_of_eval done written
  generalize outcome.locks = locks, outcome.draws = draws at writes
  cases writes with
  | patch patch found =>
      obtain ⟨quote, known, prices⟩ := quoted.view (Table.mem_of_get? found)
      exact ⟨quote, known, prices.patched patch⟩
  | payment draft read fit =>
      obtain ⟨quote, rfl, priced⟩ := offers
      obtain ⟨session, opened, logged, made, valid⟩ := fits
      have now : (world.session who).now = session.startedAt := by
        unfold World.session
        rw [opened]
      have amount := priced.amount
      rw [read] at amount
      refine ⟨quote, .inr ?_, ⟨priced.named, priced.source, priced.destination, priced.rate,
        Option.some.inj amount, priced.converted, ?_, ?_⟩⟩
      · unfold World.log
        rw [opened]
        exact logged
      · exact now.trans made.symm
      · change (world.session who).now < _
        rw [now, ← made]
        exact valid

/-- A step that adds nothing to the payments. -/
theorem Quoted.keep (quoted : world.Quoted) (transactions : next.db.transactions =
      world.db.transactions) (quotes : ∀ quote ∈ world.db.fxQuotes, quote ∈ next.db.fxQuotes)
    (sessions : ∀ who session, next.sessions who = some session →
      session.Quoted next.db.fxQuotes) : next.Quoted := by
  refine ⟨fun row member => ?_, sessions⟩
  rw [transactions] at member
  exact (quoted.db row member).mono quotes

theorem Quoted.apply (quoted : world.Quoted) {ρ : Type} {outcome : Outcome ρ}
    (written : ∀ row, outcome.writes = some (.transaction row) →
      row.QuotedIn fun quote => quote ∈ world.db.fxQuotes ∨ Write.quote quote ∈ world.log who) :
    (world.apply who outcome).Quoted := by
  cases opened : world.sessions who with
  | none =>
      have unlogged : ∀ quote, ¬ Write.quote quote ∈ world.log who := by
        intro quote logged
        unfold World.log at logged
        rw [opened] at logged
        cases logged
      rw [apply_closed outcome opened]
      cases writes : outcome.writes with
      | none => exact quoted.keep rfl (fun _ => id) quoted.sessions
      | some version =>
          have grown : ∀ quote ∈ world.db.fxQuotes, quote ∈ (world.db.replay [version]).fxQuotes :=
            fun quote member => Database.mem_fxQuotes_replay (.inl member)
          have sessions : ∀ other session, world.sessions other = some session →
              session.Quoted (world.db.write version).fxQuotes :=
            fun other session current => (quoted.sessions other session current).mono grown
          refine ⟨fun row member => ?_, sessions⟩
          have rows : row ∈ (world.db.replay [version]).transactions.rows := member
          rcases Database.mem_transactions_replay rows with old | new
          · exact (quoted.db row old).mono grown
          · obtain rfl := List.mem_singleton.mp new
            refine (written row writes).mono fun quote known => ?_
            rcases known with committed | logged
            · exact grown quote committed
            · exact (unlogged quote logged).elim
  | some session =>
      rw [apply_open outcome opened]
      refine quoted.keep rfl (fun _ => id) fun other later current => ?_
      cases writes : outcome.writes with
      | none =>
          simp only [writes] at current
          exact quoted.sessions other later current
      | some version =>
          simp only [writes] at current
          by_cases own : other = who
          · subst own
            rw [Function.update_self] at current
            cases current
            obtain ⟨snapshot, log⟩ := quoted.sessions other session opened
            refine ⟨snapshot, fun row member => ?_⟩
            rcases List.mem_append.mp member with old | new
            · exact (log row old).mono fun quote =>
                Or.imp_right fun logged => List.mem_append.mpr (.inl logged)
            · obtain rfl := List.mem_singleton.mp new
              refine (written row writes).mono fun quote => Or.imp_right fun logged => ?_
              unfold World.log at logged
              rw [opened] at logged
              exact List.mem_append.mpr (.inl logged)
          · rw [Function.update_of_ne own] at current
            exact quoted.sessions other later current

/-- The sessions after one process began or ended its transaction. -/
theorem Quoted.sessions_update (quoted : world.Quoted) {session : Option OpenTransaction}
    (fits : ∀ opened, session = some opened → opened.Quoted world.db.fxQuotes) :
    ∀ other later, Function.update world.sessions who session other = some later →
      later.Quoted world.db.fxQuotes := by
  intro other later current
  by_cases own : other = who
  · subst own
    rw [Function.update_self] at current
    exact fits later current
  · rw [Function.update_of_ne own] at current
    exact quoted.sessions other later current

theorem Quoted.release (quoted : world.Quoted) : (world.release who).Quoted :=
  quoted.keep rfl (fun _ => id) (quoted.sessions_update fun _ absurd => by cases absurd)

theorem Quoted.commit (quoted : world.Quoted) : (world.commit who).Quoted := by
  have grown : ∀ quote ∈ world.db.fxQuotes, quote ∈ (world.db.replay (world.log who)).fxQuotes :=
    fun quote member => Database.mem_fxQuotes_replay (.inl member)
  refine ⟨fun row member => ?_, fun other session current =>
    (quoted.release.sessions other session current).mono grown⟩
  rcases Database.mem_transactions_replay member with old | logged
  · exact (quoted.db row old).mono grown
  · unfold World.log at logged
    cases opened : world.sessions who with
    | none =>
        rw [opened] at logged
        cases logged
    | some session =>
        rw [opened] at logged
        refine ((quoted.sessions who session opened).log row logged).mono fun quote known => ?_
        refine Database.mem_fxQuotes_replay (known.imp_right fun own => ?_)
        unfold World.log
        rw [opened]
        exact own

theorem Quoted.aside (quoted : world.Quoted) (aside : world.Aside next) : next.Quoted := by
  refine quoted.keep (by rw [aside.db]) (fun quote => by rw [aside.db]; exact id) ?_
  rw [aside.db, aside.sessions]
  exact quoted.sessions

theorem Quoted.perform (quoted : world.Quoted) {phase : QuotePhase} (fits : phase.Fits who world)
    {op : Operation} (offers : op.Offers phase) : (world.perform who op).2.Quoted := by
  cases op with
  | begin isolation =>
      refine quoted.keep rfl (fun _ => id) (quoted.sessions_update ?_)
      intro opened same
      cases same
      exact ⟨quoted.db, fun _ absurd => by cases absurd⟩
  | commit => exact quoted.commit
  | rollback => exact quoted.release
  | sql statement =>
      change (world.execute who statement).2.Quoted
      rcases execute_cases world who statement with ⟨error, refused⟩ | ⟨outcome, done, _, ran⟩
      · rw [refused]
        exact quoted
      · rw [ran]
        exact quoted.apply fun row written => quoted.written fits offers done written
  | acquireLock _ _ | releaseLock _ _ | cacheGet _ | cacheSet _ _ _ | cacheDelete _
  | cacheDeleteLists | queueAdd _ _ _ | queueGet _ | queueRemove _ | scheduleCallback _ _ | emit _
  | now | sleep _ | observe _ => exact quoted.aside (perform_neutral trivial)

/-- Other calls than those that begin or end it leave a transaction open and keep what
it has written. -/
theorem perform_session {op : Operation} (continues : op.Continues) {session : OpenTransaction}
    (opened : world.sessions who = some session) :
    ∃ later, (world.perform who op).2.sessions who = some later ∧
      later.startedAt = session.startedAt ∧ ∀ version ∈ session.log, version ∈ later.log := by
  have aside : ∀ last : World, world.Aside last → ∃ later, last.sessions who = some later ∧
      later.startedAt = session.startedAt ∧ ∀ version ∈ session.log, version ∈ later.log :=
    fun last aside => ⟨session, (congrFun aside.sessions who).trans opened, rfl, fun _ => id⟩
  cases op with
  | begin _ | commit | rollback => exact continues.elim
  | sql statement =>
      change ∃ later, (world.execute who statement).2.sessions who = some later ∧ _
      rcases execute_cases world who statement with ⟨error, refused⟩ | ⟨outcome, _, _, ran⟩
      · rw [refused]
        exact ⟨session, opened, rfl, fun _ => id⟩
      · rw [ran, apply_open outcome opened]
        cases outcome.writes with
        | none => exact ⟨session, opened, rfl, fun _ => id⟩
        | some version =>
            exact ⟨_, Function.update_self _ _ _, rfl,
              fun _ member => List.mem_append.mpr (.inl member)⟩
  | acquireLock _ _ | releaseLock _ _ | cacheGet _ | cacheSet _ _ _ | cacheDelete _
  | cacheDeleteLists | queueAdd _ _ _ | queueGet _ | queueRemove _ | scheduleCallback _ _ | emit _
  | now | sleep _ | observe _ => exact aside _ (perform_neutral trivial)

theorem fits_exec {phase : QuotePhase} (fits : phase.Fits who world) (delivery : Delivery)
    {op : Operation} (continues : op.Continues) :
    phase.Fits who (World.exec who delivery op world).2 := by
  rcases exec_state who delivery op world with same | ran
  · rw [same]
    exact fits
  rw [ran]
  cases phase with
  | outside => trivial
  | begun =>
      obtain ⟨session, opened⟩ := fits
      obtain ⟨later, current, _⟩ := perform_session continues opened
      exact ⟨later, current⟩
  | quoted quote =>
      obtain ⟨session, opened, logged, made, valid⟩ := fits
      obtain ⟨later, current, started, kept⟩ := perform_session continues opened
      exact ⟨later, current, kept _ logged, made.trans started.symm, valid⟩

/-- A quote that is stored in an open transaction. -/
theorem quote_stored {session : OpenTransaction} (opened : world.sessions who = some session)
    {draft : QuoteDraft} {quote : FxQuote}
    (returned : (world.execute who (.insertQuote draft)).1 = .ok quote) :
    draft.Yields quote ∧
      (QuotePhase.quoted quote).Fits who (world.execute who (.insertQuote draft)).2 := by
  rcases execute_cases world who (.insertQuote draft) with
    ⟨error, refused⟩ | ⟨outcome, done, _, ran⟩
  · rw [refused] at returned
    cases returned
  rw [ran] at returned ⊢
  have now : (world.session who).now = session.startedAt := by
    unfold World.session
    rw [opened]
  simp only [Statement.eval, Payroute.insertQuote] at done
  cases read : numericOfText draft.sourceAmount with
  | none =>
      rw [read] at done
      cases done
  | some amount =>
      rw [read] at done
      simp only at done
      split at done
      · cases done
      split at done
      · cases done
      next valid =>
      cases done
      cases returned
      refine ⟨⟨rfl, rfl, rfl, read, rfl⟩, ?_⟩
      rw [apply_open _ opened]
      refine ⟨_, Function.update_self _ _ _, ?_, now, (not_not.mp valid).2⟩
      exact List.mem_append.mpr (.inr List.mem_cons_self)

/-- One call of a process that follows the protocol. -/
theorem quoting_exec (quoted : world.Quoted) {phase : QuotePhase} (fits : phase.Fits who world)
    (delivery : Delivery) {op : Operation} (offers : op.Offers phase) :
    ∃ later, quoting phase op (World.exec who delivery op world).1 later ∧
      later.Fits who (World.exec who delivery op world).2 ∧
      (World.exec who delivery op world).2.Quoted := by
  have kept : (World.exec who delivery op world).2.Quoted := by
    rcases exec_state who delivery op world with same | ran
    · rw [same]
      exact quoted
    · rw [ran]
      exact quoted.perform fits offers
  suffices rendered : op.Renders (World.exec who delivery op world).1 ∧
      (op.quotePhase phase (World.exec who delivery op world).1).Fits who
        (World.exec who delivery op world).2 from
    ⟨_, ⟨offers, rendered.1, rfl⟩, rendered.2, kept⟩
  cases op with
  | begin isolation =>
      refine ⟨trivial, ?_⟩
      rcases exec_cases who delivery (.begin isolation) world with ran | ⟨failed, _⟩
      · rw [ran]
        exact ⟨_, Function.update_self _ _ _⟩
      · rw [failed]
        trivial
  | commit | rollback => exact ⟨trivial, trivial⟩
  | sql statement =>
      cases statement with
      | insertQuote draft =>
          rcases exec_cases who delivery (.sql (.insertQuote draft)) world with ran | ⟨failed, _⟩
          · rw [ran]
            cases returned : (world.execute who (.insertQuote draft)).1 with
            | error error =>
                have refused : (world.perform who (.sql (.insertQuote draft))).1 = .error error :=
                  returned
                rw [refused]
                have still : phase.Fits who
                    (World.exec who delivery (.sql (.insertQuote draft)) world).2 :=
                  fits_exec fits delivery trivial
                rw [ran] at still
                exact ⟨trivial, still⟩
            | ok quote =>
                have answered : (world.perform who (.sql (.insertQuote draft))).1 = .ok quote :=
                  returned
                rw [answered]
                have opened : ∃ session, world.sessions who = some session := by
                  cases phase with
                  | outside => exact (offers rfl).elim
                  | begun => exact fits
                  | quoted earlier => exact ⟨_, fits.choose_spec.1⟩
                obtain ⟨session, opened⟩ := opened
                exact quote_stored opened returned
          · rw [failed]
            exact ⟨trivial, fits_exec fits delivery trivial⟩
      | _ => exact ⟨trivial, fits_exec fits delivery trivial⟩
  | _ => exact ⟨trivial, fits_exec fits delivery trivial⟩

end World

/-! ## Programs -/

/-- Wherever the process stands, the program stores payments at the price of quotes. -/
abbrev Pricing {α : Type} (body : Service α) : Prop := Steady quoting body

theorem Operation.Priceless.allowed {op : Operation} (priceless : op.Priceless)
    (phase : QuotePhase) : quoting.Allows phase op := by
  refine quoting_allows ?_
  cases op with
  | sql statement =>
      cases statement with
      | insertTransaction _ | insertQuote _ => exact priceless.elim
      | _ => trivial
  | _ => trivial

theorem Operation.Aloof.priceless {op : Operation} (aloof : op.Aloof) : op.Priceless := by
  cases op with
  | sql statement =>
      cases statement with
      | insertTransaction _ | insertQuote _ => exact aloof.elim
      | _ => trivial
  | _ => trivial

theorem Operation.Booking.priceless {op : Operation} (booking : op.Booking) : op.Priceless := by
  cases op with
  | sql statement =>
      cases statement with
      | insertTransaction _ | insertQuote _ => exact booking.elim
      | _ => trivial
  | _ => trivial

theorem Operation.Delivering.priceless {op : Operation} (delivering : op.Delivering) :
    op.Priceless := by
  cases op with
  | sql statement =>
      cases statement with
      | insertTransaction _ | insertQuote _ => exact delivering.elim
      | _ => trivial
  | _ => trivial

theorem Operation.Sweeping.priceless {op : Operation} (sweeping : op.Sweeping) :
    op.Priceless := by
  cases op with
  | sql statement =>
      cases statement with
      | insertTransaction _ | insertQuote _ => exact sweeping.elim
      | _ => trivial
  | _ => trivial

namespace Pricing

variable {α : Type}

theorem priceless {body : Service α} (only : body.OnlyCalls Operation.Priceless) :
    Pricing body :=
  .of_onlyCalls only fun _ => Operation.Priceless.allowed

theorem call {op : Operation} (priceless : op.Priceless) : Pricing (Payroute.call op) :=
  .priceless (onlyCalls_perform priceless)

theorem booking {body : Service α} (booking : Booking body) : Pricing body :=
  .priceless (booking.mono fun _ => Operation.Booking.priceless)

theorem serving {body : Service α} (serving : Serving body) : Pricing body :=
  .priceless (serving.mono fun _ serving => serving.delivering.priceless)

end Pricing

section Programs

variable {α : Type}

/-- A call that leaves the phase as it is. -/
theorem quoting_call {phase : QuotePhase} {op : Operation} (offers : op.Offers phase)
    (stays : ∀ reply, op.quotePhase phase reply = phase) :
    Follows quoting (fun _ last => last = phase) (call op) phase :=
  .perform (quoting_allows offers) fun reply _ moved => moved.2.2.trans (stays reply)

/-- Code inside a database transaction that opens no payment. -/
theorem quoting_booking {phase : QuotePhase} {body : Service α} (booking : Booking body) :
    Follows quoting (fun _ last => last = phase) body phase := by
  have offers : ∀ op : Operation, op.Booking → op.Offers phase := by
    intro op booking
    cases op with
    | sql statement =>
        cases statement with
        | insertTransaction _ | insertQuote _ => exact booking.elim
        | _ => trivial
    | _ => trivial
  have stays : ∀ (op : Operation) (reply : Except Failure op.Reply), op.Booking →
      op.quotePhase phase reply = phase := by
    intro op reply booking
    cases op with
    | sql statement =>
        cases statement with
        | insertTransaction _ | insertQuote _ => exact booking.elim
        | _ => rfl
    | now => rfl
    | _ => exact booking.elim
  exact .of_onlyCalls booking (fun op booking => quoting_allows (offers op booking))
    fun op reply later booking moved => moved.2.2.trans (stays op reply booking)

/-- A database transaction whose body follows the protocol. -/
theorem pricing_transaction {isolation : Isolation} {body : Service α}
    (follows : Follows quoting (fun _ _ => True) body .begun) :
    Pricing (transaction isolation body) := by
  have rollback : Pricing (call .rollback) := .call trivial
  have commit : Pricing (call .commit) := .call trivial
  refine Steady.tryCatch (fun phase => ?_) fun error => rollback.bind fun _ => .fail error
  have begins : Follows quoting (fun outcome last => outcome = .ok () → last = .begun)
      (call (.begin isolation)) phase := by
    refine .perform (quoting_allows trivial) fun reply later moved same => ?_
    subst same
    exact moved.2.2
  refine begins.bind (fun _ later begun => ?_) fun _ _ _ => trivial
  rw [begun rfl]
  refine follows.bind (fun value last _ => ?_) fun _ _ _ => trivial
  exact commit.bind (fun _ => .ret value) last

end Programs

namespace FxService

theorem quoting_getRate {phase : QuotePhase} (fromCurrency toCurrency : String) :
    Follows quoting (fun _ last => last = phase) (getRate fromCurrency toCurrency) phase := by
  unfold getRate
  split
  · exact rfl
  · refine .bind (quoting_call trivial fun _ => rfl) (fun cached _ same => ?_) fun _ _ => id
    subst same
    split
    · exact rfl
    · refine .bind (quoting_booking (onlyCalls_orThrow _ _)) (fun rate _ same => ?_) fun _ _ => id
      subst same
      exact .bind (quoting_call trivial fun _ => rfl) (fun _ _ => id) fun _ _ => id

/-- The quote has the terms it was asked for. -/
theorem quoting_createQuote (fromCurrency toCurrency : String) (sourceAmount : Text) :
    Follows quoting (fun outcome last => ∀ quote, outcome = .ok quote → last = .quoted quote ∧
        quote.fromCurrency = fromCurrency ∧ quote.toCurrency = toCurrency ∧
        numericOfText sourceAmount = some quote.sourceAmount)
      (createQuote fromCurrency toCurrency sourceAmount) .begun := by
  have fails : ∀ (error : Failure) (last : QuotePhase), ∀ quote : FxQuote,
      Except.error error = .ok quote → last = .quoted quote ∧
        quote.fromCurrency = fromCurrency ∧ quote.toCurrency = toCurrency ∧
        numericOfText sourceAmount = some quote.sourceAmount := by
    intro error last quote absurd
    cases absurd
  refine (quoting_getRate fromCurrency toCurrency).bind (fun rate _ same => ?_)
    fun error last _ => fails error last
  subst same
  refine .bind (quoting_call trivial fun _ => rfl) (fun now _ same => ?_)
    fun error last _ => fails error last
  subst same
  refine .perform (quoting_allows nofun) fun reply later moved quote returned => ?_
  subst returned
  obtain ⟨_, yields, same⟩ := moved
  exact ⟨same, yields.source, yields.destination, yields.amount⟩

end FxService

namespace PaymentsService

theorem quoting_reserveFunds (deployment : Deployment) (dto : CreatePaymentDto) :
    Follows quoting (fun _ _ => True) (reserveFunds deployment dto) .begun := by
  have ends : ∀ (error : Failure) (phase : QuotePhase), phase = .begun → True :=
    fun _ _ _ => trivial
  refine (quoting_booking (booking_lockSender _)).bind (fun sender _ same => ?_) ends
  subst same
  refine (quoting_booking (onlyCalls_require _ _)).bind (fun _ _ same => ?_) ends
  subst same
  refine (quoting_booking (booking_checkRecipient dto)).bind (fun _ _ same => ?_) ends
  subst same
  refine (quoting_booking (booking_checkLimits deployment dto)).bind (fun _ _ same => ?_) ends
  subst same
  refine (FxService.quoting_createQuote _ _ _).bind (fun quote _ offered => ?_)
    fun _ _ _ => trivial
  obtain ⟨rfl, source, destination, amount⟩ := offered quote rfl
  refine .bind (quoting_call trivial fun _ => rfl) (fun now _ same => ?_) fun _ _ _ => trivial
  subst same
  refine (quoting_booking (onlyCalls_require _ _)).bind (fun _ _ same => ?_) fun _ _ _ => trivial
  subst same
  refine .bind (quoting_call ⟨quote, rfl, ⟨rfl, source.symm, destination.symm, rfl, amount, rfl⟩⟩
    fun _ => rfl) (fun saved last _ => ?_) fun _ _ _ => trivial
  refine Steady.bind (Pricing.call ?_) (fun _ => ?_) last
  · trivial
  refine (Pricing.booking (LedgerService.booking_debit _ _ _)).bind fun _ => ?_
  refine .bind (Pricing.call ?_) fun _ => .bind (Pricing.call ?_) fun _ => .ret _
  · trivial
  · trivial

theorem pricing_createPayment (deployment : Deployment) (dto : CreatePaymentDto)
    (idempotencyKey : String) : Pricing (createPayment deployment dto idempotencyKey) := by
  have commits : Pricing (commitPayment deployment dto) := by
    refine .bind (Pricing.call ?_) fun token => .bind (Pricing.booking (onlyCalls_orThrow _ _))
      fun token => .tryFinally (pricing_transaction (quoting_reserveFunds deployment dto))
        (Pricing.call ?_)
    · trivial
    · trivial
  refine .bind commits fun saved => .bind (Pricing.call ?_) fun _ => .bind
    (.bind (.swallow (Pricing.call ?_)) fun _ => .swallow (Pricing.call ?_)) fun _ => .ret _
  · trivial
  · trivial
  · trivial

end PaymentsService

theorem ProviderProcessor.pricing_process (data : ProviderJobData) : Pricing (process data) :=
  .priceless (onlyCalls_process data (fun _ => trivial) (fun _ => trivial) (fun _ _ => trivial)
    (fun _ _ => trivial) fun _ => trivial)

theorem ProviderProcessor.pricing_work (id : JobId) : Pricing (work id) := by
  refine .bind (Pricing.call ?_) fun found => ?_
  · trivial
  cases found with
  | none => exact .ret ()
  | some job => exact pricing_process job.data

/-- Every operation stores payments at the price of their quotes. -/
theorem Command.pricing (deployment : Deployment) (command : Command) :
    Pricing (command.program deployment) := by
  cases command with
  | createPayment dto idempotencyKey =>
      exact .bind (PaymentsService.pricing_createPayment deployment dto idempotencyKey)
        fun _ => .ret ()
  | process data => exact ProviderProcessor.pricing_process data
  | processWebhook payload rawBody signature =>
      exact .priceless ((WebhooksService.delivering_processWebhook deployment payload
        rawBody signature).mono fun _ => Operation.Delivering.priceless)
  | onProviderJobExhausted jobId failedReason =>
      exact .serving (DeadLetterHandler.serving_onProviderJobExhausted _ _)
  | refundPayment id dto =>
      exact .bind (Pricing.serving (PaymentsService.serving_refundPayment id dto)) fun _ => .ret ()
  | raiseDispute id dto =>
      exact .bind (Pricing.serving (PaymentsService.serving_raiseDispute id dto)) fun _ => .ret ()
  | resolveDispute id dto =>
      exact .bind (Pricing.serving (PaymentsService.serving_resolveDispute id dto)) fun _ => .ret ()
  | retryStuckPayments =>
      exact .priceless (StuckPaymentScheduler.sweeping_retryStuckPayments.mono
        fun _ => Operation.Sweeping.priceless)
  | cleanupExpiredIdempotencyKeys =>
      exact .priceless (.bind (onlyCalls_perform trivial) fun _ => onlyCalls_perform trivial)
  | cleanupOldProcessedWebhookEvents =>
      exact .priceless (.bind (onlyCalls_perform trivial) fun _ => onlyCalls_perform trivial)

/-- No payment is without its quote, and every process stands where its phase says. -/
structure QuotesKept (phases : ProcessId → QuotePhase) (world : World) : Prop where
  quoted : world.Quoted
  phases : ∀ who, (phases who).Fits who world

theorem QuotesKept.update {phases : ProcessId → QuotePhase} {world next : World} {who : ProcessId}
    {phase : QuotePhase} (kept : QuotesKept phases world) (quoted : next.Quoted)
    (fits : phase.Fits who next)
    (others : ∀ other, other ≠ who → next.sessions other = world.sessions other) :
    QuotesKept (Function.update phases who phase) next := by
  refine ⟨quoted, fun other => ?_⟩
  by_cases own : other = who
  · subst own
    rw [Function.update_self]
    exact fits
  · rw [Function.update_of_ne own]
    exact (kept.phases other).keep (others other own)

/-- Whatever the processes do, no payment is without its quote. -/
theorem monitors_quoting (deployment : Deployment) :
    Monitors backend (surroundings fun _ => Activity deployment) quoting .outside
      (fun _ _ => True) (fun _ _ => True) QuotesKept where
  follows := fun _ _ activity => activity.follows (fun _ aloof => aloof.priceless.allowed)
    (fun id => ProviderProcessor.pricing_work id .outside)
    (PaymentsService.pricing_createPayment deployment) fun command _ => command.pricing deployment
  enter := fun _ _ _ kept _ => kept.update kept.quoted trivial fun _ _ => rfl
  call := by
    intro phases world who delivery op kept allowed _ _
    obtain ⟨_, _, offers, _⟩ := allowed
    obtain ⟨later, moved, fits, quoted⟩ :=
      World.quoting_exec kept.quoted (kept.phases who) delivery offers
    exact ⟨later, moved, kept.update quoted fits fun other differs =>
      World.exec_sessions differs delivery op⟩
  crash := fun _ _ _ kept => kept.update kept.quoted.release trivial fun other differs =>
    Function.update_of_ne differs _ _
  drift := by
    intro phases world next kept moved
    have elapses : world.Elapses next := moved
    refine ⟨kept.quoted.keep (by rw [elapses.db]) (by rw [elapses.db]; exact fun _ => id) ?_,
      fun who => (kept.phases who).keep (congrFun elapses.sessions who)⟩
    rw [elapses.db, elapses.sessions]
    exact kept.quoted.sessions

end Payroute
