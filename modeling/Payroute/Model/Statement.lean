import Payroute.Model.Database

/-! # Database statements

What one SQL statement returns, locks and writes. A statement reads the tables
as its process sees them and takes identifiers and the time from its session;
carrying it out is left to the world. Every row version it writes to an account
or to a transaction belongs to a row it locks.
-/

namespace Payroute

open KeyedTable

/-- `INSERT INTO ledger_entries`. -/
structure EntryDraft where
  transactionId : TransactionId
  accountId : AccountId
  currency : String
  amount : Text
  entryType : EntryType
  isReversal : Bool
  deriving DecidableEq, Repr

/-- `INSERT INTO transactions`. -/
structure TransactionDraft where
  senderAccountId : AccountId
  recipientAccountId : AccountId
  sourceCurrency : String
  destinationCurrency : String
  sourceAmount : Text
  destinationAmount : Int
  fxRate : Nat
  fxQuoteId : Nat
  status : TransactionStatus
  deriving DecidableEq, Repr

/-- `INSERT INTO fx_quotes`. -/
structure QuoteDraft where
  fromCurrency : String
  toCurrency : String
  rate : Nat
  sourceAmount : Text
  destinationAmount : Int
  expiresAt : Nat
  deriving DecidableEq, Repr

/-- `INSERT INTO webhook_events`. The columns no later statement reads are left out, among them
`signature`, a `VARCHAR(255)`: with a longer header the insertion raises, as it does when the
call is lost. -/
structure EventDraft where
  providerReference : ProviderReference
  eventType : String
  signatureValid : Bool
  deriving DecidableEq, Repr

/-- The SQL statements of the services. -/
inductive Statement where
  | select (query : Query)
  | lockAccount (id : AccountId)
  | lockTransaction (id : TransactionId) (nowait : Bool)
  | lockTransactionByReference (reference : ProviderReference)
  | updateBalance (direction : EntryType) (amount : Text) (id : AccountId)
  | updateTransaction (id : TransactionId) (patch : TransactionPatch)
  | updateEvent (id : Nat) (patch : WebhookEventPatch)
  | insertEntry (draft : EntryDraft)
  | insertTransaction (draft : TransactionDraft)
  | insertQuote (draft : QuoteDraft)
  | insertHistory (transactionId : TransactionId) (fromState : Option String) (toState : String)
  | insertEvent (draft : EventDraft)
  | purgeEvents (cutoff : Nat)
  | insertKey (key : String) (expiresAt : Nat)
  | updateKey (key : String) (responseBody : Transaction) (statusCode : Nat)
  | purgeKeys (now : Nat)
  deriving DecidableEq

/-- The supplies of fresh identifiers. -/
inductive Supply where
  | transaction | entry | event | quote | token | reference | job
  deriving DecidableEq, Repr

/-- What a statement is given besides the tables. -/
structure Session where
  /-- The next identifier of each supply. -/
  next : Supply → Nat
  /-- `NOW()`. -/
  now : Nat

/-- What a statement returns and does. -/
structure Outcome (ρ : Type) where
  reply : ρ
  /-- The supply an identifier was taken from. -/
  draws : Option Supply := none
  /-- The row that is locked. -/
  locks : Option RowId := none
  /-- The row version that is written. -/
  writes : Option Write := none

namespace Statement

/-- What a successful statement returns. -/
@[reducible] def Reply : Statement → Type
  | select query => query.Rows
  | lockAccount _ => Option Account
  | lockTransaction _ _ => Option Transaction
  | lockTransactionByReference _ => Option Transaction
  | updateBalance _ _ _ => Option Int
  | insertEntry _ => LedgerEntry
  | insertTransaction _ => Transaction
  | insertQuote _ => FxQuote
  | insertEvent _ => Option WebhookEvent
  | _ => Unit

/-- The row a statement needs a lock on, if it finds it. -/
def target (view : Database) : Statement → Option RowId
  | lockAccount id => (view.accounts.get? id).map fun _ => .account id
  | lockTransaction id _ => (view.transactions.get? id).map fun _ => .transaction id
  | lockTransactionByReference reference =>
      (view.byReference reference).map fun row => .transaction row.id
  | updateBalance _ _ id => (view.accounts.get? id).map fun _ => .account id
  | updateTransaction id _ => (view.transactions.get? id).map fun _ => .transaction id
  | _ => none

/-- Whether the statement fails instead of waiting for a row lock. -/
def nowait : Statement → Bool
  | lockAccount _ => true
  | lockTransaction _ refuse => refuse
  | _ => false

end Statement

/-- The signed change of a balance. -/
def EntryType.signed : EntryType → Int → Int
  | .debit, amount => -amount
  | .credit, amount => amount

/-- `INSERT INTO fx_quotes`, with `CHK_fx_quotes_rate_positive` and `CHK_fx_quotes_expiry`. -/
def insertQuote (session : Session) (draft : QuoteDraft) : Except Failure (Outcome FxQuote) :=
  match numericOfText draft.sourceAmount with
  | none => .error .invalidNumeric
  | some amount =>
      if ¬ (Fits amount ∧ Fits draft.destinationAmount ∧ draft.rate < 10 ^ 16) then
        .error .numericOverflow
      else if ¬ (0 < draft.rate ∧ session.now < draft.expiresAt) then .error .checkViolation
      else
        let quote : FxQuote :=
          { id := session.next .quote, fromCurrency := draft.fromCurrency
            toCurrency := draft.toCurrency, rate := draft.rate, sourceAmount := amount
            destinationAmount := draft.destinationAmount, expiresAt := draft.expiresAt
            createdAt := session.now }
        .ok { reply := quote, draws := some .quote, writes := some (.quote quote) }

namespace Database

variable (view : Database)

/-- `UPDATE accounts SET balance = balance ± $1`; a debit also asks `balance >= $1`. -/
def updateBalance (direction : EntryType) (amount : Text) (id : AccountId) :
    Except Failure (Outcome (Option Int)) :=
  match numericOfText amount, view.accounts.get? id with
  | none, _ => .error .invalidNumeric
  | some _, none => .ok { reply := none }
  | some units, some row =>
      if direction = .debit ∧ row.balance < units then .ok { reply := none }
      else if row.balance + direction.signed units < 0 then .error .checkViolation
      else if ¬ Fits (row.balance + direction.signed units) then .error .numericOverflow
      else .ok
        { reply := some (row.balance + direction.signed units)
          locks := some (.account id)
          writes := some (.account { row with
            balance := row.balance + direction.signed units, version := row.version + 1 }) }

/-- `UPDATE transactions ... WHERE id`. -/
def updateTransaction (id : TransactionId) (patch : TransactionPatch) : Outcome Unit :=
  match view.transactions.get? id with
  | none => { reply := () }
  | some row =>
      { reply := (), locks := some (.transaction id),
        writes := some (.transaction (patch.apply row)) }

/-- `UPDATE webhook_events ... WHERE id`. -/
def updateEvent (id : Nat) (patch : WebhookEventPatch) : Outcome Unit :=
  match view.eventById id with
  | none => { reply := () }
  | some row => { reply := (), writes := some (.event (patch.apply row)) }

/-- `INSERT INTO ledger_entries`, with its two foreign keys. -/
def insertEntry (session : Session) (draft : EntryDraft) : Except Failure (Outcome LedgerEntry) :=
  match numericOfText draft.amount, view.transactions.get? draft.transactionId,
      view.accounts.get? draft.accountId with
  | none, _, _ => .error .invalidNumeric
  | some amount, some _, some _ =>
      if ¬ Fits amount then .error .numericOverflow
      else
        let entry : LedgerEntry :=
          { id := session.next .entry, transactionId := draft.transactionId
            accountId := draft.accountId, currency := draft.currency, amount := amount
            entryType := draft.entryType, isReversal := draft.isReversal
            createdAt := session.now }
        .ok { reply := entry, draws := some .entry, writes := some (.entry entry) }
  | some _, _, _ => .error .foreignKey

/-- `INSERT INTO transactions`; nobody else sees the row before the commit. -/
def insertTransaction (session : Session) (draft : TransactionDraft) :
    Except Failure (Outcome Transaction) :=
  match numericOfText draft.sourceAmount, view.accounts.get? draft.senderAccountId,
      view.accounts.get? draft.recipientAccountId with
  | none, _, _ => .error .invalidNumeric
  | some amount, some _, some _ =>
      if ¬ (Fits amount ∧ Fits draft.destinationAmount) then .error .numericOverflow
      else
        let row : Transaction :=
          { id := session.next .transaction, providerReference := none
            senderAccountId := draft.senderAccountId
            recipientAccountId := draft.recipientAccountId
            sourceCurrency := draft.sourceCurrency, sourceAmount := amount
            destinationCurrency := draft.destinationCurrency
            destinationAmount := draft.destinationAmount, fxRate := draft.fxRate
            fxQuoteId := draft.fxQuoteId, status := draft.status
            createdAt := session.now, completedAt := none }
        .ok { reply := row, draws := some .transaction, locks := some (.transaction row.id)
              writes := some (.transaction row) }
  | some _, _, _ => .error .foreignKey

/-- `INSERT INTO transaction_state_history`, with its foreign key. -/
def insertHistory (session : Session) (transactionId : TransactionId) (fromState : Option String)
    (toState : String) : Except Failure (Outcome Unit) :=
  match view.transactions.get? transactionId with
  | none => .error .foreignKey
  | some _ => .ok
      { reply := (), writes := some (.history
          { transactionId := transactionId, fromState := fromState, toState := toState
            timestamp := session.now }) }

/-- `INSERT INTO webhook_events ... ON CONFLICT (provider_reference, event_type)
DO NOTHING RETURNING *`. -/
def insertEvent (session : Session) (draft : EventDraft) : Outcome (Option WebhookEvent) :=
  match view.webhookEvents.get? (draft.providerReference, draft.eventType) with
  | some _ => { reply := none }
  | none =>
      let event : WebhookEvent :=
        { id := session.next .event, providerReference := draft.providerReference
          eventType := draft.eventType, signatureValid := draft.signatureValid
          receivedAt := session.now, processed := false, processedAt := none, error := none }
      { reply := some event, draws := some .event, writes := some (.event event) }

/-- `INSERT INTO idempotency_keys ... ON CONFLICT DO NOTHING`. -/
def insertKey (key : String) (expiresAt : Nat) : Outcome Unit :=
  match view.idempotencyKeys.get? key with
  | some _ => { reply := () }
  | none => { reply := (), writes := some (.key
      { key := key, responseBody := none, statusCode := none, expiresAt := expiresAt }) }

/-- `UPDATE idempotency_keys ... WHERE key`. -/
def updateKey (key : String) (responseBody : Transaction) (statusCode : Nat) : Outcome Unit :=
  match view.idempotencyKeys.get? key with
  | none => { reply := () }
  | some row => { reply := (), writes := some (.key
      { row with responseBody := some responseBody, statusCode := some statusCode }) }

end Database

/-- The meaning of a statement on the tables its process sees. -/
def Statement.eval (view : Database) (session : Session) :
    (statement : Statement) → Except Failure (Outcome statement.Reply)
  | .select query => .ok { reply := query.eval view }
  | .lockAccount id => .ok
      { reply := view.accounts.get? id, locks := (Statement.lockAccount id).target view }
  | .lockTransaction id nowait => .ok
      { reply := view.transactions.get? id
        locks := (Statement.lockTransaction id nowait).target view }
  | .lockTransactionByReference reference => .ok
      { reply := view.byReference reference
        locks := (Statement.lockTransactionByReference reference).target view }
  | .updateBalance direction amount id => view.updateBalance direction amount id
  | .updateTransaction id patch => .ok (view.updateTransaction id patch)
  | .updateEvent id patch => .ok (view.updateEvent id patch)
  | .insertEntry draft => view.insertEntry session draft
  | .insertTransaction draft => view.insertTransaction session draft
  | .insertQuote draft => Payroute.insertQuote session draft
  | .insertHistory id fromState toState => view.insertHistory session id fromState toState
  | .insertEvent draft => .ok (view.insertEvent session draft)
  | .purgeEvents cutoff => .ok { reply := (), writes := some (.purgeEvents cutoff) }
  | .insertKey key expiresAt => .ok (view.insertKey key expiresAt)
  | .updateKey key body statusCode => .ok (view.updateKey key body statusCode)
  | .purgeKeys now => .ok { reply := (), writes := some (.purgeKeys now) }

/-! ## What a statement writes -/

/-- The row version a statement writes with what it found and checked, the row it locks
and the supply it draws from. -/
inductive Statement.Written (view : Database) (session : Session) :
    Statement → Write → Option RowId → Option Supply → Prop
  | balance {row : Account} {units : Int} (direction : EntryType) (amount : Text)
      (found : view.accounts.get? row.id = some row) (read : numericOfText amount = some units)
      (solvent : 0 ≤ row.balance + direction.signed units)
      (fits : Fits (row.balance + direction.signed units)) :
      Written view session (.updateBalance direction amount row.id)
        (.account { row with
          balance := row.balance + direction.signed units, version := row.version + 1 })
        (some (.account row.id)) none
  | patch {row : Transaction} (patch : TransactionPatch)
      (found : view.transactions.get? row.id = some row) :
      Written view session (.updateTransaction row.id patch) (.transaction (patch.apply row))
        (some (.transaction row.id)) none
  | mark {row : WebhookEvent} (id : Nat) (patch : WebhookEventPatch)
      (found : view.eventById id = some row) :
      Written view session (.updateEvent id patch) (.event (patch.apply row)) none none
  | entry {units : Int} (draft : EntryDraft)
      (read : numericOfText draft.amount = some units)
      (payment : view.transactions.get? draft.transactionId ≠ none)
      (account : view.accounts.get? draft.accountId ≠ none) (fits : Fits units) :
      Written view session (.insertEntry draft)
        (.entry { id := session.next .entry, transactionId := draft.transactionId
                  accountId := draft.accountId, currency := draft.currency, amount := units
                  entryType := draft.entryType, isReversal := draft.isReversal
                  createdAt := session.now }) none (some .entry)
  | payment {units : Int} (draft : TransactionDraft)
      (read : numericOfText draft.sourceAmount = some units)
      (fits : Fits units ∧ Fits draft.destinationAmount) :
      Written view session (.insertTransaction draft)
        (.transaction
          { id := session.next .transaction, providerReference := none
            senderAccountId := draft.senderAccountId
            recipientAccountId := draft.recipientAccountId
            sourceCurrency := draft.sourceCurrency, sourceAmount := units
            destinationCurrency := draft.destinationCurrency
            destinationAmount := draft.destinationAmount, fxRate := draft.fxRate
            fxQuoteId := draft.fxQuoteId, status := draft.status
            createdAt := session.now, completedAt := none })
        (some (.transaction (session.next .transaction))) (some .transaction)
  | quote (draft : QuoteDraft) (quote : FxQuote) :
      Written view session (.insertQuote draft) (.quote quote) none (some .quote)
  | history (id : TransactionId) (fromState : Option String) (toState : String) :
      Written view session (.insertHistory id fromState toState)
        (.history { transactionId := id, fromState := fromState, toState := toState
                    timestamp := session.now }) none none
  | event (draft : EventDraft)
      (absent : view.webhookEvents.get? (draft.providerReference, draft.eventType) = none) :
      Written view session (.insertEvent draft)
        (.event { id := session.next .event, providerReference := draft.providerReference
                  eventType := draft.eventType, signatureValid := draft.signatureValid
                  receivedAt := session.now, processed := false, processedAt := none
                  error := none }) none (some .event)
  | purgeEvents (cutoff : Nat) :
      Written view session (.purgeEvents cutoff) (.purgeEvents cutoff) none none
  | key (key : String) (expiresAt : Nat) (row : IdempotencyKey) :
      Written view session (.insertKey key expiresAt) (.key row) none none
  | answer (key : String) (body : Transaction) (statusCode : Nat) (row : IdempotencyKey) :
      Written view session (.updateKey key body statusCode) (.key row) none none
  | purgeKeys (now : Nat) :
      Written view session (.purgeKeys now) (.purgeKeys now) none none

section Outcomes

variable {view : Database} {session : Session}

/-- The outcome writes one row version, or it writes and draws nothing. -/
def Statement.Yields (view : Database) (session : Session) (statement : Statement)
    (outcome : Outcome statement.Reply) : Prop :=
  (outcome.writes = none ∧ outcome.draws = none ∧
    (outcome.locks = none ∨ outcome.locks = statement.target view)) ∨
    ∃ version, outcome.writes = some version ∧
      Written view session statement version outcome.locks outcome.draws

theorem Statement.updateBalance_yields {direction : EntryType} {amount : Text} {id : AccountId}
    {outcome : Outcome (Option Int)}
    (done : view.updateBalance direction amount id = .ok outcome) :
    Yields view session (.updateBalance direction amount id) outcome := by
  simp only [Database.updateBalance] at done
  split at done
  · cases done
  · cases done
    exact .inl ⟨rfl, rfl, .inl rfl⟩
  · next units row read found =>
    have named : row.id = id := Table.key_of_get? found
    subst named
    split at done
    · cases done
      exact .inl ⟨rfl, rfl, .inl rfl⟩
    · split at done
      · cases done
      · next solvent =>
        split at done
        · cases done
        · next fits =>
          cases done
          exact .inr ⟨_, rfl, .balance direction amount found read
            (Int.not_lt.mp solvent) (not_not.mp fits)⟩

theorem Statement.updateTransaction_yields (id : TransactionId) (patch : TransactionPatch) :
    Yields view session (.updateTransaction id patch) (view.updateTransaction id patch) := by
  unfold Database.updateTransaction
  split
  · exact .inl ⟨rfl, rfl, .inl rfl⟩
  · next row found =>
    have named : row.id = id := Table.key_of_get? found
    subst named
    exact .inr ⟨_, rfl, .patch patch found⟩

theorem Statement.updateEvent_yields (id : Nat) (patch : WebhookEventPatch) :
    Yields view session (.updateEvent id patch) (view.updateEvent id patch) := by
  unfold Database.updateEvent
  split
  · exact .inl ⟨rfl, rfl, .inl rfl⟩
  · next row found => exact .inr ⟨_, rfl, .mark id patch found⟩

theorem Statement.insertEntry_yields {draft : EntryDraft} {outcome : Outcome LedgerEntry}
    (done : view.insertEntry session draft = .ok outcome) :
    Yields view session (.insertEntry draft) outcome := by
  simp only [Database.insertEntry] at done
  split at done
  · cases done
  · next units payment account read paid held =>
    split at done
    · cases done
    · next fits =>
      cases done
      exact .inr ⟨_, rfl, .entry draft read (by rw [paid]; exact Option.some_ne_none _)
        (by rw [held]; exact Option.some_ne_none _) (not_not.mp fits)⟩
  · cases done

theorem Statement.insertTransaction_yields {draft : TransactionDraft}
    {outcome : Outcome Transaction}
    (done : view.insertTransaction session draft = .ok outcome) :
    Yields view session (.insertTransaction draft) outcome := by
  simp only [Database.insertTransaction] at done
  split at done
  · cases done
  · next units _ _ read _ _ =>
    split at done
    · cases done
    · next fits =>
      cases done
      exact .inr ⟨_, rfl, .payment draft read (not_not.mp fits)⟩
  · cases done

theorem Statement.insertQuote_yields {draft : QuoteDraft} {outcome : Outcome FxQuote}
    (done : Payroute.insertQuote session draft = .ok outcome) :
    Yields view session (.insertQuote draft) outcome := by
  simp only [Payroute.insertQuote] at done
  split at done
  · cases done
  · split at done
    · cases done
    · split at done
      · cases done
      · cases done
        exact .inr ⟨_, rfl, .quote draft _⟩

theorem Statement.insertHistory_yields {id : TransactionId} {fromState : Option String}
    {toState : String} {outcome : Outcome Unit}
    (done : view.insertHistory session id fromState toState = .ok outcome) :
    Yields view session (.insertHistory id fromState toState) outcome := by
  simp only [Database.insertHistory] at done
  split at done
  · cases done
  · cases done
    exact .inr ⟨_, rfl, .history id fromState toState⟩

theorem Statement.insertEvent_yields (draft : EventDraft) :
    Yields view session (.insertEvent draft) (view.insertEvent session draft) := by
  unfold Database.insertEvent
  split
  · exact .inl ⟨rfl, rfl, .inl rfl⟩
  · next absent => exact .inr ⟨_, rfl, .event draft absent⟩

theorem Statement.insertKey_yields (key : String) (expiresAt : Nat) :
    Yields view session (.insertKey key expiresAt) (view.insertKey key expiresAt) := by
  unfold Database.insertKey
  split
  · exact .inl ⟨rfl, rfl, .inl rfl⟩
  · exact .inr ⟨_, rfl, .key key expiresAt _⟩

theorem Statement.updateKey_yields (key : String) (body : Transaction) (statusCode : Nat) :
    Yields view session (.updateKey key body statusCode) (view.updateKey key body statusCode) := by
  unfold Database.updateKey
  split
  · exact .inl ⟨rfl, rfl, .inl rfl⟩
  · exact .inr ⟨_, rfl, .answer key body statusCode _⟩

/-- A statement that succeeds writes one row version, or it writes and draws nothing. -/
theorem Statement.eval_cases {statement : Statement} {outcome : Outcome statement.Reply}
    (done : statement.eval view session = .ok outcome) :
    Yields view session statement outcome := by
  cases statement with
  | select query =>
      cases done
      exact .inl ⟨rfl, rfl, .inl rfl⟩
  | lockAccount id | lockTransaction id nowait | lockTransactionByReference reference =>
      cases done
      exact .inl ⟨rfl, rfl, .inr rfl⟩
  | updateBalance direction amount id => exact updateBalance_yields done
  | updateTransaction id patch =>
      cases done
      exact updateTransaction_yields id patch
  | updateEvent id patch =>
      cases done
      exact updateEvent_yields id patch
  | insertEntry draft => exact insertEntry_yields done
  | insertTransaction draft => exact insertTransaction_yields done
  | insertQuote draft => exact insertQuote_yields done
  | insertHistory id fromState toState => exact insertHistory_yields done
  | insertEvent draft =>
      cases done
      exact insertEvent_yields draft
  | insertKey key expiresAt =>
      cases done
      exact insertKey_yields key expiresAt
  | updateKey key body statusCode =>
      cases done
      exact updateKey_yields key body statusCode
  | purgeEvents cutoff =>
      cases done
      exact .inr ⟨_, rfl, .purgeEvents cutoff⟩
  | purgeKeys now =>
      cases done
      exact .inr ⟨_, rfl, .purgeKeys now⟩

/-- What a successful statement writes. -/
theorem Statement.written_of_eval {statement : Statement} {outcome : Outcome statement.Reply}
    (done : statement.eval view session = .ok outcome) {version : Write}
    (written : outcome.writes = some version) :
    Written view session statement version outcome.locks outcome.draws := by
  rcases eval_cases done with ⟨unwritten, _⟩ | ⟨other, same, writes⟩
  · rw [unwritten] at written
    cases written
  · rw [same] at written
    cases written
    exact writes

end Outcomes

end Payroute
