import Payroute.Books.Settlement
import Payroute.Isolation.Contract
import Payroute.Services.Queue
import Payroute.Services.Webhooks

/-! # The commits of the services

For each operation, the changes of the committed tables one of its runs can make,
with what the run has checked for them: what it read under the lock it still
holds, and what it read earlier without one.
-/

namespace Payroute

open KeyedTable

namespace Database

/-- The account exists and has the currency. -/
def Denominates (db : Database) (id : AccountId) (currency : String) : Prop :=
  ∃ row, db.accounts.get? id = some row ∧ row.currency = currency

/-- The debits of a transaction that a compensation reverses. -/
def originalDebits (db : Database) (id : TransactionId) : List LedgerEntry :=
  (db.entriesOf id).filter fun entry => decide entry.IsOriginalDebit

/-- `hasBeenReversed`. -/
def HasReversal (db : Database) (id : TransactionId) : Prop :=
  ∃ entry ∈ db.entriesOf id, entry.isReversal = true

end Database

/-- Entries of a chargeback: none where the ledger is marked reversed. -/
def ChargesBack (db : Database) (row : Transaction) (entries : List LedgerEntry) : Prop :=
  db.HasReversal row.id ∧ entries = [] ∨
    ¬ db.HasReversal row.id ∧ ∃ paid refunded,
      db.Denominates row.recipientAccountId paid ∧ db.Denominates row.senderAccountId refunded ∧
      0 ≤ row.destinationAmount ∧
      entries.map LedgerEntry.terms =
        [debitTerms row.id row.recipientAccountId paid row.destinationAmount,
          creditTerms row.id row.senderAccountId refunded row.sourceAmount]

/-- Entries of a compensation: none where the ledger is marked reversed. -/
def ReturnsFunds (db : Database) (id : TransactionId) (entries : List LedgerEntry) : Prop :=
  db.HasReversal id ∧ entries = [] ∨
    ¬ db.HasReversal id ∧
      entries.map LedgerEntry.terms = (db.originalDebits id).map (reversalTerms id)

namespace Setting

variable (setting : Setting)

/-- A transaction as it was read without a lock after the program started. -/
def Read (db : Database) (id : TransactionId) (row : Transaction) : Prop :=
  ∃ earlier, setting.origin earlier ∧ setting.later earlier db ∧
    earlier.transactions.get? id = some row

theorem Since.later {setting : Setting} {first second : Database} (since : setting.Since first)
    (step : setting.later first second) : setting.Since second := by
  obtain ⟨origin, holds, earlier⟩ := since
  exact ⟨origin, holds, setting.later_trans _ _ _ earlier step⟩

theorem Read.later {setting : Setting} {first second : Database} {id : TransactionId}
    {row : Transaction} (read : setting.Read first id row) (step : setting.later first second) :
    setting.Read second id row := by
  obtain ⟨origin, holds, earlier, found⟩ := read
  exact ⟨origin, holds, setting.later_trans _ _ _ earlier step, found⟩

theorem Read.since {setting : Setting} {db : Database} {id : TransactionId} {row : Transaction}
    (read : setting.Read db id row) : setting.Since db := by
  obtain ⟨origin, holds, earlier, _⟩ := read
  exact ⟨origin, holds, earlier⟩

/-- The statement was permitted when the row was as it is. -/
def Permitted (statement : Statement) (id : TransactionId) (row : Transaction) : Prop :=
  ∃ seen : Database, seen.transactions.get? id = some row ∧ setting.permits seen (.sql statement)

end Setting

/-- The commit of `refundPayment`. -/
def Refunds (setting : Setting) (id : TransactionId) (first second : Database) : Prop :=
  ∃ row entries timestamp, setting.Since first ∧ first.transactions.get? id = some row ∧
    row.status.Allows TransactionStatus.reversed.text ∧
    (if row.status = .completed then ChargesBack first row entries
      else ReturnsFunds first id entries) ∧
    second = Settlement.apply
      { id := id
        entries := entries
        patches := [{ status := some .reversed }]
        history := [{ transactionId := id, fromState := some row.status.text
                      toState := TransactionStatus.reversed.text, timestamp := timestamp }] } first

/-- The commit of `resolveDispute` for `reverse`. -/
def Reverses (setting : Setting) (id : TransactionId) (first second : Database) : Prop :=
  ∃ row entries timestamp, setting.Since first ∧ first.transactions.get? id = some row ∧
    row.status.Allows TransactionStatus.reversed.text ∧ ChargesBack first row entries ∧
    second = Settlement.apply
      { id := id
        entries := entries
        patches := [{ status := some .reversed }]
        history := [{ transactionId := id, fromState := some row.status.text
                      toState := TransactionStatus.reversed.text, timestamp := timestamp }] } first

/-- The commit of `raiseDispute`, whose check was made without a lock. -/
def Raises (setting : Setting) (id : TransactionId) (first second : Database) : Prop :=
  ∃ row checked timestamp, first.transactions.get? id = some row ∧ setting.Read first id checked ∧
    checked.status.Allows TransactionStatus.disputed.text ∧
    setting.Permitted (.updateTransaction id { status := some .disputed }) id row ∧
    second = Settlement.apply
      { id := id
        patches := [{ status := some .disputed }]
        history := [{ transactionId := id, fromState := some checked.status.text
                      toState := TransactionStatus.disputed.text, timestamp := timestamp }] } first

/-- The commit of `resolveDispute` for `reject`, whose check was made without a lock. -/
def Rejects (setting : Setting) (id : TransactionId) (first second : Database) : Prop :=
  ∃ row checked timestamp, first.transactions.get? id = some row ∧ setting.Read first id checked ∧
    checked.status.Allows TransactionStatus.completed.text ∧
    setting.Permitted (.updateTransaction id { status := some .completed }) id row ∧
    second = Settlement.apply
      { id := id
        patches := [{ status := some .completed }]
        history := [{ transactionId := id, fromState := some TransactionStatus.disputed.text
                      toState := TransactionStatus.completed.text, timestamp := timestamp }] } first

/-- The commit of `resolveDispute`. -/
def Resolves (setting : Setting) (id : TransactionId) : ResolveAction → Database → Database → Prop
  | .reverse => Reverses setting id
  | .reject => Rejects setting id

/-- The tables after a delivery inserted its event row, where there was none. -/
def Setting.Arrived (setting : Setting) (payload : WebhookPayloadDto) (event : WebhookEvent)
    (db : Database) : Prop :=
  ∃ first, setting.origin first ∧
    first.webhookEvents.get? (payload.reference, payload.status) = none ∧
    event.providerReference = payload.reference ∧ event.eventType = payload.status ∧
    event.processed = false ∧ (∀ old ∈ first.webhookEvents.rows, old.id ≠ event.id) ∧
    setting.drift (first.write (.event event)) db

/-- The rows a delivery writes when it patches its event by the identifier. -/
def Setting.Marks (setting : Setting) (payload : WebhookPayloadDto) (patch : WebhookEventPatch)
    (db : Database) (events : List WebhookEvent) : Prop :=
  ∃ event seen, setting.Arrived payload event seen ∧ setting.drift seen db ∧
    events = ((seen.eventById event.id).map patch.apply).toList

/-- What looking up a reference returned, where this was permitted. -/
def Setting.LooksUp (setting : Setting) (reference : ProviderReference)
    (found : Option Transaction) (db : Database) : Prop :=
  ∃ seen : Database, seen.byReference reference = found ∧
    setting.permits seen (.sql (.lockTransactionByReference reference)) ∧ setting.holds seen ∧
    setting.drift seen db

theorem Setting.Arrived.drift {setting : Setting} {payload : WebhookPayloadDto}
    {event : WebhookEvent} {first second : Database} (arrived : setting.Arrived payload event first)
    (step : setting.drift first second) : setting.Arrived payload event second := by
  obtain ⟨origin, holds, absent, reference, status, unprocessed, unused, since⟩ := arrived
  exact ⟨origin, holds, absent, reference, status, unprocessed, unused,
    setting.drift_trans _ _ _ since step⟩

theorem Setting.Marks.drift {setting : Setting} {payload : WebhookPayloadDto}
    {patch : WebhookEventPatch} {first second : Database} {events : List WebhookEvent}
    (marks : setting.Marks payload patch first events) (step : setting.drift first second) :
    setting.Marks payload patch second events := by
  obtain ⟨event, seen, arrived, since, rows⟩ := marks
  exact ⟨event, seen, arrived, setting.drift_trans _ _ _ since step, rows⟩

theorem Setting.LooksUp.drift {setting : Setting} {reference : ProviderReference}
    {found : Option Transaction} {first second : Database}
    (looks : setting.LooksUp reference found first) (step : setting.drift first second) :
    setting.LooksUp reference found second := by
  obtain ⟨seen, read, permitted, known, since⟩ := looks
  exact ⟨seen, read, permitted, known, setting.drift_trans _ _ _ since step⟩

/-- What a delivery posts and how it patches the transaction. -/
def DeliverySettles (db : Database) (row : Transaction) (status : String)
    (entries : List LedgerEntry) (patches : List TransactionPatch) : Prop :=
  if status = "completed" then ∃ currency completedAt,
    db.Denominates row.recipientAccountId currency ∧
    entries.map LedgerEntry.terms =
      [creditTerms row.id row.recipientAccountId currency row.destinationAmount] ∧
    patches = [{ status := some .completed, completedAt := some completedAt }]
  else if status = "failed" then
    entries.map LedgerEntry.terms = (db.originalDebits row.id).map (reversalTerms row.id) ∧
    patches = [{ status := some .failed }]
  else entries = [] ∧ patches = []

/-- The commit of `processWebhook` that applies a delivery. -/
def Delivers (setting : Setting) (deployment : Deployment) (payload : WebhookPayloadDto)
    (rawBody : List UInt8) (signature : String) (first second : Database) : Prop :=
  WebhooksService.verifySignature deployment rawBody signature = true ∧
  ∃ row entries patches events processedAt timestamp,
    setting.Marks payload { processedAt := some processedAt } first events ∧
    setting.LooksUp payload.reference (some row) first ∧
    first.transactions.get? row.id = some row ∧ row.status.Allows payload.status ∧
    DeliverySettles first row payload.status entries patches ∧
    second = Settlement.apply
      { id := row.id
        entries := entries
        patches := patches
        history := [{ transactionId := row.id, fromState := some row.status.text
                      toState := payload.status, timestamp := timestamp }]
        events := events } first

/-- The commit of `processWebhook` for a reference it did not find. -/
def Misses (setting : Setting) (payload : WebhookPayloadDto) (first second : Database) : Prop :=
  ∃ events error, setting.Marks payload { error := some error } first events ∧
    setting.LooksUp payload.reference none first ∧
    second = Changes.apply { events := events } first

/-- The commit of `onProviderJobExhausted`. -/
def Exhausts (setting : Setting) (id : TransactionId) (first second : Database) : Prop :=
  ∃ row entries timestamp, setting.Since first ∧ first.transactions.get? id = some row ∧
    row.status = .processing ∧ ReturnsFunds first id entries ∧
    second = Settlement.apply
      { id := id
        entries := entries
        patches := [{ status := some .failed }]
        history := [{ transactionId := id, fromState := some TransactionStatus.processing.text
                      toState := TransactionStatus.failed.text, timestamp := timestamp }] } first

/-- The update of `ProviderProcessor.process`, whose check was made without a lock. -/
def Assigns (setting : Setting) (id : TransactionId) (first second : Database) : Prop :=
  ∃ checked reference, setting.Read first id checked ∧ ProviderProcessor.eligible checked ∧
    setting.floor ≤ reference ∧
    second = Settlement.apply
      { id := id, patches := [{ providerReference := some reference }] } first

/-- The changes that open a payment and reserve its funds. -/
def openingOf (quote : FxQuote) (row : Transaction) (entry : LedgerEntry) (opened reserved : Nat) :
    Changes where
  quotes := [quote]
  opened := [row]
  patches := [(row.id, { status := some .processing })]
  adjustments := [(entry.accountId, entry.amount)]
  entries := [entry]
  history := [{ transactionId := row.id, fromState := none
                toState := TransactionStatus.initiated.text, timestamp := opened },
              { transactionId := row.id, fromState := some TransactionStatus.initiated.text
                toState := TransactionStatus.processing.text, timestamp := reserved }]

/-- The commit of `createPayment` that inserts the row. -/
def Creates (setting : Setting) (dto : CreatePaymentDto) (row : Transaction)
    (first second : Database) : Prop :=
  ∃ (quote : FxQuote) (entry : LedgerEntry) (opened reserved : Nat),
    setting.Since first ∧
    first.transactions.get? row.id = none ∧ first.entriesOf row.id = [] ∧
    first.historyOf row.id = [] ∧
    row.senderAccountId = dto.senderAccountId ∧
    row.recipientAccountId = dto.recipientAccountId ∧
    row.sourceCurrency = dto.sourceCurrency ∧
    row.destinationCurrency = dto.destinationCurrency ∧
    row.sourceAmount = dto.amount ∧ 0 ≤ row.destinationAmount ∧ row.status = .initiated ∧
    row.providerReference = none ∧
    first.Denominates dto.senderAccountId dto.sourceCurrency ∧
    entry.terms = debitTerms row.id dto.senderAccountId dto.sourceCurrency dto.amount ∧
    second = (openingOf quote row entry opened reserved).apply first

/-- The checks of `createPayment` against the limits, made on the tables `seen` for the
day that began at `start`. -/
structure Limited (deployment : Deployment) (dto : CreatePaymentDto) (start : Nat)
    (seen : Database) : Prop where
  amount : dto.amount ≤ deployment.maxAmountPerTransaction
  count : (seen.outgoing dto.senderAccountId start).length <
    deployment.maxPaymentsPerAccountPerDay
  volume : ¬ deployment.arithmetic.Exceeds
    ((seen.outgoing dto.senderAccountId start).map Transaction.sourceAmount).sum dto.amount
    deployment.maxDailyVolumePerAccount

/-- What the setting knows of the calls of `createPayment` that ask for the volume and
insert the row, where its transaction began at `startedAt` on the tables `seen`. -/
structure Dated (setting : Setting) (dto : CreatePaymentDto) (startedAt start : Nat)
    (seen : Database) : Prop where
  looked : setting.dated startedAt seen (.sql (.select (.outgoingVolume dto.senderAccountId start)))
  inserted : ∃ draft : TransactionDraft, draft.senderAccountId = dto.senderAccountId ∧
    draft.sourceAmount = numberText dto.amount ∧
    setting.dated startedAt seen (.sql (.insertTransaction draft))

/-- What `createPayment` has checked when it commits. Its transaction began on the tables
`seen`, the sender's account has not changed since, and the limits were checked when
the clock showed `clock`. -/
def Checked (setting : Setting) (deployment : Deployment) (dto : CreatePaymentDto)
    (row : Transaction) (first : Database) : Prop :=
  ∃ (seen : Database) (clock : Nat), setting.holds seen ∧ setting.drift seen first ∧
    setting.timely clock ∧ setting.timely row.createdAt ∧
    first.accounts.get? dto.senderAccountId = seen.accounts.get? dto.senderAccountId ∧
    first.Denominates dto.recipientAccountId dto.destinationCurrency ∧
    Limited deployment dto (PaymentsService.startOfDay clock) seen ∧
    Dated setting dto row.createdAt (PaymentsService.startOfDay clock) seen

end Payroute
