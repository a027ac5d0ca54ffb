import Payroute.Books.Balances
import Payroute.Commits.Refinement
import Payroute.Runs.Serial

/-! # The ledger is well formed

Every entry belongs to the sender's or the recipient's side of its payment, in the
currency and the amount of that side, and entries are only ever appended.
-/

namespace Payroute

open EffectSystem KeyedTable

/-- What an entry of the payment may look like. -/
structure Transaction.Owns (row : Transaction) (terms : EntryTerms) : Prop where
  side : terms.accountId = row.senderAccountId ∨ terms.accountId = row.recipientAccountId
  sent : terms.accountId = row.senderAccountId →
    terms.currency = row.sourceCurrency ∧ terms.amount.natAbs = row.sourceAmount
  received : terms.accountId = row.recipientAccountId →
    terms.currency = row.destinationCurrency ∧ terms.amount.natAbs = row.destinationAmount
  debit : terms.entryType = .debit → terms.amount ≤ 0
  credit : terms.entryType = .credit → 0 ≤ terms.amount
  reversal : terms.isReversal = true → terms.entryType = .credit

/-- The two sides of a payment are accounts in its two currencies. -/
structure Database.Sides (db : Database) (row : Transaction) : Prop where
  differ : row.senderAccountId ≠ row.recipientAccountId
  source : 0 ≤ row.sourceAmount
  destination : 0 ≤ row.destinationAmount
  sender : db.Denominates row.senderAccountId row.sourceCurrency
  recipient : db.Denominates row.recipientAccountId row.destinationCurrency

/-- The entry belongs to a payment that owns it. -/
def Database.Owned (db : Database) (entry : LedgerEntry) : Prop :=
  ∃ row, db.transactions.get? entry.transactionId = some row ∧ row.Owns entry.terms

/-- Payments have their sides and entries their payments. -/
structure Database.WellFormed (db : Database) : Prop where
  sides : ∀ id row, db.transactions.get? id = some row → db.Sides row
  owned : ∀ entry ∈ db.ledgerEntries, db.Owned entry

/-- Only the columns that no update touches matter. -/
theorem Transaction.Owns.of_terms {row later : Transaction} {terms : EntryTerms}
    (owns : row.Owns terms) (same : later.terms = row.terms) : later.Owns terms := by
  have columns : row.terms.Owns terms :=
    ⟨owns.side, owns.sent, owns.received, owns.debit, owns.credit, owns.reversal⟩
  rw [← same] at columns
  exact ⟨columns.side, columns.sent, columns.received, columns.debit, columns.credit,
    columns.reversal⟩

namespace Database

variable {first second : Database} {row : Transaction} {id : TransactionId}

theorem Sides.persists (sides : first.Sides row) (persists : first.Persists second)
    {later : Transaction} (same : later.terms = row.terms) : second.Sides later := by
  have columns : second.Sides row.terms :=
    ⟨sides.differ, sides.source, sides.destination, sides.sender.persists persists,
      sides.recipient.persists persists⟩
  rw [← same] at columns
  exact ⟨columns.differ, columns.source, columns.destination, columns.sender, columns.recipient⟩

theorem Owned.persists {entry : LedgerEntry} (owned : first.Owned entry)
    (persists : first.Persists second) : second.Owned entry := by
  obtain ⟨row, found, owns⟩ := owned
  obtain ⟨later, there, same⟩ := persists.transaction _ row found
  exact ⟨later, there, owns.of_terms same⟩

/-! ## What the services post -/

/-- A debit or a credit of so many units has the sign of its type. -/
theorem signs_of_units {terms : EntryTerms} {units : Int} (nonneg : 0 ≤ units)
    (amount : terms.entryType = .debit ∧ terms.amount = -units ∨
      terms.entryType = .credit ∧ terms.amount = units) :
    terms.amount.natAbs = units ∧ (terms.entryType = .debit → terms.amount ≤ 0) ∧
      (terms.entryType = .credit → 0 ≤ terms.amount) := by
  rcases amount with ⟨debit, amount⟩ | ⟨credit, amount⟩
  · refine ⟨by omega, fun _ => by omega, fun kind => ?_⟩
    rw [debit] at kind
    cases kind
  · refine ⟨by omega, fun kind => ?_, fun _ => by omega⟩
    rw [credit] at kind
    cases kind

/-- A posting on the sender's side. -/
theorem Sides.owns_source (sides : first.Sides row) {terms : EntryTerms}
    (account : terms.accountId = row.senderAccountId)
    (currency : terms.currency = row.sourceCurrency)
    (amount : terms.entryType = .debit ∧ terms.amount = -row.sourceAmount ∨
      terms.entryType = .credit ∧ terms.amount = row.sourceAmount)
    (reversal : terms.isReversal = true → terms.entryType = .credit) : row.Owns terms := by
  obtain ⟨units, debit, credit⟩ := signs_of_units sides.source amount
  refine ⟨.inl account, fun _ => ⟨currency, units⟩, fun other => ?_, debit, credit, reversal⟩
  exact (sides.differ (account.symm.trans other)).elim

/-- A posting on the recipient's side. -/
theorem Sides.owns_destination (sides : first.Sides row) {terms : EntryTerms}
    (account : terms.accountId = row.recipientAccountId)
    (currency : terms.currency = row.destinationCurrency)
    (amount : terms.entryType = .debit ∧ terms.amount = -row.destinationAmount ∨
      terms.entryType = .credit ∧ terms.amount = row.destinationAmount)
    (reversal : terms.isReversal = true → terms.entryType = .credit) : row.Owns terms := by
  obtain ⟨units, debit, credit⟩ := signs_of_units sides.destination amount
  refine ⟨.inr account, fun other => ?_, fun _ => ⟨currency, units⟩, debit, credit, reversal⟩
  exact (sides.differ (other.symm.trans account)).elim

/-- The reversal of an owned debit, whichever side it is on. -/
theorem reversal_owned {debit : LedgerEntry} (owns : row.Owns debit.terms) :
    row.Owns (reversalTerms id debit) := by
  obtain ⟨side, sent, received, _, _, _⟩ := owns
  refine ⟨side, fun account => ?_, fun account => ?_, fun kind => ?_, fun _ => ?_, fun _ => rfl⟩
  · obtain ⟨currency, amount⟩ := sent account
    exact ⟨currency, amount⟩
  · obtain ⟨currency, amount⟩ := received account
    exact ⟨currency, amount⟩
  · cases kind
  · exact Int.natCast_nonneg _

/-- The entries of a compensation. -/
theorem WellFormed.reversals (formed : first.WellFormed)
    (found : first.transactions.get? id = some row) {terms : EntryTerms}
    (member : terms ∈ (first.originalDebits id).map (reversalTerms id)) :
    terms.transactionId = id ∧ row.Owns terms := by
  obtain ⟨debit, listed, rfl⟩ := List.mem_map.mp member
  obtain ⟨entered, own⟩ := List.mem_filter.mp (List.mem_filter.mp listed).1
  obtain ⟨owner, there, owns⟩ := formed.owned debit entered
  rw [of_decide_eq_true own] at there
  rw [found] at there
  cases there
  exact ⟨rfl, reversal_owned owns⟩

/-- The entries of a chargeback. -/
theorem Sides.chargeBack (sides : first.Sides row) {entries : List LedgerEntry}
    (charges : ChargesBack first row entries) {terms : EntryTerms}
    (member : terms ∈ entries.map LedgerEntry.terms) :
    terms.transactionId = row.id ∧ row.Owns terms := by
  rcases charges with ⟨_, rfl⟩ | ⟨_, paid, refunded, recipient, sender, _, posted⟩
  · cases member
  · rw [posted] at member
    rcases List.mem_cons.mp member with rfl | last
    · exact ⟨rfl, sides.owns_destination rfl (recipient.unique sides.recipient) (.inl ⟨rfl, rfl⟩)
        fun absurd => by cases absurd⟩
    · rw [List.mem_singleton.mp last]
      exact ⟨rfl, sides.owns_source rfl (sender.unique sides.sender) (.inr ⟨rfl, rfl⟩)
        fun absurd => by cases absurd⟩

theorem WellFormed.returnFunds (formed : first.WellFormed)
    (found : first.transactions.get? id = some row) {entries : List LedgerEntry}
    (returns : ReturnsFunds first id entries) {terms : EntryTerms}
    (member : terms ∈ entries.map LedgerEntry.terms) :
    terms.transactionId = id ∧ row.Owns terms := by
  rcases returns with ⟨_, rfl⟩ | ⟨_, posted⟩
  · cases member
  · rw [posted] at member
    exact formed.reversals found member

/-! ## Commits -/

/-- What stays well formed while entries are appended. -/
theorem WellFormed.appends (formed : first.WellFormed) (persists : first.Persists second)
    (sides : ∀ id row, second.transactions.get? id = some row →
      first.transactions.get? id = none → second.Sides row)
    {entries : List LedgerEntry} (appended : second.ledgerEntries = first.ledgerEntries ++ entries)
    (owned : ∀ entry ∈ entries, second.Owned entry) : second.WellFormed where
  sides := by
    intro id row found
    cases before : first.transactions.get? id with
    | none => exact sides id row found before
    | some old =>
        obtain ⟨later, there, same⟩ := persists.transaction id old before
        rw [found] at there
        cases there
        exact (formed.sides id old before).persists persists same
  owned := by
    intro entry member
    rw [appended] at member
    rcases List.mem_append.mp member with old | new
    · exact (formed.owned entry old).persists persists
    · exact owned entry new

theorem WellFormed.sameBooks (formed : first.WellFormed) (same : first.SameBooks second) :
    second.WellFormed := by
  refine formed.appends same.persists (fun id row found absent => ?_)
    (same.ledgerEntries.trans (List.append_nil _).symm) fun _ member => by cases member
  rw [same.transactions, absent] at found
  cases found

/-- A settlement whose entries belong to its payment. -/
theorem WellFormed.settles (formed : first.WellFormed) {settlement : Settlement}
    (owned : ∀ terms ∈ settlement.entries.map LedgerEntry.terms,
      ∃ row, first.transactions.get? settlement.id = some row ∧
        terms.transactionId = settlement.id ∧ row.Owns terms) :
    (settlement.apply first).WellFormed := by
  have persists : first.Persists (settlement.apply first) :=
    Changes.persists fun row member => by cases member
  refine formed.appends persists (fun id row found absent => ?_) rfl fun entry member => ?_
  · rw [Settlement.get?_apply, absent, Option.map_none, ite_self] at found
    cases found
  · obtain ⟨row, found, named, owns⟩ := owned entry.terms (List.mem_map_of_mem member)
    refine Owned.persists ⟨row, ?_, owns⟩ persists
    change entry.transactionId = settlement.id at named
    rw [named]
    exact found

/-- A settlement without entries. -/
theorem WellFormed.rests (formed : first.WellFormed) {settlement : Settlement}
    (none : settlement.entries = []) : (settlement.apply first).WellFormed := by
  apply formed.settles
  intro terms member
  rw [none] at member
  cases member

end Database

section Commits

variable {setting : Setting} {deployment : Deployment} {first second : Database}
  {id : TransactionId} {row : Transaction}

theorem Refunds.wellFormed (refunds : Refunds setting id first second) (formed : first.WellFormed) :
    second.WellFormed := by
  obtain ⟨row, entries, timestamp, _, found, _, posts, rfl⟩ := refunds
  have named : row.id = id := Table.key_of_get? found
  subst named
  apply formed.settles
  intro terms member
  refine ⟨row, found, ?_⟩
  by_cases completed : row.status = .completed
  · rw [if_pos completed] at posts
    exact (formed.sides _ _ found).chargeBack posts member
  · rw [if_neg completed] at posts
    exact formed.returnFunds found posts member

theorem Reverses.wellFormed (reverses : Reverses setting id first second)
    (formed : first.WellFormed) : second.WellFormed := by
  obtain ⟨row, entries, timestamp, _, found, _, posts, rfl⟩ := reverses
  have named : row.id = id := Table.key_of_get? found
  subst named
  apply formed.settles
  intro terms member
  exact ⟨row, found, (formed.sides _ _ found).chargeBack posts member⟩

theorem Exhausts.wellFormed (exhausts : Exhausts setting id first second)
    (formed : first.WellFormed) : second.WellFormed := by
  obtain ⟨row, entries, timestamp, _, found, _, returns, rfl⟩ := exhausts
  apply formed.settles
  intro terms member
  exact ⟨row, found, formed.returnFunds found returns member⟩

theorem Delivers.wellFormed {payload : WebhookPayloadDto} {rawBody : List UInt8}
    {signature : String}
    (delivers : Delivers setting deployment payload rawBody signature first second)
    (formed : first.WellFormed) : second.WellFormed := by
  obtain ⟨_, row, entries, patches, events, _, timestamp, _, _, found, _, settles, rfl⟩ := delivers
  apply formed.settles
  intro terms member
  refine ⟨row, found, ?_⟩
  unfold DeliverySettles at settles
  by_cases completed : payload.status = "completed"
  · rw [if_pos completed] at settles
    obtain ⟨currency, completedAt, paid, posted, _⟩ := settles
    change terms ∈ entries.map LedgerEntry.terms at member
    rw [posted] at member
    rw [List.mem_singleton.mp member]
    have sides := formed.sides _ _ found
    exact ⟨rfl, sides.owns_destination rfl (paid.unique sides.recipient) (.inr ⟨rfl, rfl⟩)
      fun absurd => by cases absurd⟩
  · rw [if_neg completed] at settles
    by_cases failed : payload.status = "failed"
    · rw [if_pos failed] at settles
      change terms ∈ entries.map LedgerEntry.terms at member
      rw [settles.1] at member
      exact formed.reversals found member
    · rw [if_neg failed] at settles
      rw [settles.1] at member
      cases member

theorem Creates.wellFormed {dto : CreatePaymentDto}
    (creates : Creates setting dto row first second)
    (checked : Checked setting deployment dto row first) (formed : first.WellFormed) :
    second.WellFormed := by
  obtain ⟨_, _, _, _, _, _, _, recipient, _⟩ := checked
  obtain ⟨quote, entry, opened, reserved, _, absent, _, _, sender, received, source, destination,
    amount, nonneg, _, _, currency, terms, rfl⟩ := creates
  have persists : first.Persists ((openingOf quote row entry opened reserved).apply first) := by
    apply Changes.persists
    intro new member
    rw [List.mem_singleton.mp member]
    exact absent
  have sides : ((openingOf quote row entry opened reserved).apply first).Sides row := by
    constructor
    · rw [sender, received]
      exact dto.notSelfPayment
    · rw [amount]
      exact Int.natCast_nonneg _
    · exact nonneg
    · rw [sender, source]
      exact currency.persists persists
    · rw [received, destination]
      exact recipient.persists persists
  refine formed.appends persists (fun id found there before => ?_) rfl fun posted member => ?_
  · rw [get?_opening] at there
    by_cases same : id = row.id
    · rw [if_pos same] at there
      cases there
      exact ⟨sides.differ, sides.source, sides.destination, sides.sender, sides.recipient⟩
    · rw [if_neg same, before] at there
      cases there
  · rw [List.mem_singleton.mp member]
    have owner : entry.transactionId = row.id := congrArg EntryTerms.transactionId terms
    refine ⟨_, (get?_opening ..).trans (if_pos owner), ?_⟩
    rw [terms]
    have owns : row.Owns (debitTerms row.id dto.senderAccountId dto.sourceCurrency dto.amount) := by
      refine sides.owns_source sender.symm source.symm (.inl ⟨rfl, ?_⟩) fun absurd => by
        cases absurd
      rw [amount]
      rfl
    exact owns.of_terms rfl

/-- Every commit keeps the ledger well formed. -/
theorem Command.Commits.wellFormed {command : Command}
    (commits : command.Commits setting deployment first second) (formed : first.WellFormed) :
    second.WellFormed := by
  cases command with
  | createPayment dto idempotencyKey =>
      obtain ⟨row, creates, checked⟩ := commits
      exact creates.wellFormed checked formed
  | process data =>
      obtain ⟨_, reference, _, _, _, rfl⟩ := commits
      exact formed.rests rfl
  | processWebhook payload rawBody signature =>
      rcases commits with misses | delivers
      · exact formed.sameBooks misses.books
      · exact delivers.wellFormed formed
  | onProviderJobExhausted jobId failedReason =>
      obtain ⟨id, exhausts⟩ := commits
      exact exhausts.wellFormed formed
  | refundPayment id dto => exact Refunds.wellFormed commits formed
  | raiseDispute id dto =>
      obtain ⟨_, _, _, _, _, _, _, rfl⟩ := commits
      exact formed.rests rfl
  | resolveDispute id dto =>
      obtain ⟨action⟩ := dto
      cases action with
      | reverse => exact Reverses.wellFormed commits formed
      | reject =>
          obtain ⟨_, _, _, _, _, _, _, rfl⟩ := commits
          exact formed.rests rfl
  | retryStuckPayments => exact commits.elim
  | cleanupExpiredIdempotencyKeys => exact commits.elim
  | cleanupOldProcessedWebhookEvents => exact commits.elim

end Commits

theorem Database.wellFormed_of_empty {db : Database} (empty : db.transactions.rows = [])
    (unposted : db.ledgerEntries = []) : db.WellFormed where
  sides := by
    intro id row found
    have member := Table.mem_of_get? found
    rw [empty] at member
    cases member
  owned := by
    intro entry member
    rw [unposted] at member
    cases member

/-- Concurrent operations leave the ledger well formed. -/
theorem Command.pool_wellFormed {deployment : Deployment} {admitted : Command → Prop}
    {initial : World} (rest : initial.AtRest) (formed : initial.db.WellFormed)
    {pool : Pool ProcessId Failure Operation.Reply World}
    (reached : Pool.Reachable backend (surroundings (Command.Starts deployment admitted)) initial
      pool) : pool.shared.db.WellFormed :=
  Command.pool_keeps (fun db => db.WellFormed)
    (fun _ _ beside formed => formed.sameBooks beside.books)
    (fun _ _ _ _ commits _ formed => commits.wellFormed formed) (Setting.valid_quiet rest) formed
    (Setting.steps_of_backend concurrent_unguarded reached)

/-- In every state that concurrent operations commit, each ledger entry belongs to a
payment and to an account on one of its sides, in the currency and the amount of that
side, and it stays what it is in every later state. -/
theorem ledger_wellFormed (deployment : Deployment) {initial : World} (rest : initial.AtRest)
    (empty : initial.db.transactions.rows = []) (unposted : initial.db.ledgerEntries = [])
    {pool : Pool ProcessId Failure Operation.Reply World}
    (reached : Pool.Reachable backend (surroundings (Command.Starts deployment fun _ => True))
      initial pool) :
    (∀ entry ∈ pool.shared.db.ledgerEntries, ∃ row account,
      pool.shared.db.transactions.get? entry.transactionId = some row ∧
      pool.shared.db.accounts.get? entry.accountId = some account ∧
      entry.currency = account.currency ∧ row.Owns entry.terms) ∧
    ∀ later, Pool.Steps backend
      (surroundings (Command.Starts deployment fun _ => True)) pool later →
      pool.shared.db.ledgerEntries <+: later.shared.db.ledgerEntries := by
  have formed := Command.pool_wellFormed rest (Database.wellFormed_of_empty empty unposted) reached
  constructor
  · intro entry member
    obtain ⟨row, found, owns⟩ := formed.owned entry member
    have sides := formed.sides _ row found
    rcases owns.side with sender | recipient
    · obtain ⟨account, there, currency⟩ := sides.sender
      refine ⟨row, account, found, ?_, ?_, owns⟩
      · change entry.accountId = row.senderAccountId at sender
        rw [sender]
        exact there
      · rw [currency]
        exact (owns.sent sender).1
    · obtain ⟨account, there, currency⟩ := sides.recipient
      refine ⟨row, account, found, ?_, ?_, owns⟩
      · change entry.accountId = row.recipientAccountId at recipient
        rw [recipient]
        exact there
      · rw [currency]
        exact (owns.received recipient).1
  · intro later onward
    have steps := Setting.steps_of_backend concurrent_unguarded reached
    have shared := guarded_shared (fun _ _ => True)
      (Command.CommitsOf concurrent deployment fun _ => True)
    have valid := (Pool.Valid.steps (shared.compatible
      (Command.starts_outside shared fun _ _ made => made)) (Setting.valid_quiet rest) steps).1
    refine Command.pool_keeps (fun db => pool.shared.db.ledgerEntries <+: db.ledgerEntries) ?_ ?_
      valid (List.prefix_refl _) (Setting.steps_of_backend concurrent_unguarded onward)
    · intro first second beside grown
      rw [beside.books.ledgerEntries]
      exact grown
    · intro command first second _ commits _ grown
      obtain ⟨changes, _, rfl⟩ := commits.posts
      exact grown.trans (List.prefix_append ..)

/-- A payment is created, submitted and completed. -/
def sampleSettled : List Turn :=
  [{ who := 0, starts := some (.createPayment samplePayment "key") },
    { who := 1, starts := some (.process sampleJob) },
    { who := 2, starts := some (.processWebhook ⟨0, "completed"⟩ [] "secret") }]

/-- The completed payment is charged back. -/
def sampleChargeBack : List Turn := [{ who := 3, starts := some (.refundPayment 0 ⟨"late"⟩) }]

theorem ledger_wellFormed_sample :
    let pool := takeTurns backend sampleDeployment sampleSettled (Pool.quiet sampleWorld)
    let later := takeTurns backend sampleDeployment sampleChargeBack pool
    (∀ entry ∈ pool.shared.db.ledgerEntries, ∃ row account,
      pool.shared.db.transactions.get? entry.transactionId = some row ∧
      pool.shared.db.accounts.get? entry.accountId = some account ∧
      entry.currency = account.currency ∧ row.Owns entry.terms) ∧
    pool.shared.db.ledgerEntries <+: later.shared.db.ledgerEntries := by
  intro pool later
  have reached : Pool.Steps backend
      (surroundings (Command.Starts sampleDeployment fun _ => True))
        (Pool.quiet sampleWorld) pool :=
    takeTurns_commands (by decide +kernel) fun _ _ _ _ => trivial
  have onward : Pool.Steps backend
      (surroundings (Command.Starts sampleDeployment fun _ => True)) pool later :=
    takeTurns_commands (by decide +kernel) fun _ _ _ _ => trivial
  obtain ⟨owned, grows⟩ := ledger_wellFormed sampleDeployment sampleWorld_atRest rfl rfl reached
  exact ⟨owned, grows later onward⟩

end Payroute
