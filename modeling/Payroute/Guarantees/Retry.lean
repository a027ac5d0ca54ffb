import Payroute.Guarantees.Refunds
import Payroute.Runs.Delivery

/-! # Deliveries after one that failed

The event row of a delivery is committed before the transaction that does the work. A
delivery whose transaction fails leaves the row, and the next one takes its event for a
known one. It does what it would have done without the failed delivery exactly where that
is nothing.
-/

namespace Payroute

open EffectSystem KeyedTable

/-- A payment in progress has its funds reserved and nothing else posted. -/
def Dossier.Pending (dossier : Dossier) : Prop :=
  dossier.row.status = .processing → dossier.Lawful

section Commits

variable {setting : Setting} {first second : Database} {id : TransactionId}

/-- A settlement that leaves no payment in progress. -/
theorem Settlement.pending {settlement : Settlement} (own : settlement.Own)
    (settles : ∀ old : Dossier, (settlement.advance old).row.status ≠ .processing)
    (each : first.Each Dossier.Pending) : (settlement.apply first).Each Dossier.Pending :=
  Settlement.each own each fun _ _ processing => (settles _ processing).elim

theorem Refunds.pending (refunds : Refunds setting id first second)
    (each : first.Each Dossier.Pending) : second.Each Dossier.Pending := by
  obtain ⟨row, entries, timestamp, _, found, allowed, posts, rfl⟩ := refunds
  have named : row.id = id := Table.key_of_get? found
  have own : ∀ entry ∈ entries, entry.transactionId = id := by
    by_cases completed : row.status = .completed
    · rw [if_pos completed] at posts
      rw [← named]
      exact posts.own
    · rw [if_neg completed] at posts
      exact posts.own
  refine Settlement.pending ⟨own, history_own⟩ (fun old => ?_) each
  change TransactionStatus.reversed ≠ .processing
  decide

theorem Resolves.pending {action : ResolveAction}
    (resolves : Resolves setting id action first second)
    (each : first.Each Dossier.Pending) : second.Each Dossier.Pending := by
  cases action with
  | reverse =>
      obtain ⟨row, entries, timestamp, _, found, _, posts, rfl⟩ := resolves
      have named : row.id = id := Table.key_of_get? found
      subst named
      refine Settlement.pending ⟨posts.own, history_own⟩ (fun old => ?_) each
      change TransactionStatus.reversed ≠ .processing
      decide
  | reject =>
      obtain ⟨row, checked, timestamp, found, _, _, _, rfl⟩ := resolves
      refine Settlement.pending ⟨no_entries, history_own⟩ (fun old => ?_) each
      change TransactionStatus.completed ≠ .processing
      decide

theorem Raises.pending (raises : Raises setting id first second)
    (each : first.Each Dossier.Pending) : second.Each Dossier.Pending := by
  obtain ⟨row, checked, timestamp, found, _, _, _, rfl⟩ := raises
  refine Settlement.pending ⟨no_entries, history_own⟩ (fun old => ?_) each
  change TransactionStatus.disputed ≠ .processing
  decide

theorem Exhausts.pending (exhausts : Exhausts setting id first second)
    (each : first.Each Dossier.Pending) : second.Each Dossier.Pending := by
  obtain ⟨row, entries, timestamp, _, found, _, returns, rfl⟩ := exhausts
  refine Settlement.pending ⟨returns.own, history_own⟩ (fun old => ?_) each
  change TransactionStatus.failed ≠ .processing
  decide

/-- Storing a reference changes neither status nor postings. -/
theorem Assigns.pending (assigns : Assigns setting id first second)
    (each : first.Each Dossier.Pending) : second.Each Dossier.Pending := by
  obtain ⟨checked, reference, _, _, _, rfl⟩ := assigns
  refine Settlement.each Settlement.own_patches each fun old there processing => ?_
  refine (each id old there processing).stays rfl ?_
  change (_, List.map _ (old.entries ++ [])) = _
  rw [List.append_nil]
  rfl

theorem Creates.pending {dto : CreatePaymentDto} {row : Transaction}
    (creates : Creates setting dto row first second) (each : first.Each Dossier.Pending) :
    second.Each Dossier.Pending := by
  obtain ⟨entry, opened, reserved, after, others, posting⟩ := creates.opens
  obtain ⟨parties, nonneg⟩ := creates.parties
  refine each.of_changed after others fun _ => ⟨parties, nonneg, ?_⟩
  change Booked _ _ [entry.posting]
  rw [posting]
  exact .processing

theorem Delivers.pending {deployment : Deployment} {payload : WebhookPayloadDto}
    {rawBody : List UInt8} {signature : String}
    (delivers : Delivers setting deployment payload rawBody signature first second)
    (each : first.Each Dossier.Pending) : second.Each Dossier.Pending := by
  obtain ⟨_, row, entries, patches, events, _, timestamp, _, _, found, _, settles, rfl⟩ := delivers
  unfold DeliverySettles at settles
  by_cases completed : payload.status = "completed"
  · rw [if_pos completed] at settles
    obtain ⟨currency, completedAt, _, terms, rfl⟩ := settles
    refine Settlement.pending ⟨credit_own terms, history_own⟩ (fun old => ?_) each
    change TransactionStatus.completed ≠ .processing
    decide
  · rw [if_neg completed] at settles
    by_cases failed : payload.status = "failed"
    · rw [if_pos failed] at settles
      obtain ⟨terms, rfl⟩ := settles
      refine Settlement.pending ⟨reversals_own terms, history_own⟩ (fun old => ?_) each
      change TransactionStatus.failed ≠ .processing
      decide
    · rw [if_neg failed] at settles
      obtain ⟨rfl, rfl⟩ := settles
      refine Settlement.each ⟨no_entries, history_own⟩ each fun old there processing => ?_
      refine (each row.id old there processing).stays rfl ?_
      change (_, List.map _ (old.entries ++ [])) = _
      rw [List.append_nil]
      rfl

end Commits

/-- Every commit leaves the payments in progress as they were reserved. -/
theorem Command.Commits.pending {setting : Setting} {deployment : Deployment} {command : Command}
    {first second : Database} (commits : command.Commits setting deployment first second)
    (each : first.Each Dossier.Pending) : second.Each Dossier.Pending := by
  cases command with
  | createPayment dto idempotencyKey =>
      obtain ⟨row, creates, _⟩ := commits
      exact creates.pending each
  | process data => exact Assigns.pending commits each
  | processWebhook payload rawBody signature =>
      rcases commits with misses | delivers
      · exact each.sameBooks misses.books
      · exact delivers.pending each
  | onProviderJobExhausted jobId failedReason =>
      obtain ⟨id, exhausts⟩ := commits
      exact exhausts.pending each
  | refundPayment id dto => exact Refunds.pending commits each
  | raiseDispute id dto => exact Raises.pending commits each
  | resolveDispute id dto => exact Resolves.pending commits each
  | retryStuckPayments => exact commits.elim
  | cleanupExpiredIdempotencyKeys => exact commits.elim
  | cleanupOldProcessedWebhookEvents => exact commits.elim

/-- What concurrent operations leave, whatever they are. -/
structure Database.Kept (db : Database) : Prop where
  constrained : db.Constrained
  anchored : db.Anchored
  pending : db.Each Dossier.Pending

theorem Database.kept_of_empty {db : Database} (constrained : db.Constrained)
    (empty : db.transactions.rows = []) : db.Kept := by
  refine ⟨constrained, Database.anchored_of_empty empty, fun id dossier found => ?_⟩
  have member := Table.mem_of_get? (get?_of_dossier found).1
  rw [empty] at member
  cases member

/-- The tables after any interleaving. -/
theorem Database.Kept.of_reachable {deployment : Deployment} {initial : World}
    (rest : initial.AtRest) (kept : initial.db.Kept)
    {pool : Pool ProcessId Failure Operation.Reply World}
    (reached : Pool.Reachable backend (surroundings (Command.Starts deployment fun _ => True))
      initial pool) : pool.shared.Sound ∧ pool.shared.db.Kept := by
  have steps := Setting.steps_of_backend concurrent_unguarded reached
  have shared := guarded_shared (fun _ _ => True)
    (Command.CommitsOf concurrent deployment fun _ => True)
  have compatible := shared.compatible (Command.starts_outside shared fun _ _ made => made)
  have valid : concurrent.Valid _ _ pool :=
    (Pool.Valid.steps compatible (Setting.valid_quiet rest) steps).1
  refine ⟨valid.inv, ?_⟩
  refine Command.pool_keeps (fun db => db.Kept) ?_ ?_ (Setting.valid_quiet rest) kept steps
  · intro first second beside held
    refine ⟨?_, held.anchored.sameBooks beside.books, held.pending.sameBooks beside.books⟩
    unfold Database.Constrained
    rw [beside.books.accounts]
    exact held.constrained
  · exact fun command first second _ commits solvent held => ⟨held.constrained.solvent solvent,
      commits.anchored held.anchored, commits.pending held.pending⟩

/-! ## The next delivery -/

/-- The books are the same, but for the identifiers and times of entries. -/
structure Database.SameEffect (first second : Database) : Prop where
  accounts : second.accounts = first.accounts
  transactions : second.transactions = first.transactions
  ledgerEntries : second.ledgerEntries.map LedgerEntry.terms =
    first.ledgerEntries.map LedgerEntry.terms
  stateHistory : second.stateHistory = first.stateHistory

/-- What a delivery leaves when it runs alone. -/
def delivered (deployment : Deployment) (payload : WebhookPayloadDto) (who : ProcessId)
    (rawBody : List UInt8) (signature : String) (choices : List Delivery) (world : World) : World :=
  (backend.run who (WebhooksService.processWebhook deployment payload rawBody signature) choices
    world).state

/-- A validly signed delivery stores its event row and fails, and its transaction is
rolled back. -/
structure Aborts (deployment : Deployment) (payload : WebhookPayloadDto) (who : ProcessId)
    (rawBody : List UInt8) (signature : String) (choices : List Delivery) (world : World) :
    Prop where
  valid : WebhooksService.verifySignature deployment rawBody signature = true
  stored : ∃ event, (backend.run who (storing deployment payload rawBody signature) choices
    world).outcome = .ok (some event)
  failed : ∃ error, (backend.run who
    (WebhooksService.processWebhook deployment payload rawBody signature) choices
      world).outcome = .error error
  rolledBack : world.db.SameBooks
    (delivered deployment payload who rawBody signature choices world).db

/-- The next delivery, however it is made and whatever becomes of its calls, has the
effect it has where there was none before. -/
def RetryHonoured (deployment : Deployment) (payload : WebhookPayloadDto)
    (world attempted : World) : Prop :=
  ∀ who rawBody signature choices clock,
    WebhooksService.verifySignature deployment rawBody signature = true → world.clock ≤ clock →
    (delivered deployment payload who rawBody signature choices
      { world with clock := clock }).db.SameEffect
    (delivered deployment payload who rawBody signature choices
      { attempted with clock := clock }).db

/-- The account that a report of the status pays has room for the amount. -/
def Database.Bookable (db : Database) (row : Transaction) (status : String) : Prop :=
  if status = "completed" then db.HasRoom row.recipientAccountId row.destinationAmount
  else db.HasRoom row.senderAccountId row.sourceAmount

section Alone

variable {deployment : Deployment} {payload : WebhookPayloadDto} {who : ProcessId}
  {rawBody : List UInt8} {signature : String} {choices : List Delivery} {world : World}
  {row : Transaction}

/-- A delivery whose event is known changes no books. -/
theorem delivered_known (rest : world.AtRest)
    (known : (world.db.webhookEvents.get? (payload.reference, payload.status)).isSome = true) :
    world.db.SameBooks (delivered deployment payload who rawBody signature choices world).db := by
  obtain ⟨_, _, path⟩ := Command.run_alone deployment rest who
    (.processWebhook payload rawBody signature) choices
  have absurd : ∀ {patch first events},
      (serial world).Marks payload patch first events → False := by
    intro patch first events marks
    rw [(serial_marks marks).1] at known
    cases known
  change Relation.ReflTransGen _ world.db
    (delivered deployment payload who rawBody signature choices world).db at path
  generalize (delivered deployment payload who rawBody signature choices world).db = last at path
  induction path with
  | refl => exact .refl _
  | tail _ change ih =>
      rcases change with beside | ⟨_, _, marks, _⟩ | ⟨_, _, _, _, _, _, _, marks, _⟩
      · exact ih.trans beside.books
      · exact (absurd marks).elim
      · exact (absurd marks).elim

/-- A delivery that was applied had room for the amount. -/
theorem Delivers.bookable {first second : Database}
    (delivers : Delivers (serial world) deployment payload rawBody signature first second)
    (looked : world.db.byReference payload.reference = some row)
    (processing : row.status = .processing)
    (status : payload.status = "completed" ∨ payload.status = "failed") (kept : world.db.Kept)
    (constrained : second.Constrained) : world.db.Bookable row payload.status := by
  obtain ⟨_, other, entries, patches, events, _, timestamp, marks, looks, found, _, settles,
    made⟩ := delivers
  have same := (serial_marks marks).2
  have current := serial_looksUp same looks
  rw [looked] at current
  cases current
  have there : world.db.transactions.get? row.id = some row := by
    rw [← same.transactions]
    exact found
  obtain ⟨_, payer, payee⟩ := kept.anchored row (Table.mem_of_get? there)
  unfold Database.Bookable
  unfold DeliverySettles at settles
  by_cases completed : payload.status = "completed"
  · rw [if_pos completed] at settles ⊢
    obtain ⟨currency, completedAt, _, terms, rfl⟩ := settles
    refine Settlement.hasRoom same made constrained payee ?_
    rw [postings_of_terms terms]
    simp [creditTerms, EntryTerms.posting, netOf_cons]
  · rw [if_neg completed, if_pos (status.resolve_left completed)] at settles
    rw [if_neg completed]
    obtain ⟨terms, rfl⟩ := settles
    have known := (same.dossier row.id).trans (Database.dossier_of_get? there)
    have lawful := kept.pending row.id _ (Database.dossier_of_get? there) processing
    refine Settlement.hasRoom same made constrained payer ?_
    rw [reversals_processing known lawful processing terms]
    simp [Transaction.release, netOf_cons]

/-- A delivery without room for the amount changes no books. -/
theorem delivered_full (rest : world.AtRest) (kept : world.db.Kept)
    (looked : world.db.byReference payload.reference = some row)
    (processing : row.status = .processing)
    (status : payload.status = "completed" ∨ payload.status = "failed")
    (full : ¬ world.db.Bookable row payload.status) :
    world.db.SameBooks (delivered deployment payload who rawBody signature choices world).db := by
  have outside : (serial world).Outside
      ((Command.processWebhook payload rawBody signature).Commits (serial world) deployment) who _
      (WebhooksService.processWebhook deployment payload rawBody signature) world :=
    Command.outside deployment (.processWebhook payload rawBody signature) rfl (Nat.le_refl _)
      fun _ _ commits => commits
  obtain ⟨_, _, path⟩ := outside.alone (fun _ _ => serial_issues) rest choices
  change Relation.ReflTransGen _ world
    (delivered deployment payload who rawBody signature choices world) at path
  generalize delivered deployment payload who rawBody signature choices world = last at path
  have held : last.db.Constrained ∧ world.db.SameBooks last.db := by
    induction path with
    | refl => exact ⟨kept.constrained, .refl _⟩
    | tail _ grant ih =>
        obtain ⟨constrained, same⟩ := ih
        have after := constrained.solvent grant.solvent
        refine ⟨after, ?_⟩
        rcases grant.step with beside | misses | delivers
        · exact same.trans beside.books
        · exact same.trans misses.books
        · exact (full (delivers.bookable looked processing status kept after)).elim
  exact held.2

/-- With room for the amount, a delivery can be applied. -/
theorem Database.Kept.deliverable {db : Database} (kept : db.Kept)
    (found : db.transactions.get? row.id = some row) (processing : row.status = .processing)
    {status : String} (final : status = "completed" ∨ status = "failed")
    (room : db.Bookable row status) :
    ∃ next, next ≠ .processing ∧ row.status.Allows status ∧ db.Deliverable row status next := by
  obtain ⟨owed, _, _⟩ := kept.anchored row (Table.mem_of_get? found)
  have there := Database.dossier_of_get? found
  have lawful := kept.pending row.id _ there processing
  unfold Bookable at room
  rcases final with rfl | rfl
  · rw [if_pos rfl] at room
    obtain ⟨account, payee, fits⟩ := room
    refine ⟨.completed, by decide, by rw [processing]; decide, ?_⟩
    exact .completed owed payee (kept.constrained account (Table.mem_of_get? payee)).1 fits
  · rw [if_neg (by decide)] at room
    refine ⟨.failed, by decide, by rw [processing]; decide, .failed ?_⟩
    refine Database.reimbursable_of_reserve kept.constrained kept.anchored found lawful.nonneg ?_
      room
    have booked := lawful.booked
    rw [processing] at booked
    rw [Database.originalDebits_postings there]
    generalize Dossier.postings _ = postings at booked
    cases booked
    rfl

end Alone

/-- In every reachable state in which no transaction is open, the delivery after one that
failed has the effect it has on its own exactly where its amount cannot be booked. -/
theorem retry_honoured_iff (deployment : Deployment) {initial : World} (rest : initial.AtRest)
    (empty : initial.db.transactions.rows = []) (constrained : initial.db.Constrained)
    {pool : Pool ProcessId Failure Operation.Reply World}
    (reached : Pool.Reachable backend (surroundings (Command.Starts deployment fun _ => True))
      initial pool) (closed : ∀ who, pool.shared.sessions who = none)
    (payload : WebhookPayloadDto)
    (status : payload.status = "completed" ∨ payload.status = "failed") {row : Transaction}
    (looked : pool.shared.db.byReference payload.reference = some row)
    (processing : row.status = .processing) (who : ProcessId) (rawBody : List UInt8)
    (signature : String) (choices : List Delivery)
    (aborts : Aborts deployment payload who rawBody signature choices pool.shared) :
    RetryHonoured deployment payload pool.shared
        (delivered deployment payload who rawBody signature choices pool.shared) ↔
      ¬ pool.shared.db.Bookable row payload.status := by
  obtain ⟨sound, kept⟩ :=
    Database.Kept.of_reachable rest (Database.kept_of_empty constrained empty) reached
  have rested : pool.shared.AtRest := .of_sound sound closed
  obtain ⟨event, stored⟩ := aborts.stored
  obtain ⟨absent, known⟩ := stored_of_run rested stored
  let attempted := delivered deployment payload who rawBody signature choices pool.shared
  have restedAfter : attempted.AtRest := (Command.run_alone deployment rested who
    (.processWebhook payload rawBody signature) choices).1
  have sameClock : attempted.clock = pool.shared.clock := run_clock ..
  have later : ∀ (world : World) clock, world.AtRest → world.clock ≤ clock →
      World.AtRest { world with clock := clock } := fun world clock rest passed =>
    rest.aside (World.Elapses.pass world passed).aside
  -- Whatever the next delivery is, after the failed one it finds the event row.
  have dropped : ∀ who' rawBody' signature' choices' clock, pool.shared.clock ≤ clock →
      pool.shared.db.SameBooks (delivered deployment payload who' rawBody' signature' choices'
        { attempted with clock := clock }).db := by
    intro who' rawBody' signature' choices' clock passed
    rw [← sameClock] at passed
    exact aborts.rolledBack.trans (delivered_known (later _ _ restedAfter passed) known)
  constructor
  · intro honoured room
    have found : pool.shared.db.transactions.get? row.id = some row :=
      Table.get?_of_mem (List.mem_of_find?_eq_some looked)
    obtain ⟨next, moved, allowed, able⟩ := kept.deliverable found processing status room
    have succeeds : Succeeds who _
        (WebhooksService.processWebhook deployment payload rawBody signature) pool.shared :=
      succeeds_processWebhook rested absent aborts.valid looked allowed able
    obtain ⟨_, last, ran, settled⟩ := succeeds
    have same := honoured who rawBody signature [] pool.shared.clock aborts.valid (Nat.le_refl _)
    have unchanged := dropped who rawBody signature [] pool.shared.clock (Nat.le_refl _)
    have moves : (delivered deployment payload who rawBody signature [] pool.shared).db.statusOf
        row.id = some next := by
      unfold delivered
      rw [ran]
      exact settled
    unfold Database.statusOf at moves
    rw [← same.transactions, unchanged.transactions, found, Option.map_some, processing] at moves
    exact moved (Option.some.inj moves).symm
  · intro full who' rawBody' signature' choices' clock _ passed
    have left := dropped who' rawBody' signature' choices' clock passed
    have right : pool.shared.db.SameBooks (delivered deployment payload who' rawBody' signature'
        choices' { pool.shared with clock := clock }).db :=
      delivered_full (later _ _ rested passed) kept looked processing status full
    refine ⟨?_, ?_, ?_, ?_⟩
    · rw [left.accounts, right.accounts]
    · rw [left.transactions, right.transactions]
    · rw [left.ledgerEntries, right.ledgerEntries]
    · rw [left.stateHistory, right.stateHistory]

/-- A payment has been submitted. -/
def submittedWorld : World :=
  runAll sampleDeployment [(.createPayment samplePayment "key", []), (.process sampleJob, [])]
    sampleWorld

theorem submittedWorld_run :
    SerialRun sampleDeployment (fun _ _ => True) sampleWorld submittedWorld :=
  runAll_run _ ⟨trivial, trivial, trivial⟩

/-- The query that locks the payment does not get through. -/
def sampleOutage : List Delivery := [.delivered, .delivered, .lost]

theorem submittedWorld_aborts :
    Aborts sampleDeployment ⟨0, "completed"⟩ 0 [] "secret" sampleOutage submittedWorld := by
  refine ⟨by decide +kernel, ?_, ?_, ?_, ?_, by decide +kernel, by decide +kernel⟩
  · exact ⟨_, rfl⟩
  · exact ⟨_, rfl⟩
  · exact Table.ext (by decide +kernel)
  · exact Table.ext (by decide +kernel)

theorem retry_honoured_iff_sample :
    RetryHonoured sampleDeployment ⟨0, "completed"⟩ submittedWorld
        (delivered sampleDeployment ⟨0, "completed"⟩ 0 [] "secret" sampleOutage submittedWorld) ↔
      ∀ row, submittedWorld.db.byReference 0 = some row →
        ¬ submittedWorld.db.Bookable row "completed" := by
  have shape : (submittedWorld.db.byReference 0).map Transaction.status = some .processing := by
    decide +kernel
  obtain ⟨row, looked, processing⟩ := Option.map_eq_some_iff.mp shape
  have rested := submittedWorld_run.atRest sampleWorld_atRest
  have same := retry_honoured_iff sampleDeployment sampleWorld_atRest rfl (by decide +kernel)
    (SerialRun.steps sampleWorld_atRest submittedWorld_run) rested.sessions ⟨0, "completed"⟩
    (.inl rfl) looked processing 0 [] "secret" sampleOutage submittedWorld_aborts
  refine same.trans ⟨fun full other found => ?_, fun all => all row looked⟩
  rw [looked] at found
  cases found
  exact full

/-- The recipient is paid by the delivery, but not once one has failed before. -/
theorem retry_dropped :
    ¬ ∀ (deployment : Deployment) (initial : World), initial.AtRest →
      initial.db.transactions.rows = [] → initial.db.Constrained →
      ∀ pool : Pool ProcessId Failure Operation.Reply World,
      Pool.Reachable backend (surroundings (Command.Starts deployment fun _ => True)) initial
        pool → (∀ who, pool.shared.sessions who = none) →
      ∀ payload : WebhookPayloadDto, payload.status = "completed" ∨ payload.status = "failed" →
      (pool.shared.db.byReference payload.reference).map Transaction.status = some .processing →
      ∀ who rawBody signature choices,
      Aborts deployment payload who rawBody signature choices pool.shared →
      RetryHonoured deployment payload pool.shared
        (delivered deployment payload who rawBody signature choices pool.shared) := by
  intro claimed
  have rested := submittedWorld_run.atRest sampleWorld_atRest
  have honoured := claimed sampleDeployment sampleWorld sampleWorld_atRest rfl (by decide +kernel)
    _ (SerialRun.steps sampleWorld_atRest submittedWorld_run) rested.sessions ⟨0, "completed"⟩
    (.inl rfl) (by decide +kernel) 0 [] "secret" sampleOutage submittedWorld_aborts
  have same := honoured 0 [] "secret" [] submittedWorld.clock (by decide +kernel) (Nat.le_refl _)
  have balance := congrArg (fun accounts : Table Account => (accounts.get? 1).map Account.balance)
    same.accounts
  exact absurd balance (by decide +kernel)

end Payroute
