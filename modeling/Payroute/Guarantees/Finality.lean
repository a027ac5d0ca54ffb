import Payroute.Commits.Refinement
import Payroute.Runs.Serial

/-! # Reversed payments stay reversed

While no dispute is raised or rejected on the strength of a check that a
reversal has overtaken, a reversed payment is final, and the sender's money has
come back once.
-/

namespace Payroute

open EffectSystem KeyedTable

/-- The transaction that `raiseDispute` or a rejected dispute is about to update. -/
def Operation.overwrites : Operation → Option TransactionId
  | .sql (.updateTransaction id patch) =>
      if patch = { status := some .disputed } ∨ patch = { status := some .completed } then some id
      else none
  | _ => none

/-- The call does not dispute or complete a payment that is reversed by now. -/
def NotOvertaken (view : Database) (op : Operation) : Prop :=
  (op.overwrites.bind view.transactions.get?).map Transaction.status ≠ some .reversed

instance (view : Database) (op : Operation) : Decidable (NotOvertaken view op) :=
  inferInstanceAs (Decidable (_ ≠ _))

/-- A permitted update found the payment not reversed. -/
theorem not_reversed_of_permitted {id : TransactionId} {row : Transaction}
    {patch : TransactionPatch}
    (overwrites : patch = { status := some .disputed } ∨ patch = { status := some .completed })
    (permitted : (guarded NotOvertaken).Permitted (.updateTransaction id patch) id row) :
    row.status ≠ .reversed := by
  obtain ⟨seen, found, allowed⟩ := permitted
  change NotOvertaken seen _ at allowed
  simp only [NotOvertaken, Operation.overwrites, if_pos overwrites, Option.bind_some, found,
    Option.map_some] at allowed
  exact fun reversed => allowed (congrArg some reversed)

/-! ## Money comes back once -/

/-- The postings besides the recipient's credits, by status. -/
inductive Core (row : Transaction) : TransactionStatus → List Posting → Prop
  | reserved {status : TransactionStatus} (unfailed : status ≠ .failed)
      (unreversed : status ≠ .reversed) : Core row status [row.reserve]
  | released {status : TransactionStatus} (opened : status ≠ .initiated)
      (started : status ≠ .processing) : Core row status [row.reserve, row.release]
  | chargedBack : Core row .reversed [row.reserve, row.takeBack, row.giveBack]

/-- The postings without the recipient's credits. -/
def Dossier.core (dossier : Dossier) : List Posting :=
  dossier.postings.filter fun posting => decide (posting ≠ dossier.row.settle)

/-- The invariant of payments whose money comes back once. -/
structure Dossier.Contained (dossier : Dossier) : Prop where
  parties : dossier.row.senderAccountId ≠ dossier.row.recipientAccountId
  nonneg : 0 ≤ dossier.row.sourceAmount
  core : Core dossier.row dossier.row.status dossier.core

/-- The sender is refunded and the recipient charged back at most once. -/
structure Dossier.RefundedOnce (dossier : Dossier) : Prop where
  sender : (dossier.postings.filter fun posting =>
    decide (posting.accountId = dossier.row.senderAccountId ∧
      posting.entryType = .credit)).length ≤ 1
  recipient : (dossier.postings.filter fun posting =>
    decide (posting.accountId = dossier.row.recipientAccountId ∧
      posting.entryType = .debit)).length ≤ 1

instance (dossier : Dossier) : Decidable dossier.RefundedOnce :=
  decidable_of_iff (_ ∧ _) ⟨fun both => ⟨both.1, both.2⟩, fun once => ⟨once.1, once.2⟩⟩

/-- Postings that are no credits of the recipient are among the core. -/
theorem Dossier.filter_core (dossier : Dossier) {selected : Posting → Prop}
    [DecidablePred selected] (unselected : ¬ selected dossier.row.settle) :
    dossier.postings.filter (fun posting => decide (selected posting)) =
      dossier.core.filter fun posting => decide (selected posting) := by
  unfold Dossier.core
  rw [List.filter_filter]
  apply List.filter_congr
  intro posting _
  by_cases same : posting = dossier.row.settle
  · rw [same, decide_eq_false unselected, Bool.false_and]
  · rw [decide_eq_true same, Bool.and_true]

theorem Dossier.Contained.refundedOnce {dossier : Dossier} (held : dossier.Contained) :
    dossier.RefundedOnce := by
  obtain ⟨parties, _, core⟩ := held
  have other := Ne.symm parties
  constructor
  · rw [dossier.filter_core fun selected => other selected.1]
    generalize dossier.core = postings at core
    generalize dossier.row.status = status at core
    cases core <;>
      simp [Transaction.reserve, Transaction.release, Transaction.takeBack, Transaction.giveBack]
  · rw [dossier.filter_core fun selected => by cases selected.2]
    generalize dossier.core = postings at core
    generalize dossier.row.status = status at core
    cases core <;>
      simp [Transaction.reserve, Transaction.release, Transaction.takeBack, Transaction.giveBack,
        parties]

theorem Core.congr {first second : Transaction} {status : TransactionStatus}
    {postings : List Posting} (core : Core first status postings)
    (same : second.terms = first.terms) : Core second status postings := by
  obtain ⟨reserve, _, release, takeBack, giveBack⟩ := Transaction.postings_congr same
  cases core with
  | reserved unfailed unreversed => rw [← reserve]; exact .reserved unfailed unreversed
  | released opened started => rw [← reserve, ← release]; exact .released opened started
  | chargedBack => rw [← reserve, ← takeBack, ← giveBack]; exact .chargedBack

/-- The postings a settlement adds besides credits of the recipient. -/
def coreOf (row : Transaction) (entries : List LedgerEntry) : List Posting :=
  (entries.map LedgerEntry.posting).filter fun posting => decide (posting ≠ row.settle)

/-- The settlement of a payment keeps it contained if its postings do. -/
theorem Dossier.Contained.advance {old : Dossier} (held : old.Contained) {settlement : Settlement}
    (core : Core old.row (settlement.advance old).row.status
      (old.core ++ coreOf old.row settlement.entries)) : (settlement.advance old).Contained := by
  have terms : (settlement.advance old).row.terms = old.row.terms := by
    change (settlement.patches.foldl _ old.row).terms = _
    generalize old.row = row
    induction settlement.patches generalizing row with
    | nil => rfl
    | cons patch rest ih => exact (ih _).trans (patch.terms_apply row)
  obtain ⟨sender, recipient, source, _⟩ := Transaction.of_terms terms
  obtain ⟨_, settle, _, _, _⟩ := Transaction.postings_congr terms
  refine ⟨?_, ?_, ?_⟩
  · rw [sender, recipient]
    exact held.parties
  · rw [source]
    exact held.nonneg
  · have split : (settlement.advance old).core =
        old.core ++ coreOf old.row settlement.entries := by
      unfold Dossier.core
      rw [settle]
      change List.filter _ (List.map _ (old.entries ++ settlement.entries)) = _
      rw [List.map_append, List.filter_append]
      rfl
    rw [split]
    exact core.congr terms

section Core

variable {row : Transaction} {db : Database} {id : TransactionId} {old : Dossier}
  {entries : List LedgerEntry}

/-- Whether the ledger is marked reversed shows in the core. -/
theorem Dossier.reversal_core (dossier : Dossier) :
    (∃ posting ∈ dossier.postings, posting.isReversal = true) ↔
      ∃ posting ∈ dossier.core, posting.isReversal = true := by
  unfold Dossier.core
  constructor
  · rintro ⟨posting, member, marked⟩
    refine ⟨posting, List.mem_filter.mpr ⟨member, decide_eq_true fun same => ?_⟩, marked⟩
    rw [same] at marked
    cases marked
  · rintro ⟨posting, member, marked⟩
    exact ⟨posting, (List.mem_filter.mp member).1, marked⟩

/-- The postings of a chargeback besides credits of the recipient. -/
theorem core_chargeBack (differ : row.senderAccountId ≠ row.recipientAccountId)
    (posted : entries.map LedgerEntry.posting = [row.takeBack, row.giveBack]) :
    coreOf row entries = [row.takeBack, row.giveBack] := by
  unfold coreOf
  rw [posted]
  simp [Transaction.takeBack, Transaction.giveBack, Transaction.settle, differ]

theorem core_release (posted : entries.map LedgerEntry.posting = [row.release]) :
    coreOf row entries = [row.release] := by
  unfold coreOf
  rw [posted]
  simp [Transaction.release, Transaction.settle]

theorem core_nil (posted : entries = []) : coreOf row entries = [] := by
  rw [posted]
  rfl

/-- A chargeback of a payment that is not reversed yet. -/
theorem Dossier.Contained.chargesBack (held : old.Contained)
    (found : db.dossier old.row.id = some old) (charges : ChargesBack db old.row entries)
    (unreversed : old.row.status ≠ .reversed) :
    Core old.row .reversed (old.core ++ coreOf old.row entries) := by
  have core := held.core
  have marked := (Database.hasReversal_iff found).trans old.reversal_core
  generalize old.core = postings at core marked
  generalize old.row.status = status at core unreversed
  rcases charges with ⟨reversed, none⟩ | ⟨unmarked, _, _, _, _, _, terms⟩
  · rw [core_nil none, List.append_nil]
    rw [marked] at reversed
    cases core with
    | reserved _ _ => simp [Transaction.reserve] at reversed
    | released _ _ => exact .released (by decide) (by decide)
    | chargedBack => exact .chargedBack
  · rw [core_chargeBack held.parties (postings_of_terms terms)]
    rw [marked] at unmarked
    cases core with
    | reserved _ _ => exact .chargedBack
    | released _ _ => simp [Transaction.release] at unmarked
    | chargedBack => exact (unreversed rfl).elim

/-- A compensation of a payment of which only the reservation is left. -/
theorem Dossier.Contained.reverses (held : old.Contained) (found : db.dossier id = some old)
    (terms : entries.map LedgerEntry.terms = (db.originalDebits id).map (reversalTerms id))
    (reserved : old.core = [old.row.reserve]) {next : TransactionStatus}
    (opened : next ≠ .initiated) (started : next ≠ .processing) :
    Core old.row next (old.core ++ coreOf old.row entries) := by
  have posted : entries.map LedgerEntry.posting = [old.row.release] := by
    have debits := @Dossier.filter_core old Posting.IsOriginalDebit _ fun selected =>
      nomatch selected.1
    rw [postings_of_reversals found terms, debits, reserved]
    exact congrArg (fun posting => [posting]) (old.row.reversal_reserve held.nonneg)
  rw [core_release posted, reserved]
  exact .released opened started

/-- A compensation of a payment that is not reversed yet. -/
theorem Dossier.Contained.returnsFunds (held : old.Contained) (found : db.dossier id = some old)
    (returns : ReturnsFunds db id entries) (unreversed : old.row.status ≠ .reversed)
    {next : TransactionStatus} (opened : next ≠ .initiated) (started : next ≠ .processing) :
    Core old.row next (old.core ++ coreOf old.row entries) := by
  have core := held.core
  have marked := (Database.hasReversal_iff found).trans old.reversal_core
  rcases returns with ⟨reversed, none⟩ | ⟨unmarked, terms⟩
  · generalize old.core = postings at core marked
    generalize old.row.status = status at core unreversed
    rw [core_nil none, List.append_nil]
    rw [marked] at reversed
    cases core with
    | reserved _ _ => simp [Transaction.reserve] at reversed
    | released _ _ => exact .released opened started
    | chargedBack => exact (unreversed rfl).elim
  · refine held.reverses found terms ?_ opened started
    generalize old.core = postings at core marked
    generalize old.row.status = status at core unreversed
    rw [marked] at unmarked
    cases core with
    | reserved _ _ => rfl
    | released _ _ => simp [Transaction.release] at unmarked
    | chargedBack => exact (unreversed rfl).elim

end Core

theorem not_reversed_of_allows {status : TransactionStatus} {next : String}
    (allowed : status.Allows next) : status ≠ .reversed := by
  intro reversed
  rw [reversed] at allowed
  cases allowed

/-- A payment that is not reversed may be disputed and completed. -/
theorem Core.restatus {row : Transaction} {status next : TransactionStatus}
    {postings : List Posting} (core : Core row status postings) (unreversed : status ≠ .reversed)
    (reopens : next = .disputed ∨ next = .completed) : Core row next postings := by
  cases core with
  | reserved _ _ => rcases reopens with rfl | rfl <;> exact .reserved (by decide) (by decide)
  | released _ _ => rcases reopens with rfl | rfl <;> exact .released (by decide) (by decide)
  | chargedBack => exact (unreversed rfl).elim

/-! ## Reversed payments are left alone -/

/-- Reversed payments keep their status and their entries. -/
def Database.Spares (first second : Database) : Prop :=
  ∀ id old, first.dossier id = some old → old.row.status = .reversed →
    ∃ new, second.dossier id = some new ∧ new.row.status = .reversed ∧ new.entries = old.entries

theorem Database.Spares.refl (db : Database) : db.Spares db :=
  fun _ old found reversed => ⟨old, found, reversed, rfl⟩

theorem Database.Spares.trans {first second third : Database} (left : first.Spares second)
    (right : second.Spares third) : first.Spares third := by
  intro id old found reversed
  obtain ⟨new, there, still, same⟩ := left id old found reversed
  obtain ⟨last, after, kept, unchanged⟩ := right id new there still
  exact ⟨last, after, kept, unchanged.trans same⟩

theorem Database.Spares.of_same {first second : Database}
    (same : ∀ id, second.dossier id = first.dossier id) : first.Spares second := by
  intro id old found reversed
  exact ⟨old, (same id).trans found, reversed, rfl⟩

/-- What the commits made under the guard keep. -/
structure Database.Protects (first second : Database) : Prop where
  contained : first.Each Dossier.Contained → second.Each Dossier.Contained
  spares : first.Spares second

section Commits

variable {first second : Database} {deployment : Deployment} {id : TransactionId}

/-- The settlement of a payment that is not reversed. -/
theorem Settlement.protects {settlement : Settlement} (own : settlement.Own) {row : Transaction}
    (found : first.transactions.get? settlement.id = some row) (unreversed : row.status ≠ .reversed)
    (core : ∀ old, first.dossier settlement.id = some old → old.row = row → old.Contained →
      Core old.row (settlement.advance old).row.status
        (old.core ++ coreOf old.row settlement.entries)) :
    first.Protects (settlement.apply first) := by
  have same : ∀ old, first.dossier settlement.id = some old → old.row = row := fun old there =>
    Option.some.inj ((Database.get?_of_dossier there).1.symm.trans found)
  constructor
  · intro each
    refine Settlement.each own each fun old there => ?_
    have held := each _ old there
    exact held.advance (core old there (same old there) held)
  · intro other old there reversed
    have differs : other ≠ settlement.id := by
      rintro rfl
      rw [same old there] at reversed
      exact unreversed reversed
    exact ⟨old, (Settlement.dossier_other own first differs).trans there, reversed, rfl⟩

variable {setting : Setting}

theorem Refunds.protects (refunds : Refunds setting id first second) : first.Protects second := by
  obtain ⟨row, entries, timestamp, _, found, allowed, posts, rfl⟩ := refunds
  have unreversed := not_reversed_of_allows allowed
  have named : row.id = id := Table.key_of_get? found
  by_cases completed : row.status = .completed
  · rw [if_pos completed] at posts
    subst named
    refine Settlement.protects ⟨posts.own, history_own⟩ found unreversed ?_
    rintro old there rfl held
    exact held.chargesBack there posts unreversed
  · rw [if_neg completed] at posts
    refine Settlement.protects ⟨posts.own, history_own⟩ found unreversed ?_
    rintro old there rfl held
    change Core old.row .reversed _
    exact held.returnsFunds there posts unreversed (by decide) (by decide)

theorem Reverses.protects (reverses : Reverses setting id first second) :
    first.Protects second := by
  obtain ⟨row, entries, timestamp, _, found, allowed, posts, rfl⟩ := reverses
  have unreversed := not_reversed_of_allows allowed
  have named : row.id = id := Table.key_of_get? found
  subst named
  refine Settlement.protects ⟨posts.own, history_own⟩ found unreversed ?_
  rintro old there rfl held
  exact held.chargesBack there posts unreversed

theorem Raises.protects (raises : Raises (guarded NotOvertaken) id first second) :
    first.Protects second := by
  obtain ⟨row, checked, timestamp, found, _, _, permitted, rfl⟩ := raises
  have unreversed := not_reversed_of_permitted (.inl rfl) permitted
  refine Settlement.protects ⟨no_entries, history_own⟩ found unreversed ?_
  rintro old there rfl held
  rw [core_nil rfl, List.append_nil]
  exact held.core.restatus unreversed (.inl rfl)

theorem Rejects.protects (rejects : Rejects (guarded NotOvertaken) id first second) :
    first.Protects second := by
  obtain ⟨row, checked, timestamp, found, _, _, permitted, rfl⟩ := rejects
  have unreversed := not_reversed_of_permitted (.inr rfl) permitted
  refine Settlement.protects ⟨no_entries, history_own⟩ found unreversed ?_
  rintro old there rfl held
  rw [core_nil rfl, List.append_nil]
  exact held.core.restatus unreversed (.inr rfl)

theorem Exhausts.protects (exhausts : Exhausts setting id first second) :
    first.Protects second := by
  obtain ⟨row, entries, timestamp, _, found, processing, returns, rfl⟩ := exhausts
  have unreversed : row.status ≠ .reversed := by
    rw [processing]
    decide
  refine Settlement.protects ⟨returns.own, history_own⟩ found unreversed ?_
  rintro old there rfl held
  change Core old.row .failed _
  exact held.returnsFunds there returns unreversed (by decide) (by decide)

/-- Storing a reference leaves status and entries alone. -/
theorem Assigns.protects (assigns : Assigns setting id first second) : first.Protects second := by
  obtain ⟨checked, reference, _, _, _, rfl⟩ := assigns
  have own : Settlement.Own { id := id, patches := [{ providerReference := some reference }] } :=
    Settlement.own_patches
  constructor
  · intro each
    refine Settlement.each own each fun old there => (each _ old there).advance ?_
    rw [core_nil rfl, List.append_nil]
    exact (each _ old there).core
  · intro other old there reversed
    by_cases same : other = id
    · subst same
      have after := Settlement.dossier_apply own first
      rw [there, Option.map_some] at after
      exact ⟨_, after, reversed, List.append_nil old.entries⟩
    · exact ⟨old, (Settlement.dossier_other own first same).trans there, reversed, rfl⟩

theorem Creates.protects {dto : CreatePaymentDto} {row : Transaction}
    (creates : Creates setting dto row first second) : first.Protects second := by
  have absent : first.transactions.get? row.id = none := by
    obtain ⟨_, _, _, _, _, absent, _⟩ := creates
    exact absent
  obtain ⟨entry, opened, reserved, after, others, posting⟩ := creates.opens
  obtain ⟨parties, nonneg⟩ := creates.parties
  constructor
  · intro each
    refine each.of_changed after others ⟨parties, nonneg, ?_⟩
    have core : (openingDossier row entry opened reserved).core = [row.reserve] := by
      change List.filter _ [entry.posting] = _
      rw [posting]
      simp [Transaction.reserve, Transaction.settle]
    rw [core]
    change Core _ .processing [row.reserve]
    exact .reserved (by decide) (by decide)
  · intro other old there reversed
    have differs : other ≠ row.id := by
      rintro rfl
      rw [(Database.get?_of_dossier there).1] at absent
      cases absent
    exact ⟨old, (others other differs).trans there, reversed, rfl⟩

theorem Delivers.protects {payload : WebhookPayloadDto} {rawBody : List UInt8} {signature : String}
    (delivers : Delivers setting deployment payload rawBody signature first second) :
    first.Protects second := by
  obtain ⟨_, row, entries, patches, events, _, timestamp, _, _, found, allowed, settles, rfl⟩ :=
    delivers
  have unreversed := not_reversed_of_allows allowed
  unfold DeliverySettles at settles
  by_cases completed : payload.status = "completed"
  · rw [if_pos completed] at settles
    obtain ⟨currency, completedAt, _, terms, rfl⟩ := settles
    refine Settlement.protects ⟨credit_own terms, history_own⟩ found unreversed ?_
    rintro old there rfl held
    have posted : coreOf old.row entries = [] := by
      unfold coreOf
      rw [postings_of_terms terms]
      simp [creditTerms, EntryTerms.posting, Transaction.settle]
    rw [posted, List.append_nil]
    exact held.core.restatus unreversed (.inr rfl)
  · rw [if_neg completed] at settles
    by_cases failed : payload.status = "failed"
    · rw [if_pos failed] at settles
      obtain ⟨terms, rfl⟩ := settles
      refine Settlement.protects ⟨reversals_own terms, history_own⟩ found unreversed ?_
      rintro old there rfl held
      change Core old.row .failed _
      refine held.reverses there terms ?_ (by decide) (by decide)
      have core := held.core
      have early := allows_failed (failed ▸ allowed)
      generalize old.core = postings at core
      generalize old.row.status = status at core early
      cases core with
      | reserved _ _ => rfl
      | released opened started => exact (early.elim opened started).elim
      | chargedBack => simp at early
    · rw [if_neg failed] at settles
      obtain ⟨rfl, rfl⟩ := settles
      refine Settlement.protects ⟨no_entries, history_own⟩ found unreversed ?_
      rintro old there rfl held
      rw [core_nil rfl, List.append_nil]
      exact held.core

end Commits

/-- Under the guard no commit touches a reversed payment. -/
theorem Command.Commits.protects {deployment : Deployment} {command : Command}
    {first second : Database}
    (commits : command.Commits (guarded NotOvertaken) deployment first second) :
    first.Protects second := by
  cases command with
  | createPayment dto idempotencyKey =>
      obtain ⟨row, creates, _⟩ := commits
      exact creates.protects
  | process data => exact Assigns.protects commits
  | processWebhook payload rawBody signature =>
      rcases commits with misses | delivers
      · exact ⟨fun each => each.sameBooks misses.books, .of_same misses.books.dossier⟩
      · exact delivers.protects
  | onProviderJobExhausted jobId failedReason =>
      obtain ⟨id, exhausts⟩ := commits
      exact exhausts.protects
  | refundPayment id dto => exact Refunds.protects commits
  | raiseDispute id dto => exact Raises.protects commits
  | resolveDispute id dto =>
      obtain ⟨action⟩ := dto
      cases action with
      | reverse => exact Reverses.protects commits
      | reject => exact Rejects.protects commits
  | retryStuckPayments => exact commits.elim
  | cleanupExpiredIdempotencyKeys => exact commits.elim
  | cleanupOldProcessedWebhookEvents => exact commits.elim

/-- While no check is overtaken, concurrent operations leave reversed payments as
they are, and money comes back at most once. -/
theorem reversed_final (deployment : Deployment) {initial : World} (rest : initial.AtRest)
    (empty : initial.db.transactions.rows = [])
    {pool last : Pool ProcessId Failure Operation.Reply World}
    (reached : Pool.Reachable (guarded NotOvertaken).machine
      (surroundings (Command.Starts deployment fun _ => True)) initial pool)
    (later : Pool.Steps (guarded NotOvertaken).machine
      (surroundings (Command.Starts deployment fun _ => True)) pool last) :
    pool.shared.db.Spares last.shared.db ∧ last.shared.db.Each Dossier.RefundedOnce := by
  have none : initial.db.Each Dossier.Contained := by
    intro id dossier found
    have member := Table.mem_of_get? (Database.get?_of_dossier found).1
    rw [empty] at member
    cases member
  have shared := guarded_shared NotOvertaken
    (Command.CommitsOf (guarded NotOvertaken) deployment fun _ => True)
  have safe := shared.compatible (Command.starts_outside shared fun _ _ made => made)
  have valid : (guarded NotOvertaken).Valid _ _ pool :=
    (Pool.Valid.steps safe (Setting.valid_quiet rest) reached).1
  have contained : last.shared.db.Each Dossier.Contained := by
    refine Command.pool_keeps (fun db => db.Each Dossier.Contained) ?_ ?_
      (Setting.valid_quiet rest) none (reached.trans later)
    · exact fun first second beside each => each.sameBooks beside.books
    · exact fun command first second _ commits _ each => commits.protects.contained each
  constructor
  · refine Command.pool_keeps (fun db => pool.shared.db.Spares db) ?_ ?_ valid
      (Database.Spares.refl _) later
    · exact fun first second beside spares => spares.trans (.of_same beside.books.dossier)
    · exact fun command first second _ commits _ spares => spares.trans commits.protects.spares
  · exact fun id dossier found => (contained id dossier found).refundedOnce

/-- A disputed payment; one request has checked that its dispute may be rejected
when another one has charged it back. -/
def sampleOvertaken : List Turn :=
  [{ who := 0, starts := some (.createPayment samplePayment "key") },
    { who := 1, starts := some (.process sampleJob) },
    { who := 2, starts := some (.processWebhook ⟨0, "completed"⟩ [] "secret") },
    { who := 3, starts := some (.raiseDispute 0 ⟨"fraud"⟩) },
    { who := 4, starts := some (.resolveDispute 0 ⟨.reject⟩), calls := 1 },
    { who := 5, starts := some (.resolveDispute 0 ⟨.reverse⟩) }]

/-- Another refund is asked for. -/
def sampleRefund : List Turn := [{ who := 6, starts := some (.refundPayment 0 ⟨"fraud"⟩) }]

theorem reversed_final_sample :
    let pool := takeTurns (guarded NotOvertaken).machine sampleDeployment sampleOvertaken
      (Pool.quiet sampleWorld)
    let last := takeTurns (guarded NotOvertaken).machine sampleDeployment sampleRefund pool
    pool.shared.db.Spares last.shared.db ∧ last.shared.db.Each Dossier.RefundedOnce :=
  reversed_final sampleDeployment sampleWorld_atRest rfl
    (takeTurns_commands (by decide +kernel) fun _ _ _ _ => trivial)
    (takeTurns_commands (by decide +kernel) fun _ _ _ _ => trivial)

/-- A rejection that a chargeback has overtaken completes the reversed payment,
which is then charged back once more. -/
theorem overtaken_check_refunds_twice :
    ∃ (deployment : Deployment) (initial : World)
      (pool last : Pool ProcessId Failure Operation.Reply World),
      initial.AtRest ∧ initial.db.transactions.rows = [] ∧
      Pool.Reachable backend (surroundings (Command.Starts deployment fun _ => True)) initial pool ∧
      Pool.Steps backend (surroundings (Command.Starts deployment fun _ => True)) pool last ∧
      ¬ pool.shared.db.Spares last.shared.db ∧ ¬ last.shared.db.Each Dossier.RefundedOnce := by
  let pool := takeTurns backend sampleDeployment sampleOvertaken (Pool.quiet sampleWorld)
  let last := takeTurns backend sampleDeployment ({ who := 4 } :: sampleRefund) pool
  refine ⟨sampleDeployment, sampleWorld, pool, last, sampleWorld_atRest, rfl,
    takeTurns_commands (by decide +kernel) fun _ _ _ _ => trivial,
    takeTurns_commands (by decide +kernel) fun _ _ _ _ => trivial, fun spares => ?_, ?_⟩
  · have before : (pool.shared.db.dossier 0).map (fun dossier =>
        (dossier.row.status, dossier.entries.length)) = some (.reversed, 4) := by decide +kernel
    have after : (last.shared.db.dossier 0).map (fun dossier => dossier.entries.length) =
      some 6 := by
      decide +kernel
    obtain ⟨old, found, shape⟩ := Option.map_eq_some_iff.mp before
    obtain ⟨status, four⟩ := Prod.mk.inj shape
    obtain ⟨new, there, _, same⟩ := spares 0 old found status
    rw [there, Option.map_some, same, four] at after
    cases after
  · exact Database.not_each 0 (by decide +kernel)

end Payroute
