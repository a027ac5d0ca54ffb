import Payroute.Commits.Ledger
import Payroute.Isolation.Outside

/-! # The payments service -/

namespace Payroute

open EffectSystem KeyedTable PaymentsService

/-- Converted amounts are nonnegative. -/
theorem FxService.convert_nonneg (amount rate : Nat) :
    0 ≤ FxService.convert (FxService.parseAmount (numberText amount)) rate := by
  unfold FxService.convert FxService.parseAmount
  rw [numericOfText_numberText, Option.getD_some]
  apply Int.ediv_nonneg
  · exact Int.add_nonneg (Int.mul_nonneg (Int.natCast_nonneg _) (Int.natCast_nonneg _)) (by decide)
  · decide

namespace Setting

namespace Within

variable {setting : Setting} {commit : Database → Database → Prop} {who : ProcessId}
  {world : World} {isolation : Isolation} {changes : Changes} {id : TransactionId}

/-- The chargeback of a transaction the process has locked. -/
theorem chargeBack (drafts : world.Drafts who .readCommitted {}) {current : Transaction}
    (locked : world.rowLocks (.transaction current.id) = some who) :
    setting.Within commit who
      (fun _ last => ∃ entries, ChargesBack last.db current entries ∧
        last.Drafts who .readCommitted (Changes.postAll {} entries))
      (PaymentsService.chargeBack current) world := by
  apply (Within.hasBeenReversed drafts).bind
  rintro reversed second _ kept ⟨drafts, marked⟩
  have lockedSecond := kept.locks _ locked
  cases reversed with
  | true =>
      apply Within.ret
      exact ⟨[], .inl ⟨marked.mp rfl, rfl⟩, drafts⟩
  | false =>
      have unmarked : ¬ second.db.HasReversal current.id := fun holds => by
        cases marked.mpr holds
      apply (Within.debit drafts lockedSecond (drafts.reads _) (numericOfText_amountText _)
        fun read parsed => (numericOfText_minus_amountText parsed).2).bind
      rintro debited third _ keptThird ⟨paid, denominatesPaid, debitTerms, parsed, drafts⟩
      have nonneg := (numericOfText_minus_amountText parsed).1
      have lockedThird := keptThird.locks _ lockedSecond
      apply (Within.credit drafts lockedThird (numericOfText_amountText _)).bind
      rintro credited last _ keptLast ⟨refunded, denominatesRefunded, creditTerms, drafts⟩
      apply Within.ret
      refine ⟨[debited, credited], .inr ⟨?_, paid, refunded, ?_, ?_, ?_, ?_⟩, drafts⟩
      · have same := (keptThird.trans keptLast).entriesOf lockedSecond
        rwa [Database.hasReversal_congr same]
      · exact denominatesPaid.persists keptLast.persists
      · exact denominatesRefunded
      · exact nonneg
      · rw [List.map_cons, List.map_cons, List.map_nil, debitTerms, creditTerms]

/-- The compensation of a transaction the process has locked. -/
theorem returnFunds (drafts : world.Drafts who .readCommitted {})
    (locked : world.rowLocks (.transaction id) = some who) :
    setting.Within commit who
      (fun _ last => ∃ entries, ReturnsFunds last.db id entries ∧
        last.Drafts who .readCommitted (Changes.postAll {} entries))
      (PaymentsService.returnFunds id) world := by
  apply (Within.hasBeenReversed drafts).bind
  rintro reversed second _ kept ⟨drafts, marked⟩
  have lockedSecond := kept.locks _ locked
  cases reversed with
  | true =>
      apply Within.ret
      exact ⟨[], .inl ⟨marked.mp rfl, rfl⟩, drafts⟩
  | false =>
      have unmarked : ¬ second.db.HasReversal id := fun holds => by
        cases marked.mpr holds
      apply (Within.createCompensatingEntries drafts lockedSecond).bind
      rintro entries last _ keptLast ⟨terms, drafts⟩
      apply Within.ret
      refine ⟨entries, .inr ⟨?_, terms⟩, drafts⟩
      rwa [Database.hasReversal_congr (keptLast.entriesOf lockedSecond)]

/-! ## Closing a settlement -/

/-- Patch the transaction after the postings. It exists, so the update finds it. -/
theorem updateKnown {entries : List LedgerEntry}
    (drafts : world.Drafts who .readCommitted (Changes.postAll {} entries))
    (known : ∃ row, world.db.transactions.get? id = some row) {patch : TransactionPatch}
    (unreferenced : patch.providerReference = none) :
    setting.Within commit who
      (fun _ last => ∃ row, last.db.transactions.get? id = some row ∧
        last.rowLocks (.transaction id) = some who ∧
        setting.Permitted (.updateTransaction id patch) id row ∧
        last.Drafts who .readCommitted
          (Settlement.changes { id := id, entries := entries, patches := [patch] }))
      (sql (.updateTransaction id patch)) world := by
  rw [Changes.postAll_eq] at drafts
  refine (Within.updateTransaction drafts id unreferenced).mono ?_
  rintro _ last _ kept (⟨row, found, locked, drafts, permitted⟩ | ⟨absent, drafts⟩)
  · exact ⟨row, found, locked, ⟨_, found, permitted rfl⟩, drafts⟩
  · obtain ⟨row, found⟩ := known
    obtain ⟨later, there, _⟩ := kept.persists.transaction id row found
    rw [drafts.view] at absent
    change last.db.transactions.get? id = none at absent
    rw [there] at absent
    cases absent

/-- Patch the transaction and record the change. -/
theorem updateAndRecord {entries : List LedgerEntry}
    (drafts : world.Drafts who .readCommitted (Changes.postAll {} entries))
    (known : ∃ row, world.db.transactions.get? id = some row) {patch : TransactionPatch}
    (unreferenced : patch.providerReference = none) (fromState : Option String)
    (toState : String) :
    setting.Within commit who
      (fun _ last => ∃ row timestamp, last.db.transactions.get? id = some row ∧
        last.rowLocks (.transaction id) = some who ∧
        setting.Permitted (.updateTransaction id patch) id row ∧
        last.Drafts who .readCommitted (Settlement.changes
          { id := id
            entries := entries
            patches := [patch]
            history := [{ transactionId := id, fromState := fromState, toState := toState
                          timestamp := timestamp }] }))
      ((sql (.updateTransaction id patch)).bind fun _ =>
        sql (.insertHistory id fromState toState)) world := by
  apply (Within.updateKnown drafts known unreferenced).bind
  rintro _ second _ _ ⟨row, found, locked, permitted, drafts⟩
  refine (Within.insertHistory drafts id fromState toState locked).mono ?_
  rintro _ last _ kept ⟨timestamp, drafts⟩
  exact ⟨row, timestamp, (kept.transaction locked).trans found, kept.locks _ locked, permitted,
    drafts⟩

/-! ## Transaction bodies -/

/-- What a body that settles an existing transaction has drafted when it returns. -/
def Settles (setting : Setting) (commit : Database → Database → Prop) (who : ProcessId)
    (last : World) : Prop :=
  ∃ settlement : Settlement, last.Drafts who .readCommitted settlement.changes ∧
    ∀ later : World, setting.Rely who last later → commit later.db (settlement.apply later.db)

/-- The lock of a refund. -/
theorem lockForRefund (drafts : world.Drafts who .readCommitted {}) :
    setting.Within commit who
      (fun found last => last.Drafts who .readCommitted {} ∧
        found = last.db.transactions.get? id ∧
        ∀ row, found = some row → last.rowLocks (.transaction id) = some who)
      (PaymentsService.lockForRefund id) world := by
  apply Within.tryCatch (Within.lockTransaction drafts id true)
  intro error later _ _
  cases error.couldNotObtainLock with
  | true => exact .fail _
  | false => exact .fail _

/-- Behind the entries of a reversal come the status and its history row. -/
theorem markReversed {entries : List LedgerEntry} {current : Transaction}
    (drafts : world.Drafts who .readCommitted (Changes.postAll {} entries))
    (found : world.db.transactions.get? id = some current) :
    setting.Within commit who
      (fun _ last => ∃ timestamp, last.Drafts who .readCommitted (Settlement.changes
          { id := id
            entries := entries
            patches := [{ status := some .reversed }]
            history := [{ transactionId := id, fromState := some current.status.text
                          toState := TransactionStatus.reversed.text, timestamp := timestamp }] }))
      (PaymentsService.markReversed id current) world := by
  refine (Within.updateAndRecord drafts ⟨current, found⟩ rfl _ _).mono ?_
  rintro _ last _ _ ⟨_, timestamp, _, _, _, drafts⟩
  exact ⟨timestamp, drafts⟩

/-- A refund charges a completed payment back and returns the funds of another one. -/
theorem refundLedger (drafts : world.Drafts who .readCommitted {}) {current : Transaction}
    (named : current.id = id) (locked : world.rowLocks (.transaction id) = some who) :
    setting.Within commit who
      (fun _ last => ∃ entries,
        (if current.status = .completed then ChargesBack last.db current entries
          else ReturnsFunds last.db id entries) ∧
        last.Drafts who .readCommitted (Changes.postAll {} entries))
      (PaymentsService.refundLedger id current) world := by
  unfold PaymentsService.refundLedger
  by_cases completed : current.status = .completed
  · simp only [if_pos completed]
    exact Within.chargeBack drafts (by rw [named]; exact locked)
  · simp only [if_neg completed]
    exact Within.returnFunds drafts locked

/-- Entries are posted for the payment a process has locked, and the payment is marked. -/
theorem postAndMark (posts : Database → List LedgerEntry → Prop) {posting : Service Unit}
    {settled : Database → Database → Prop} {current : Transaction}
    (locked : world.rowLocks (.transaction id) = some who)
    (found : world.db.transactions.get? id = some current)
    (posted : setting.Within commit who
      (fun _ last => ∃ entries, posts last.db entries ∧
        last.Drafts who .readCommitted (Changes.postAll {} entries)) posting world)
    (settles : ∀ middle later : World, ∀ entries timestamp, setting.Keeps who world middle →
      setting.Keeps who middle later → middle.rowLocks (.transaction id) = some who →
      later.db.transactions.get? id = some current → posts middle.db entries →
      settled later.db (Settlement.apply
        { id := id
          entries := entries
          patches := [{ status := some .reversed }]
          history := [{ transactionId := id, fromState := some current.status.text
                        toState := TransactionStatus.reversed.text, timestamp := timestamp }] }
        later.db)) :
    setting.Within commit who (fun _ last => Settles setting settled who last)
      (posting >>= fun _ => PaymentsService.markReversed id current) world := by
  apply posted.bind
  rintro _ middle _ kept ⟨entries, posts, drafts⟩
  have still := kept.locks _ locked
  have there := (kept.transaction locked).trans found
  refine (Within.markReversed drafts there).mono ?_
  rintro _ last _ keptLast ⟨timestamp, drafts⟩
  refine ⟨_, drafts, fun later rely => ?_⟩
  have keeps := keptLast.trans (Keeps.of_rely rely)
  exact settles middle later entries timestamp kept keeps still
    ((keeps.transaction still).trans there) posts

/-- The transaction of a refund settles what a refund may settle. -/
theorem refundBody (drafts : world.Drafts who .readCommitted {}) (since : setting.Since world.db) :
    setting.Within commit who (fun _ last => Settles setting (Refunds setting id) who last)
      (PaymentsService.refundBody id) world := by
  apply (Within.lockForRefund drafts).bind
  rintro found second _ kept ⟨drafts, read, locks⟩
  apply Within.orThrow_bind
  rintro current rfl
  have locked := locks current rfl
  have found := read.symm
  have named : current.id = id := Table.key_of_get? found
  apply Within.require_bind
  intro allowed
  refine Within.postAndMark (fun db entries =>
    if current.status = .completed then ChargesBack db current entries
      else ReturnsFunds db id entries) locked found (Within.refundLedger drafts named locked) ?_
  intro third later entries timestamp keptThird keeps lockedThird there posts
  refine ⟨current, entries, timestamp, since.later ((kept.trans keptThird).trans keeps).later,
    there, allowed, ?_, rfl⟩
  by_cases completed : current.status = .completed
  · rw [if_pos completed] at posts ⊢
    exact posts.persists (named ▸ keeps.entriesOf lockedThird) keeps.persists
  · rw [if_neg completed] at posts ⊢
    exact posts.congr (keeps.entriesOf lockedThird)

/-- The transaction of a reversed dispute settles a reversal. -/
theorem reverseBody (drafts : world.Drafts who .readCommitted {}) (since : setting.Since world.db) :
    setting.Within commit who (fun _ last => Settles setting (Reverses setting id) who last)
      (PaymentsService.reverseBody id) world := by
  apply (Within.lockTransaction drafts id true).bind
  rintro found second _ kept ⟨drafts, read, locks⟩
  rw [Changes.apply_empty] at read
  apply Within.orThrow_bind
  rintro current rfl
  have locked := locks current rfl
  have found := read.symm
  have named : current.id = id := Table.key_of_get? found
  apply Within.require_bind
  intro allowed
  have charged : second.rowLocks (.transaction current.id) = some who := by
    rw [named]
    exact locked
  refine Within.postAndMark (fun db entries => ChargesBack db current entries) locked found
    (Within.chargeBack drafts charged) ?_
  intro third later entries timestamp keptThird keeps lockedThird there posts
  refine ⟨current, entries, timestamp, since.later ((kept.trans keptThird).trans keeps).later,
    there, allowed, ?_, rfl⟩
  exact posts.persists (named ▸ keeps.entriesOf lockedThird) keeps.persists

/-- The transaction of a dispute settles the dispute of the payment that was checked. -/
theorem raiseBody (drafts : world.Drafts who .readCommitted {}) {checked : Transaction}
    (known : ∃ row, world.db.transactions.get? id = some row)
    (read : setting.Read world.db id checked)
    (allowed : checked.status.Allows TransactionStatus.disputed.text) :
    setting.Within commit who (fun _ last => Settles setting (Raises setting id) who last)
      (PaymentsService.raiseBody id checked) world := by
  have drafts : world.Drafts who .readCommitted (Changes.postAll {} []) := drafts
  refine (Within.updateAndRecord drafts known rfl _ _).mono ?_
  rintro _ last _ kept ⟨row, timestamp, found, locked, permitted, drafts⟩
  refine ⟨_, drafts, fun later rely => ?_⟩
  have keeps := Keeps.of_rely rely
  exact ⟨row, checked, timestamp, (keeps.transaction locked).trans found,
    read.later (kept.trans keeps).later, allowed, permitted, rfl⟩

/-- The transaction of a rejected dispute settles its rejection. -/
theorem rejectBody (drafts : world.Drafts who .readCommitted {}) {checked : Transaction}
    (known : ∃ row, world.db.transactions.get? id = some row)
    (read : setting.Read world.db id checked)
    (allowed : checked.status.Allows TransactionStatus.completed.text) :
    setting.Within commit who (fun _ last => Settles setting (Rejects setting id) who last)
      (PaymentsService.rejectBody id) world := by
  have drafts : world.Drafts who .readCommitted (Changes.postAll {} []) := drafts
  refine (Within.updateAndRecord drafts known rfl _ _).mono ?_
  rintro _ last _ kept ⟨row, timestamp, found, locked, permitted, drafts⟩
  refine ⟨_, drafts, fun later rely => ?_⟩
  have keeps := Keeps.of_rely rely
  exact ⟨row, checked, timestamp, (keeps.transaction locked).trans found,
    read.later (kept.trans keeps).later, allowed, permitted, rfl⟩

/-! ## Creating a payment -/

section Checks

variable {seen : Database} {startedAt : Nat}

/-- The sender's row is locked, read and has a currency. -/
theorem lockSender (untouched : world.Untouched who seen startedAt) (id : AccountId) :
    setting.Within commit who
      (fun account last => last.Untouched who seen startedAt ∧ last.Reads who (.account id) ∧
        seen.Denominates id account.currency)
      (PaymentsService.lockSender id) world := by
  have locks : setting.Within commit who
      (fun account last => last.Untouched who seen startedAt ∧ last.Reads who (.account id) ∧
        seen.Denominates id account.currency)
      (AccountsService.lockForUpdate id) world := by
    apply (Within.lockAccount untouched id).bind
    rintro found second _ _ ⟨untouched, locks⟩
    apply Within.orThrow
    intro account same
    obtain ⟨reads, found⟩ := locks account same
    exact ⟨untouched, reads, account, found, rfl⟩
  apply locks.tryCatch
  intro error later _ _
  cases error.couldNotObtainLock with
  | true => exact .fail _
  | false => exact .fail _

/-- The recipient's account has the destination currency. -/
theorem checkRecipient (untouched : world.Untouched who seen startedAt) (dto : CreatePaymentDto) :
    setting.Within commit who
      (fun _ last => last.Untouched who seen startedAt ∧
        seen.Denominates dto.recipientAccountId dto.destinationCurrency)
      (PaymentsService.checkRecipient dto) world := by
  apply (Within.look untouched (.account dto.recipientAccountId)).bind
  rintro found second _ _ ⟨untouched, read, _⟩
  apply Within.orThrow_bind
  intro account same
  rw [same] at read
  exact Within.require fun currency => ⟨untouched, account, read.symm, currency⟩

/-- A date has the day of the clock. -/
theorem startOfDay_date (clock : Nat) : startOfDay (clock / 1000 * 1000) = startOfDay clock := by
  unfold startOfDay
  omega

/-- The limits were met by the tables the transaction sees, on the day its clock said. -/
theorem checkLimits (untouched : world.Untouched who seen startedAt) (deployment : Deployment)
    (dto : CreatePaymentDto) :
    setting.Within commit who
      (fun _ last => last.Untouched who seen startedAt ∧ ∃ clock, setting.timely clock ∧
        Limited deployment dto (startOfDay clock) seen ∧
        setting.dated startedAt seen
          (.sql (.select (.outgoingVolume dto.senderAccountId (startOfDay clock)))))
      (PaymentsService.checkLimits deployment dto) world := by
  apply Within.require_bind
  intro amount
  apply (Within.timely untouched).bind
  rintro now second _ _ ⟨untouched, clock, timely, rfl⟩
  rw [startOfDay_date]
  apply (Within.look untouched (.outgoingCount dto.senderAccountId (startOfDay clock))).bind
  rintro count third _ _ ⟨untouched, counted, _⟩
  apply Within.require_bind
  intro fewer
  apply (Within.look untouched (.outgoingVolume dto.senderAccountId (startOfDay clock))).bind
  rintro volume last _ _ ⟨untouched, summed, looked⟩
  subst counted summed
  exact Within.require fun less => ⟨untouched, clock, timely, ⟨amount, fewer, less⟩, looked⟩

end Checks

/-- Asking for a rate keeps the draft. -/
theorem getRate (drafts : world.Drafts who isolation changes) (source destination : String) :
    setting.Within commit who (fun _ last => last.Drafts who isolation changes)
      (FxService.getRate source destination) world := by
  unfold FxService.getRate
  by_cases same : source = destination
  · rw [if_pos same]
    exact .ret drafts
  · rw [if_neg same]
    apply (Within.cacheGet drafts _).bind
    rintro cached second _ _ drafts
    have loads : setting.Within commit who (fun _ last => last.Drafts who isolation changes)
        ((Payroute.orThrow
            (.badRequest s!"Unsupported currency pair: {source} → {destination}")
            (FxService.simulatedRates source destination)).bind fun rate =>
          (Payroute.call (.cacheSet (.rate source destination) (.rate rate)
            FxService.rateCacheTtlMs)).bind fun _ => .ret rate) second := by
      apply Within.orThrow_bind
      intro rate _
      apply (Within.cacheSet drafts _ _ _).bind
      rintro _ third _ _ drafts
      exact .ret drafts
    cases cached with
    | none => exact loads
    | some value =>
        cases value with
        | rate units => exact .ret drafts
        | response _ _ | page _ | stats _ => exact loads

/-- The quote joins the draft; what it converts to is not negative. -/
theorem createQuote (drafts : world.Drafts who isolation changes) (source destination : String)
    (amount : Nat) :
    setting.Within commit who
      (fun quote last => 0 ≤ quote.destinationAmount ∧
        last.Drafts who isolation (changes.quote quote))
      (FxService.createQuote source destination (numberText amount)) world := by
  apply (Within.getRate drafts source destination).bind
  rintro rate second _ _ drafts
  apply (Within.newDate drafts).bind
  rintro now third _ _ drafts
  refine (Within.insertQuote drafts _).mono ?_
  rintro quote last _ _ ⟨_, converted, _, drafts⟩
  refine ⟨?_, drafts⟩
  rw [converted]
  exact FxService.convert_nonneg amount rate

/-- What `reserveFunds` has drafted when it returns. -/
def Opens (setting : Setting) (who : ProcessId) (deployment : Deployment) (dto : CreatePaymentDto)
    (saved : Transaction) (last : World) : Prop :=
  ∃ row changes, saved = { row with status := .processing } ∧
    last.Drafts who .serializable changes ∧
    ∀ later : World, setting.Rely who last later →
      Creates setting dto row later.db (changes.apply later.db) ∧
        Checked setting deployment dto row later.db

/-- The transaction of `createPayment` opens a payment within the limits. -/
theorem reserveFunds (start : World) (issues : setting.Issues who (.begin .serializable) start)
    (since : setting.Since start.db) (deployment : Deployment) (dto : CreatePaymentDto) :
    setting.Within commit who (Opens setting who deployment dto)
      (PaymentsService.reserveFunds deployment dto) (start.begin who .serializable) := by
  apply (Within.lockSender (.begin start who) dto.senderAccountId).bind
  rintro sender second _ kept₁ ⟨begun, readsFirst, denominates⟩
  apply Within.require_bind
  intro currency
  rw [currency] at denominates
  apply (Within.checkRecipient begun dto).bind
  rintro _ third _ kept₂ ⟨untouched, received⟩
  apply (Within.checkLimits untouched deployment dto).bind
  rintro _ fourth _ kept₃ ⟨untouched, clock, timely, limited, looked⟩
  apply (Within.createQuote untouched.drafts _ _ _).bind
  rintro quote fifth _ kept₄ ⟨nonneg, drafts⟩
  apply (Within.newDate drafts).bind
  rintro now sixth _ kept₅ drafts
  apply Within.require_bind
  intro _
  have before := ((kept₂.trans kept₃).trans kept₄).trans kept₅
  have earlier := kept₁.trans before
  have since : setting.Since sixth.db := since.later earlier.later
  have reads := readsFirst.keeps before
  apply (Within.insertTransaction drafts rfl _).bind
  rintro row seventh _ kept₆
    ⟨⟨units, amount, shape⟩, born, drafts, locked, visible, absent, entries, history⟩
  rw [numericOfText_numberText] at amount
  cases amount
  obtain ⟨createdAt, inserted⟩ : row.createdAt = start.clock ∧
      setting.dated start.clock start.db (.sql (.insertTransaction _)) := by
    obtain ⟨log, opened⟩ := earlier.session _ (World.Untouched.begin start who)
    exact (born _ opened).imp_right fun dated => dated rfl
  apply (Within.insertHistory drafts _ _ _ locked).bind
  rintro _ eighth _ kept₇ ⟨opened, drafts⟩
  apply (Within.debit drafts (kept₇.locks _ locked) (reads.keeps (kept₆.trans kept₇))
    (numericOfText_numberText _) fun read parsed => ?_).bind
  swap
  · rw [numericOfText_minus_numberText] at parsed
    exact (Option.some.inj parsed).symm
  rintro entry ninth _ kept₈ ⟨known, paid, terms, _, drafts⟩
  have keptSince := (kept₆.trans kept₇).trans kept₈
  have paid := paid.unique (denominates.persists (earlier.trans keptSince).persists)
  subst paid
  have starts : ({ status := some .processing } : TransactionPatch).providerReference = none := rfl
  apply (Within.updateTransaction drafts row.id starts).bind
  rintro _ tenth _ kept₉ (⟨_, _, held, drafts, _⟩ | ⟨unseen, drafts⟩)
  swap
  · have current := (visible.keeps ((kept₇.trans kept₈).trans kept₉)).current
    rw [drafts.transaction current] at unseen
    exact absurd ((Table.get?_put_self _ row).symm.trans unseen) (Option.some_ne_none _)
  apply (Within.insertHistory drafts _ _ _ held).bind
  rintro _ last _ kept₁₀ ⟨reserved, drafts⟩
  apply Within.ret
  refine ⟨row, openingOf quote row entry opened reserved, rfl, drafts, fun later rely => ?_⟩
  have rest := (((kept₇.trans kept₈).trans kept₉).trans kept₁₀).trans (Keeps.of_rely rely)
  have all := kept₆.trans rest
  have whole := earlier.trans all
  obtain ⟨same, posted, recorded⟩ := rest.rows _ locked
  refine ⟨⟨quote, entry, opened, reserved, since.later all.later, same.trans absent,
    posted.trans entries, recorded.trans history, congrArg Transaction.senderAccountId shape,
    congrArg Transaction.recipientAccountId shape, congrArg Transaction.sourceCurrency shape,
    congrArg Transaction.destinationCurrency shape, congrArg Transaction.sourceAmount shape,
    (congrArg Transaction.destinationAmount shape).symm ▸ nonneg,
    congrArg Transaction.status shape, congrArg Transaction.providerReference shape,
    denominates.persists whole.persists, terms, rfl⟩, start.db, clock, issues.holds, whole.drift,
    timely, createdAt ▸ issues.timely, ?_, received.persists whole.persists, limited, ?_⟩
  swap
  · rw [createdAt]
    exact ⟨looked, _, rfl, rfl, inserted⟩
  exact RowVersion.account.inj (begun.rowAt readsFirst (before.trans all))

end Within
end Setting
end Payroute
