import Payroute.Runs.Success
import Payroute.Runs.Solo

/-! # Reversing a payment undisturbed

What the two ways of reversing a payment do when every call gets through and
nobody else is at work: the refund and the chargeback of a dispute.
-/

namespace Payroute

open EffectSystem KeyedTable Program

/-- The recipient can pay the amount back and the sender's account has room for its own. -/
structure Database.Chargeable (db : Database) (row : Transaction) : Prop where
  differ : row.senderAccountId ≠ row.recipientAccountId
  owed : 0 ≤ row.destinationAmount
  paid : 0 ≤ row.sourceAmount
  recipient : ∃ account, db.accounts.get? row.recipientAccountId = some account ∧
    row.destinationAmount ≤ account.balance ∧ Fits account.balance
  sender : ∃ account, db.accounts.get? row.senderAccountId = some account ∧
    0 ≤ account.balance ∧ Fits (account.balance + row.sourceAmount)

section Ledger

variable {who : ProcessId} {start world : World} {changes : Changes} {id : TransactionId}

/-- A debit works on an account that covers it. -/
theorem succeeds_debit (working : start.Working who changes world) {accountId : AccountId}
    {amount : Int} {account : Account} (nonneg : 0 ≤ amount)
    (payment : (changes.apply (start.view who)).transactions.get? id ≠ none)
    (found : (changes.apply (start.view who)).accounts.get? accountId = some account)
    (covered : amount ≤ account.balance) (fits : Fits account.balance)
    (free : start.Free who (.account accountId)) :
    Succeeds who (fun entry last =>
      entry.terms = debitTerms id accountId account.currency amount ∧
      start.Working who (changes.post entry) last)
      (LedgerService.debit accountId (amountText amount) id) world := by
  unfold Fits at fits
  have negated : numericOfText ('-' :: amountText amount) = some (-amount) :=
    FixedPoint.read?_minus_columnText (by decide) nonneg
  apply (succeeds_select working (.account accountId)).bind
  intro reply second read
  obtain ⟨same, working⟩ := read
  change reply = (changes.apply (start.view who)).accounts.get? accountId at same
  rw [same, found]
  change Succeeds who _ ((sql (.updateBalance .debit (amountText amount) accountId)).bind _) second
  have signed : EntryType.debit.signed amount = -amount := rfl
  have left : 0 ≤ account.balance + EntryType.debit.signed amount := by
    rw [signed]
    omega
  have below : Fits (account.balance + EntryType.debit.signed amount) := by
    rw [signed]
    unfold Fits
    omega
  apply (succeeds_updateBalance working (numericOfText_amountText amount) found
    (fun _ => covered) left below free).bind
  intro balance third updated
  obtain ⟨returned, working⟩ := updated
  unfold require
  rw [if_pos returned]
  have there : ((changes.adjust accountId (EntryType.debit.signed amount)).apply
      (start.view who)).accounts.get? accountId ≠ none := by
    change ((changes.adjustments ++ [(accountId, -amount)]).foldl adjust
      (start.view who).accounts).get? accountId ≠ none
    rw [List.foldl_append, List.foldl_cons, List.foldl_nil, get?_adjust, if_pos rfl]
    change ((changes.apply (start.view who)).accounts.get? accountId).map _ ≠ none
    rw [found]
    exact Option.some_ne_none _
  have inserts : Succeeds who (fun entry last =>
      entry.terms = debitTerms id accountId account.currency amount ∧
      start.Working who ((changes.adjust accountId (EntryType.debit.signed amount)).enter entry)
        last)
      (sql (.insertEntry { transactionId := id, accountId := accountId
                           currency := account.currency, amount := '-' :: amountText amount
                           entryType := .debit, isReversal := false })) third :=
    succeeds_insertEntry working negated (by unfold Fits; omega) payment there
  apply inserts.mono
  intro entry last inserted
  obtain ⟨terms, working⟩ := inserted
  refine ⟨terms, ?_⟩
  have owner : entry.accountId = accountId := congrArg EntryTerms.accountId terms
  have units : entry.amount = -amount := congrArg EntryTerms.amount terms
  rw [← Changes.enter_adjust, owner, units]
  exact working

/-- A credit works on an account with room for it. -/
theorem succeeds_credit (working : start.Working who changes world) {accountId : AccountId}
    {amount : Int} {account : Account} (nonneg : 0 ≤ amount)
    (payment : (changes.apply (start.view who)).transactions.get? id ≠ none)
    (found : (changes.apply (start.view who)).accounts.get? accountId = some account)
    (solvent : 0 ≤ account.balance) (fits : Fits (account.balance + amount))
    (free : start.Free who (.account accountId)) :
    Succeeds who (fun entry last =>
      entry.terms = creditTerms id accountId account.currency amount ∧
      start.Working who (changes.post entry) last)
      (LedgerService.credit accountId (amountText amount) id) world := by
  apply (succeeds_select working (.account accountId)).bind
  intro reply second read
  obtain ⟨same, working⟩ := read
  change reply = (changes.apply (start.view who)).accounts.get? accountId at same
  rw [same, found]
  have entered : Fits amount := by
    unfold Fits at fits ⊢
    omega
  exact succeeds_enterCredit working (numericOfText_amountText amount) entered payment found
    (by omega) fits free

end Ledger

/-! ## Compensations -/

/-- What the debits took from an account: the sum of their absolute amounts. -/
def owedTo (debits : List LedgerEntry) (id : AccountId) : Int :=
  ((debits.filter fun debit => decide (debit.accountId = id)).map
    fun debit => (debit.amount.natAbs : Int)).sum

/-- Without debits nobody is owed anything. -/
@[simp] theorem owedTo_nil (id : AccountId) : owedTo [] id = 0 := rfl

/-- What is owed for the debits adds up. -/
theorem owedTo_cons (debit : LedgerEntry) (rest : List LedgerEntry) (id : AccountId) :
    owedTo (debit :: rest) id =
      (if debit.accountId = id then (debit.amount.natAbs : Int) else 0) + owedTo rest id := by
  unfold owedTo
  by_cases same : debit.accountId = id
  · rw [if_pos same, List.filter_cons_of_pos (by exact decide_eq_true same), List.map_cons,
      List.sum_cons]
  · rw [if_neg same, List.filter_cons_of_neg (by simpa using same), zero_add]

/-- It is not negative. -/
theorem owedTo_nonneg (debits : List LedgerEntry) (id : AccountId) : 0 ≤ owedTo debits id := by
  induction debits with
  | nil => exact le_refl 0
  | cons debit rest ih =>
      rw [owedTo_cons]
      split
      · omega
      · omega

/-- What the constraints of the tables say of the debits of a transaction, with room in
the balances for what they took. -/
structure Database.Reimbursable (db : Database) (id : TransactionId) (debits : List LedgerEntry) :
    Prop where
  payment : db.transactions.get? id ≠ none
  account : ∀ debit ∈ debits, db.accounts.get? debit.accountId ≠ none
  fits : ∀ debit ∈ debits, Fits debit.amount
  solvent : ∀ row ∈ db.accounts.rows, 0 ≤ row.balance
  room : ∀ row ∈ db.accounts.rows, Fits (row.balance + owedTo debits row.id)

/-- One reversal leaves room for the rest. -/
theorem Database.Reimbursable.post {db : Database} {changes : Changes} {id : TransactionId}
    {debit entry : LedgerEntry} {rest : List LedgerEntry}
    (able : (changes.apply db).Reimbursable id (debit :: rest))
    (terms : entry.terms = reversalTerms id debit) :
    ((changes.post entry).apply db).Reimbursable id rest := by
  have accounts : ∀ wanted, ((changes.post entry).apply db).accounts.get? wanted =
      if wanted = debit.accountId then
        ((changes.apply db).accounts.get? wanted).map (Account.bump debit.amount.natAbs)
      else (changes.apply db).accounts.get? wanted := by
    intro wanted
    have owner : entry.accountId = debit.accountId := congrArg EntryTerms.accountId terms
    have added : entry.amount = debit.amount.natAbs := congrArg EntryTerms.amount terms
    change ((changes.adjustments ++ [(entry.accountId, entry.amount)]).foldl adjust
      db.accounts).get? wanted = _
    rw [List.foldl_append, List.foldl_cons, List.foldl_nil, get?_adjust, owner, added]
    rfl
  have balance : ∀ row ∈ ((changes.post entry).apply db).accounts.rows,
      0 ≤ row.balance ∧ Fits (row.balance + owedTo rest row.id) := by
    intro row member
    have there : ((changes.post entry).apply db).accounts.get? row.id = some row :=
      Table.get?_of_mem member
    rw [accounts] at there
    by_cases same : row.id = debit.accountId
    · rw [if_pos same] at there
      obtain ⟨before, known, bumped⟩ := Option.map_eq_some_iff.mp there
      have named : before.id = row.id := Table.key_of_get? known
      have nonneg := able.solvent before (Table.mem_of_get? known)
      have room := able.room before (Table.mem_of_get? known)
      rw [owedTo_cons, if_pos (same.symm.trans named.symm), ← add_assoc, named] at room
      have grown : row.balance = before.balance + debit.amount.natAbs := by
        rw [← bumped]
        rfl
      rw [grown]
      refine ⟨?_, room⟩
      omega
    · rw [if_neg same] at there
      have room := able.room row (Table.mem_of_get? there)
      rw [owedTo_cons, if_neg (Ne.symm same), zero_add] at room
      exact ⟨able.solvent row (Table.mem_of_get? there), room⟩
  refine ⟨able.payment, ?_, ?_, ?_, ?_⟩
  · intro other member
    have known := able.account other (List.mem_cons_of_mem _ member)
    rw [accounts]
    split
    · rw [ne_eq, Option.map_eq_none_iff]
      exact known
    · exact known
  · exact fun other member => able.fits other (List.mem_cons_of_mem _ member)
  · exact fun row member => (balance row member).1
  · exact fun row member => (balance row member).2

section Loop

variable {who : ProcessId} {start world : World} {changes : Changes} {id : TransactionId}

/-- A debit is reversed on an account with room for it. -/
theorem succeeds_compensate {debit : LedgerEntry} {rest : List LedgerEntry}
    (working : start.Working who changes world)
    (able : (changes.apply (start.view who)).Reimbursable id (debit :: rest))
    (free : start.Free who (.account debit.accountId)) :
    Succeeds who (fun entry last => entry.terms = reversalTerms id debit ∧
      start.Working who (changes.post entry) last) (LedgerService.compensate id debit) world := by
  obtain ⟨row, found⟩ := Option.ne_none_iff_exists'.mp (able.account debit List.mem_cons_self)
  have named : row.id = debit.accountId := Table.key_of_get? found
  have nonneg := able.solvent row (Table.mem_of_get? found)
  have later := owedTo_nonneg rest debit.accountId
  have amount := able.fits debit List.mem_cons_self
  have room := able.room row (Table.mem_of_get? found)
  rw [named, owedTo_cons, if_pos rfl] at room
  unfold Fits at amount room
  refine succeeds_enterCredit working (numericOfText_reversalAmount debit.amount) ?_ able.payment
    found ?_ ?_ free
  · unfold Fits
    omega
  · omega
  · unfold Fits
    omega

/-- The loop of `createCompensatingEntries`, by induction on the debits that are left. -/
theorem succeeds_compensateAll (debits : List LedgerEntry)
    (working : start.Working who changes world)
    (able : (changes.apply (start.view who)).Reimbursable id debits)
    (free : ∀ debit ∈ debits, start.Free who (.account debit.accountId)) :
    Succeeds who (fun entries last =>
      entries.map LedgerEntry.terms = debits.map (reversalTerms id) ∧
      start.Working who (changes.postAll entries) last)
      (LedgerService.compensateAll id debits) world := by
  induction debits generalizing world changes with
  | nil => exact Completes.ret ⟨rfl, working⟩
  | cons debit rest ih =>
      apply (succeeds_compensate working able (free debit List.mem_cons_self)).bind
      intro entry second posted
      obtain ⟨terms, working⟩ := posted
      apply (ih working (able.post terms)
        fun other member => free other (List.mem_cons_of_mem _ member)).bind
      intro entries last posted
      apply Completes.ret
      refine ⟨?_, posted.2⟩
      rw [List.map_cons, List.map_cons, terms, posted.1]

/-- So are all debits of the payment. -/
theorem succeeds_createCompensatingEntries (working : start.Working who {} world)
    (able : (start.view who).Reimbursable id ((start.view who).originalDebits id))
    (free : ∀ debit ∈ (start.view who).originalDebits id,
      start.Free who (.account debit.accountId)) :
    Succeeds who (fun entries last =>
      entries.map LedgerEntry.terms =
        ((start.view who).originalDebits id).map (reversalTerms id) ∧
      start.Working who (Changes.postAll {} entries) last)
      (LedgerService.createCompensatingEntries id) world := by
  apply (succeeds_select working (.originalDebits id)).bind
  intro debits second read
  obtain ⟨same, working⟩ := read
  rw [Changes.apply_empty] at same
  subst same
  refine succeeds_compensateAll _ working ?_ free
  rw [Changes.apply_empty]
  exact able

end Loop

/-! ## Guarded by the marker -/

section Bodies

variable {who : ProcessId} {start world : World} {id : TransactionId} {row : Transaction}

/-- The look for a reversal always works. -/
theorem succeeds_hasBeenReversed (working : start.Working who {} world) :
    Succeeds who (fun reversed last => (reversed = true ↔ (start.view who).HasReversal id) ∧
      start.Working who {} last) (LedgerService.hasBeenReversed id) world := by
  apply (succeeds_select working (.reversalCount id)).bind
  intro count last read
  obtain ⟨same, working⟩ := read
  rw [Changes.apply_empty] at same
  apply Completes.ret
  refine ⟨?_, working⟩
  rw [decide_eq_true_iff, same]
  exact hasReversal_iff_count _ _

/-- What the recipient and the sender need for a chargeback, unless it is made already. -/
def Database.Reversible (db : Database) (row : Transaction) : Prop :=
  db.HasReversal row.id ∨ db.Chargeable row

/-- A chargeback. The two accounts differ, so the debit leaves the sender's as it is. -/
theorem succeeds_chargeBack (working : start.Working who {} world)
    (payment : (start.view who).transactions.get? row.id ≠ none)
    (able : (start.view who).Reversible row)
    (free : ∀ account, start.Free who (.account account)) :
    Succeeds who (fun _ last => ∃ entries, ChargesBack (start.view who) row entries ∧
      start.Working who (Changes.postAll {} entries) last) (PaymentsService.chargeBack row)
      world := by
  apply (succeeds_hasBeenReversed working).bind
  intro reversed second read
  obtain ⟨same, working⟩ := read
  by_cases marked : (start.view who).HasReversal row.id
  · rw [if_pos (same.mpr marked)]
    exact Completes.ret ⟨[], .inl ⟨marked, rfl⟩, working⟩
  · rw [if_neg fun holds => marked (same.mp holds)]
    have able := able.resolve_left marked
    obtain ⟨recipient, found, covered, fits⟩ := able.recipient
    obtain ⟨sender, there, solvent, room⟩ := able.sender
    have empty := Changes.apply_empty (start.view who)
    apply (succeeds_debit working able.owed (by rw [empty]; exact payment)
      (by rw [empty]; exact found) covered fits (free _)).bind
    intro paid third debited
    obtain ⟨taken, working⟩ := debited
    have owner : paid.accountId = row.recipientAccountId := congrArg EntryTerms.accountId taken
    have kept : (((Changes.post {} paid).apply (start.view who)).accounts.get?
        row.senderAccountId) = some sender := by
      change (adjust (start.view who).accounts (paid.accountId, paid.amount)).get?
        row.senderAccountId = some sender
      rw [get?_adjust, owner, if_neg able.differ]
      exact there
    apply (succeeds_credit working able.paid payment kept solvent room (free _)).bind
    intro back last credited
    apply Completes.ret
    refine ⟨[paid, back], .inr ⟨marked, recipient.currency, sender.currency,
      ⟨recipient, found, rfl⟩, ⟨sender, there, rfl⟩, able.owed, ?_⟩, credited.2⟩
    rw [List.map_cons, List.map_cons, List.map_nil, taken, credited.1]

/-- The funds are returned, unless they were before. -/
theorem succeeds_returnFunds (working : start.Working who {} world)
    (able : (start.view who).HasReversal id ∨
      (start.view who).Reimbursable id ((start.view who).originalDebits id))
    (free : ∀ account, start.Free who (.account account)) :
    Succeeds who (fun _ last => ∃ entries, ReturnsFunds (start.view who) id entries ∧
      start.Working who (Changes.postAll {} entries) last) (PaymentsService.returnFunds id)
      world := by
  apply (succeeds_hasBeenReversed working).bind
  intro reversed second read
  obtain ⟨same, working⟩ := read
  by_cases marked : (start.view who).HasReversal id
  · rw [if_pos (same.mpr marked)]
    exact Completes.ret ⟨[], .inl ⟨marked, rfl⟩, working⟩
  · rw [if_neg fun holds => marked (same.mp holds)]
    apply (succeeds_createCompensatingEntries working (able.resolve_left marked)
      fun debit _ => free _).bind
    intro entries last posted
    apply Completes.ret
    exact ⟨entries, .inr ⟨marked, posted.1⟩, posted.2⟩

/-- The status and its history row, after the postings. -/
theorem succeeds_markReversed {entries : List LedgerEntry}
    (working : start.Working who (Changes.postAll {} entries) world)
    (found : (start.view who).transactions.get? id = some row)
    (free : start.Free who (.transaction id)) :
    Succeeds who (fun _ last => ∃ timestamp, start.Working who (Settlement.changes
      { id := id
        entries := entries
        patches := [{ status := some .reversed }]
        history := [{ transactionId := id, fromState := some row.status.text
                      toState := TransactionStatus.reversed.text, timestamp := timestamp }] }) last)
      (PaymentsService.markReversed id row) world := by
  have there : ((Changes.postAll {} entries).apply (start.view who)).transactions.get? id =
      some row := by
    rw [Changes.postAll_eq]
    exact found
  apply (succeeds_updateTransaction working { status := some .reversed } there free).bind
  intro _ second working
  apply (succeeds_insertHistory working _ _ (Changes.patch_known _ there)).mono
  intro _ last recorded
  obtain ⟨timestamp, working⟩ := recorded
  refine ⟨timestamp, ?_⟩
  rw [Changes.postAll_eq] at working
  exact working

/-- What a refund needs of the ledger. -/
def Database.Refundable (db : Database) (row : Transaction) : Prop :=
  if row.status = .completed then db.Reversible row
  else db.HasReversal row.id ∨ db.Reimbursable row.id (db.originalDebits row.id)

/-- The ledger branch of a refund works on a payment that can be refunded. -/
theorem succeeds_refundLedger (working : start.Working who {} world)
    (found : (start.view who).transactions.get? id = some row)
    (able : (start.view who).Refundable row)
    (free : ∀ account, start.Free who (.account account)) :
    Succeeds who (fun _ last => ∃ entries,
      (if row.status = .completed then ChargesBack (start.view who) row entries
        else ReturnsFunds (start.view who) id entries) ∧
      start.Working who (Changes.postAll {} entries) last) (PaymentsService.refundLedger id row)
      world := by
  have named : row.id = id := Table.key_of_get? found
  subst named
  have payment : (start.view who).transactions.get? row.id ≠ none := by
    rw [found]
    exact Option.some_ne_none _
  unfold Database.Refundable at able
  unfold PaymentsService.refundLedger
  by_cases completed : row.status = .completed
  · simp only [if_pos completed] at able ⊢
    exact succeeds_chargeBack working payment able free
  · simp only [if_neg completed] at able ⊢
    exact succeeds_returnFunds working able free

/-- So does the body of its transaction. -/
theorem succeeds_refundBody (opened : start.sessions who ≠ none)
    (found : (start.view who).transactions.get? id = some row)
    (allowed : row.status.Allows TransactionStatus.reversed.text)
    (able : (start.view who).Refundable row) (free : ∀ row, start.Free who row) :
    Succeeds who (fun _ last => ∃ entries timestamp,
      (if row.status = .completed then ChargesBack (start.view who) row entries
        else ReturnsFunds (start.view who) id entries) ∧
      start.Working who (Settlement.changes
        { id := id
          entries := entries
          patches := [{ status := some .reversed }]
          history := [{ transactionId := id, fromState := some row.status.text
                        toState := TransactionStatus.reversed.text, timestamp := timestamp }] })
        last) (PaymentsService.refundBody id) start := by
  have there : (Changes.apply {} (start.view who)).transactions.get? id = some row := by
    rw [Changes.apply_empty]
    exact found
  have locks : Succeeds who (fun reply last => reply = some row ∧ start.Working who {} last)
      (PaymentsService.lockForRefund id) start :=
    (succeeds_lockTransaction (.refl opened) true there (free _)).tryCatch
  apply locks.bind
  intro reply second locked
  obtain ⟨rfl, working⟩ := locked
  apply (succeeds_orThrow (fun value last => value = row ∧ start.Working who {} last)
    ⟨rfl, working⟩).bind
  intro current third same
  obtain ⟨rfl, working⟩ := same
  apply (succeeds_require (fun _ last => start.Working who {} last) allowed working).bind
  intro _ fourth working
  apply (succeeds_refundLedger working found able fun _ => free _).bind
  intro _ fifth posted
  obtain ⟨entries, charges, working⟩ := posted
  apply (succeeds_markReversed working found (free _)).mono
  intro _ last marked
  obtain ⟨timestamp, working⟩ := marked
  exact ⟨entries, timestamp, charges, working⟩

end Bodies

/-! ## A ledger that is marked reversed -/

/-- The look for a reversal run alone: it answers and changes nothing. -/
theorem run_hasBeenReversed (who : ProcessId) (id : TransactionId) (world : World) :
    backend.run who (LedgerService.hasBeenReversed id) [] world =
      ⟨.ok (decide (0 < Query.eval (world.view who) (.reversalCount id))), [], world⟩ := rfl

/-- Nothing is returned twice. -/
theorem run_returnFunds_marked {who : ProcessId} {id : TransactionId} {world : World}
    (marked : (world.view who).HasReversal id) :
    backend.run who (PaymentsService.returnFunds id) [] world = ⟨.ok (), [], world⟩ := by
  have reversed : decide (0 < Query.eval (world.view who) (.reversalCount id)) = true :=
    decide_eq_true ((hasReversal_iff_count _ id).mpr marked)
  unfold PaymentsService.returnFunds
  rw [Program.bind_eq, Machine.run_bind, run_hasBeenReversed, reversed]
  rfl

/-- Nothing is charged back twice. -/
theorem run_chargeBack_marked {who : ProcessId} {row : Transaction} {world : World}
    (marked : (world.view who).HasReversal row.id) :
    backend.run who (PaymentsService.chargeBack row) [] world = ⟨.ok (), [], world⟩ := by
  have reversed : decide (0 < Query.eval (world.view who) (.reversalCount row.id)) = true :=
    decide_eq_true ((hasReversal_iff_count _ row.id).mpr marked)
  unfold PaymentsService.chargeBack
  rw [Program.bind_eq, Machine.run_bind, run_hasBeenReversed, reversed]
  rfl

/-! ## A reversal as a program -/

namespace PaymentsService

/-- A reversal under the lock of the refunds of its payment. -/
def guardedReversal (id : TransactionId) (body : Service Unit) : Service Unit :=
  (acquireLock (.refund id) refundLockTtlMs).bind fun token =>
    (orThrow refundBusy token).bind fun token =>
      tryFinally (transaction .readCommitted body) (releaseLock (.refund id) token)

/-- What follows a reversal: the event, the caches and the row that is returned. -/
def concludeReversal (id : TransactionId) (reason : String) : Service (Option Transaction) :=
  (call (.emit (.refunded id reason))).bind fun _ =>
    invalidatePaymentCaches.bind fun _ => sql (.select (.transaction id))

/-- A reversal of a payment that may be reversed. -/
def reversal (id : TransactionId) (body : Service Unit) (reason : String) :
    Service (Option Transaction) :=
  (findTransaction id).bind fun row =>
    (validateTransition row.status TransactionStatus.reversed.text).bind fun _ =>
      (guardedReversal id body).bind fun _ => concludeReversal id reason

/-- A refund is a reversal with its own body and reason. -/
theorem refundPayment_eq (id : TransactionId) (dto : RefundPaymentDto) :
    refundPayment id dto = reversal id (refundBody id) dto.reason := by
  unfold refundPayment reversal guardedReversal
  simp only [bind_eq, bind_assoc]
  rfl

end PaymentsService

/-! ## While the lock of the refunds is held -/

section Locked

variable {fine : Operation → Delivery → Prop} {who : ProcessId} {world : World}
  {id : TransactionId} {α β : Type}

/-- The run fails and changes no table. -/
def Refused (first : World) (outcome : Except Failure α) (last : World) : Prop :=
  (∃ error, outcome = .error error) ∧ last.db = first.db

/-- Run alone, the payment is read and nothing changes. -/
theorem solo_findTransaction :
    Solo backend fine who (fun outcome last => last = world ∧
      ∀ row, outcome = .ok row → (world.view who).transactions.get? id = some row)
      (PaymentsService.findTransaction id) world := by
  have selects : Solo backend fine who (fun outcome last => last = world ∧
      ∀ found, outcome = .ok found → found = (world.view who).transactions.get? id)
      (sql (.select (.transaction id))) world := by
    refine solo_call (.sql (.select (.transaction id))) ?_
    intro delivery _
    rcases World.exec_cases who delivery (.sql (.select (.transaction id))) world with
      ran | ⟨failed, state⟩
    · rw [ran]
      refine ⟨rfl, fun found same => ?_⟩
      exact (Except.ok.inj same).symm
    · refine ⟨?_, fun found same => ?_⟩
      · rcases state with same | same
        · exact same
        · exact same
      · rw [failed] at same
        cases same
  refine selects.bind ?_ ?_
  · intro found later read
    obtain ⟨rfl, same⟩ := read
    have same := same found rfl
    cases found with
    | none => exact .fail ⟨rfl, fun row absurd => by cases absurd⟩
    | some row =>
        refine .ret ⟨rfl, fun other equal => ?_⟩
        cases equal
        exact same.symm
  · intro error later read
    exact ⟨read.1, fun row absurd => by cases absurd⟩

/-- Whoever does not get the lock gives up. -/
theorem solo_locked (held : world.redisLocks (.refund id) ≠ none) {rest : LockToken → Service β} :
    Solo backend fine who (Refused world)
      ((acquireLock (.refund id) PaymentsService.refundLockTtlMs).bind fun token =>
        (orThrow PaymentsService.refundBusy token).bind rest) world := by
  obtain ⟨lock, taken⟩ := Option.ne_none_iff_exists'.mp held
  have acquires : Solo backend fine who (fun outcome last => last.db = world.db ∧
      ∀ token, outcome = .ok token → token = none)
      (acquireLock (.refund id) PaymentsService.refundLockTtlMs) world := by
    refine solo_call (.acquireLock (.refund id) _) ?_
    intro delivery _
    have aside : world.Aside (World.exec who delivery (.acquireLock (.refund id)
        PaymentsService.refundLockTtlMs) world).2 := World.exec_neutral trivial
    refine ⟨aside.db, fun token same => ?_⟩
    have ran := World.exec_of_ok same
    rw [ran] at same
    change Except.ok (world.acquireLock (.refund id) _).1 = .ok token at same
    unfold World.acquireLock at same
    rw [taken] at same
    exact (Except.ok.inj same).symm
  refine acquires.bind ?_ ?_
  · intro token later locked
    obtain ⟨same, none⟩ := locked
    rw [none token rfl]
    exact .fail ⟨⟨_, rfl⟩, same⟩
  · intro error later locked
    exact ⟨⟨error, rfl⟩, locked.1⟩

/-- Run alone, a check goes one of two ways. -/
theorem solo_require_bind {condition : Prop} [Decidable condition] {failure : Failure}
    {rest : Unit → Service β} {post : Except Failure β → World → Prop}
    (met : condition → Solo backend fine who post (rest ()) world)
    (failed : post (.error failure) world) :
    Solo backend fine who post ((require condition failure).bind rest) world := by
  unfold require
  by_cases holds : condition
  · rw [if_pos holds]
    exact met holds
  · rw [if_neg holds]
    exact .fail failed

/-- A reversal gives up where another holds the lock. -/
theorem solo_reversal_locked (held : world.redisLocks (.refund id) ≠ none)
    {body : Service Unit} {reason : String} :
    Solo backend fine who (Refused world) (PaymentsService.reversal id body reason) world := by
  refine solo_findTransaction.bind ?_ ?_
  · intro row later read
    obtain ⟨rfl, _⟩ := read
    refine solo_require_bind (fun _ => ?_) ⟨⟨_, rfl⟩, rfl⟩
    refine (solo_locked held).bind ?_ fun error _ refused => ⟨⟨error, rfl⟩, refused.2⟩
    intro value last refused
    obtain ⟨⟨error, absurd⟩, _⟩ := refused
    cases absurd
  · intro error later read
    obtain ⟨rfl, _⟩ := read
    exact ⟨⟨error, rfl⟩, rfl⟩

end Locked

/-- A world at rest, inside a transaction just begun. -/
theorem World.AtRest.begun {world : World} (rest : world.AtRest) (who : ProcessId) :
    (world.begin who .readCommitted).sessions who ≠ none ∧
      (world.begin who .readCommitted).view who = world.db ∧
      ∀ row, (world.begin who .readCommitted).Free who row := by
  refine ⟨?_, ?_, fun row => ⟨?_, ?_⟩⟩
  · change Function.update world.sessions who _ who ≠ none
    rw [Function.update_self]
    exact Option.some_ne_none _
  · unfold World.view World.base World.log World.begin
    simp only [Function.update_self, Database.replay_nil]
  · intro blocked
    obtain ⟨other, held, _⟩ := blocked
    change world.rowLocks row = some other at held
    rw [rest.rowLocks] at held
    cases held
  · unfold World.Stale World.base World.begin
    simp only [Function.update_self, ne_eq, not_true_eq_false, not_false_eq_true]

section Operations

variable {who : ProcessId} {world : World} {id : TransactionId} {row : Transaction}

/-- What a refund commits. -/
def RefundCommits (id : TransactionId) (row : Transaction) (first second : Database) : Prop :=
  ∃ entries timestamp,
    (if row.status = .completed then ChargesBack first row entries
      else ReturnsFunds first id entries) ∧
    second = Settlement.apply
      { id := id
        entries := entries
        patches := [{ status := some .reversed }]
        history := [{ transactionId := id, fromState := some row.status.text
                      toState := TransactionStatus.reversed.text, timestamp := timestamp }] } first

/-- Run alone, the transaction of a refund commits it. -/
theorem succeeds_refundTransaction (rest : world.AtRest)
    (found : world.db.transactions.get? id = some row)
    (allowed : row.status.Allows TransactionStatus.reversed.text)
    (able : world.db.Refundable row) :
    Succeeds who (fun _ last => RefundCommits id row world.db last.db)
      (transaction .readCommitted (PaymentsService.refundBody id)) world := by
  obtain ⟨opened, view, free⟩ := rest.begun who
  apply succeeds_transaction
  rw [← view] at found able
  apply (succeeds_refundBody opened found allowed able free).mono
  intro _ last done
  obtain ⟨entries, timestamp, charges, working⟩ := done
  rw [view] at charges
  exact ⟨entries, timestamp, charges, working.commit⟩

/-- A cache that is reached. -/
theorem succeeds_invalidatePaymentCaches :
    Succeeds who (fun _ last => last.db = world.db) PaymentsService.invalidatePaymentCaches
      world := by
  have first : Succeeds who (fun _ last => last.db = world.db)
      (swallow (call (.cacheDelete .stats))) world := by
    apply Completes.swallow
    exact (succeeds_aside (.cacheDelete .stats) trivial rfl).mono
      fun _ last dropped => dropped.2.db
  apply first.bind
  intro _ second same
  apply Completes.swallow
  exact (succeeds_aside .cacheDeleteLists trivial rfl).mono
    fun _ last dropped => dropped.2.db.trans same

/-- A committed payment is found as it is. -/
theorem succeeds_findTransaction (rest : world.AtRest)
    (found : world.db.transactions.get? id = some row) :
    Succeeds who (fun value last => value = row ∧ last = world)
      (PaymentsService.findTransaction id) world := by
  have seen : (Query.transaction id).eval (world.view who) = some row := by
    rw [World.view_closed (rest.sessions who)]
    exact found
  have selects : Succeeds who (fun value last => value = some row ∧ last = world)
      (sql (.select (.transaction id))) world := by
    have done : world.perform who (.sql (.select (.transaction id))) =
        (.ok (some row), world) := by
      rw [← seen]
      rfl
    exact succeeds_call done ⟨rfl, rfl⟩
  apply selects.bind
  intro value last same
  obtain ⟨rfl, rfl⟩ := same
  exact Completes.ret ⟨rfl, rfl⟩

/-- A lock nobody holds is acquired. -/
theorem succeeds_acquireLock {key : LockKey} (unlocked : world.redisLocks key = none)
    (ttlMs : Nat) :
    Succeeds who (fun reply last => reply = some (world.next .token) ∧
      last = (world.perform who (.acquireLock key ttlMs)).2) (acquireLock key ttlMs) world := by
  have taken : (world.perform who (.acquireLock key ttlMs)).1 =
      .ok (some (world.next .token)) := by
    change Except.ok (world.acquireLock key _).1 = _
    unfold World.acquireLock
    rw [unlocked]
  exact succeeds_call (Prod.ext taken rfl) ⟨rfl, rfl⟩

/-- What follows the commit leaves the tables as they are. -/
theorem succeeds_concludeReversal {reason : String} :
    Succeeds who (fun _ last => last.db = world.db) (PaymentsService.concludeReversal id reason)
      world := by
  apply (succeeds_aside (.emit (.refunded id reason)) trivial rfl).bind
  intro _ second emitted
  apply succeeds_invalidatePaymentCaches.bind
  intro _ third dropped
  apply (succeeds_aside (.sql (.select (.transaction id))) trivial rfl).mono
  intro _ last read
  rw [read.2.db, dropped, emitted.2.db]

/-- A reversal leaves the tables its transaction commits. -/
theorem succeeds_reversal {body : Service Unit} {reason : String} {post : Database → Prop}
    (rest : world.AtRest) (found : world.db.transactions.get? id = some row)
    (allowed : row.status.Allows TransactionStatus.reversed.text)
    (unlocked : world.redisLocks (.refund id) = none)
    (reverses : ∀ start : World, start.AtRest → start.db = world.db →
      Succeeds who (fun _ last => post last.db) (transaction .readCommitted body) start) :
    Succeeds who (fun _ last => post last.db) (PaymentsService.reversal id body reason) world := by
  apply (succeeds_findTransaction rest found).bind
  intro value second same
  obtain ⟨rfl, rfl⟩ := same
  apply (succeeds_require (fun _ last => last = second) allowed rfl).bind
  intro _ third same
  subst same
  have guarded : Succeeds who (fun _ last => post last.db)
      (PaymentsService.guardedReversal id body) third := by
    apply (succeeds_acquireLock unlocked PaymentsService.refundLockTtlMs).bind
    intro token fourth locked
    have aside : third.Aside fourth := by
      rw [locked.2]
      exact World.perform_neutral trivial
    rw [locked.1]
    apply (succeeds_orThrow (fun _ last => last = fourth) rfl).bind
    intro token fifth same
    subst same
    apply (reverses fifth (rest.aside aside) aside.db).tryFinally
    intro _ later done
    apply Completes.swallow
    apply (succeeds_aside (.releaseLock (.refund id) token) trivial rfl).mono
    intro _ last released
    rw [released.2.db]
    exact done
  apply guarded.bind
  intro _ sixth done
  apply succeeds_concludeReversal.mono
  intro _ last same
  rw [same]
  exact done

/-- Run alone, the whole refund commits it. -/
theorem succeeds_refundPayment (rest : world.AtRest) (dto : RefundPaymentDto)
    (found : world.db.transactions.get? id = some row)
    (allowed : row.status.Allows TransactionStatus.reversed.text)
    (unlocked : world.redisLocks (.refund id) = none) (able : world.db.Refundable row) :
    Succeeds who (fun _ last => RefundCommits id row world.db last.db)
      (PaymentsService.refundPayment id dto) world := by
  rw [PaymentsService.refundPayment_eq]
  apply succeeds_reversal rest found allowed unlocked
  intro start rested same
  rw [← same] at found able ⊢
  exact succeeds_refundTransaction rested found allowed able

end Operations
end Payroute
