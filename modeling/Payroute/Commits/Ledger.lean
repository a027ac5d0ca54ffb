import Payroute.Commits.Relations
import Payroute.Isolation.Rules

/-! # The ledger service inside a transaction

Each function of `LedgerService` extends the draft by postings: entries whose
amounts are added to the balances of their accounts.
-/

namespace Payroute

open EffectSystem KeyedTable

namespace Database

/-- Accounts keep their currency. -/
theorem Denominates.persists {first second : Database} {id : AccountId} {currency : String}
    (denominates : first.Denominates id currency) (persists : first.Persists second) :
    second.Denominates id currency := by
  obtain ⟨row, found, same⟩ := denominates
  obtain ⟨later, there, kept⟩ := persists.account id row found
  exact ⟨later, there, kept.trans same⟩

/-- An account has one currency. -/
theorem Denominates.unique {db : Database} {id : AccountId} {first second : String}
    (left : db.Denominates id first) (right : db.Denominates id second) : first = second := by
  obtain ⟨row, found, rfl⟩ := left
  obtain ⟨other, there, rfl⟩ := right
  rw [found] at there
  cases there
  rfl

/-- Balance updates do not change currencies. -/
theorem denominates_of_apply {changes : Changes} {db : Database} {id : AccountId} {row : Account}
    (found : (changes.apply db).accounts.get? id = some row) :
    db.Denominates id row.currency := by
  obtain ⟨rounds, step⟩ := get?_adjustAll changes.adjustments db.accounts id
  change (changes.adjustments.foldl adjust db.accounts).get? id = some row at found
  rw [found] at step
  obtain ⟨before, there, same⟩ := Option.map_eq_some_iff.mp step.symm
  refine ⟨before, there, ?_⟩
  rw [← same]

/-- An account that has a currency is still there after the changes. -/
theorem Denominates.apply {changes : Changes} {db : Database} {id : AccountId} {currency : String}
    (denominates : db.Denominates id currency) :
    (changes.apply db).accounts.get? id ≠ none := by
  obtain ⟨row, found, _⟩ := denominates
  obtain ⟨rounds, step⟩ := get?_adjustAll changes.adjustments db.accounts id
  rw [found, Option.map_some] at step
  change (changes.adjustments.foldl adjust db.accounts).get? id ≠ none
  rw [step]
  exact Option.some_ne_none _

/-- The reversal marker and the debits of a transaction depend on its entries only. -/
theorem hasReversal_congr {first second : Database} {id : TransactionId}
    (same : second.entriesOf id = first.entriesOf id) :
    second.HasReversal id ↔ first.HasReversal id := by
  unfold HasReversal
  rw [same]

/-- The original debits depend on the payment's entries only. -/
theorem originalDebits_congr {first second : Database} {id : TransactionId}
    (same : second.entriesOf id = first.entriesOf id) :
    second.originalDebits id = first.originalDebits id := by
  unfold originalDebits
  rw [same]

end Database

/-- The count of reversal entries tells whether there is one. -/
theorem hasReversal_iff_count (db : Database) (id : TransactionId) :
    0 < Query.eval db (.reversalCount id) ↔ db.HasReversal id := by
  change 0 < ((db.entriesOf id).filter LedgerEntry.isReversal).length ↔ _
  rw [List.length_pos_iff_exists_mem]
  unfold Database.HasReversal
  simp only [List.mem_filter]

/-- What returns the funds depends on the payment's entries only. -/
theorem ReturnsFunds.congr {first second : Database} {id : TransactionId}
    {entries : List LedgerEntry} (returns : ReturnsFunds first id entries)
    (same : second.entriesOf id = first.entriesOf id) : ReturnsFunds second id entries := by
  unfold ReturnsFunds
  rw [Database.hasReversal_congr same, Database.originalDebits_congr same]
  exact returns

/-- What charges a payment back still does when its entries are the same and accounts persist. -/
theorem ChargesBack.persists {first second : Database} {row : Transaction}
    {entries : List LedgerEntry} (charges : ChargesBack first row entries)
    (same : second.entriesOf row.id = first.entriesOf row.id) (persists : first.Persists second) :
    ChargesBack second row entries := by
  rw [ChargesBack, Database.hasReversal_congr same]
  rcases charges with marked | ⟨unmarked, paid, refunded, recipient, sender, rest⟩
  · exact .inl marked
  · exact .inr ⟨unmarked, paid, refunded, recipient.persists persists, sender.persists persists,
      rest⟩

namespace Setting

/-- The entries of a transaction the process has locked stay as they are. -/
theorem Keeps.entriesOf {setting : Setting} {who : ProcessId} {first second : World}
    (keeps : setting.Keeps who first second) {id : TransactionId}
    (locked : first.rowLocks (.transaction id) = some who) :
    second.db.entriesOf id = first.db.entriesOf id :=
  (keeps.rows _ locked).2.1

/-- A transaction the process has locked stays as it is. -/
theorem Keeps.transaction {setting : Setting} {who : ProcessId} {first second : World}
    (keeps : setting.Keeps who first second) {id : TransactionId}
    (locked : first.rowLocks (.transaction id) = some who) :
    second.db.transactions.get? id = first.db.transactions.get? id :=
  (keeps.rows _ locked).1

namespace Within

variable {setting : Setting} {commit : Database → Database → Prop} {who : ProcessId}
  {world : World} {isolation : Isolation} {changes : Changes} {id : TransactionId}
  {accountId : AccountId} {amount : Text} {units : Int}

/-- A debit adds one negative entry in the account's currency to the draft, and its balance
change. -/
theorem debit (drafts : world.Drafts who isolation changes)
    (locked : world.rowLocks (.transaction id) = some who)
    (reads : world.Reads who (.account accountId)) (value : numericOfText amount = some units)
    (negates : ∀ read, numericOfText ('-' :: amount) = some read → read = -units) :
    setting.Within commit who
      (fun entry last => ∃ currency, last.db.Denominates accountId currency ∧
        entry.terms = debitTerms id accountId currency units ∧
        numericOfText ('-' :: amount) = some (-units) ∧
        last.Drafts who isolation (changes.post entry))
      (LedgerService.debit accountId amount id) world := by
  apply (Within.select drafts (.account accountId)).bind
  rintro found second _ kept ⟨drafts, read⟩
  apply Within.orThrow_bind
  intro account same
  have current := (reads.keeps kept).current
  have denominated : second.db.Denominates accountId account.currency := by
    have seen : (changes.apply second.db).accounts.get? accountId = some account := by
      rw [← drafts.account current, ← same, read]
      rfl
    exact Database.denominates_of_apply seen
  apply (Within.updateBalance drafts .debit amount accountId).bind
  rintro balance third _ keptThird ⟨applied, _⟩
  apply Within.require_bind
  intro holds
  obtain ⟨rest, taken⟩ := Option.isSome_iff_exists.mp holds
  obtain ⟨read, parsed, drafts⟩ := applied rest taken
  rw [value] at parsed
  cases parsed
  have locked := (kept.trans keptThird).locks _ locked
  refine (Within.insertEntry drafts _ locked).mono ?_
  rintro entry last _ keptLast ⟨posted, parsed, terms, drafts, _⟩
  have amount := negates posted parsed
  subst amount
  refine ⟨account.currency, ?_, terms, parsed, ?_⟩
  · exact (denominated.persists keptThird.persists).persists keptLast.persists
  · have account : entry.accountId = accountId := congrArg EntryTerms.accountId terms
    have amount : entry.amount = -units := congrArg EntryTerms.amount terms
    rw [← Changes.enter_adjust, account, amount]
    exact drafts

/-- Enter a credit and add its amount to the balance. The foreign key of the
entry guarantees that the account exists. -/
theorem enterCredit (drafts : world.Drafts who .readCommitted changes) (draft : EntryDraft)
    (locked : world.rowLocks (.transaction draft.transactionId) = some who)
    (value : numericOfText draft.amount = some units) :
    setting.Within commit who
      (fun entry last => entry.terms =
          { transactionId := draft.transactionId
            accountId := draft.accountId
            currency := draft.currency
            amount := units
            entryType := draft.entryType
            isReversal := draft.isReversal } ∧
        last.Drafts who .readCommitted (changes.post entry))
      ((sql (.insertEntry draft)).bind fun entry =>
        (sql (.updateBalance .credit draft.amount draft.accountId)).bind fun _ => .ret entry)
      world := by
  apply (Within.insertEntry drafts draft locked).bind
  rintro entry second _ kept ⟨posted, parsed, terms, drafts, account, found⟩
  rw [value] at parsed
  cases parsed
  rw [drafts.view] at found
  have known := Database.denominates_of_apply found
  apply (Within.updateBalance drafts .credit draft.amount draft.accountId).bind
  rintro balance last _ keptLast ⟨applied, refused⟩
  apply Within.ret
  refine ⟨terms, ?_⟩
  cases balance with
  | none =>
      rcases refused rfl with absurd | ⟨drafts, absent⟩
      · cases absurd
      · rw [drafts.view] at absent
        exact ((known.persists keptLast.persists).apply absent).elim
  | some balance =>
      obtain ⟨read, parsed, drafts⟩ := applied balance rfl
      rw [value] at parsed
      cases parsed
      have owner : entry.accountId = draft.accountId := congrArg EntryTerms.accountId terms
      have amount : entry.amount = units := congrArg EntryTerms.amount terms
      rw [← Changes.adjust_enter, owner, amount]
      exact drafts

/-- A credit adds one positive entry, and its balance change. -/
theorem credit (drafts : world.Drafts who .readCommitted changes)
    (locked : world.rowLocks (.transaction id) = some who)
    (value : numericOfText amount = some units) :
    setting.Within commit who
      (fun entry last => ∃ currency, last.db.Denominates accountId currency ∧
        entry.terms = creditTerms id accountId currency units ∧
        last.Drafts who .readCommitted (changes.post entry))
      (LedgerService.credit accountId amount id) world := by
  apply (Within.selectCommitted drafts (.account accountId)).bind
  rintro found second _ kept ⟨drafts, read⟩
  apply Within.orThrow_bind
  intro account same
  have denominated : second.db.Denominates accountId account.currency := by
    have seen : (changes.apply second.db).accounts.get? accountId = some account := by
      rw [← same, read]
      rfl
    exact Database.denominates_of_apply seen
  refine (Within.enterCredit drafts _ (kept.locks _ locked) value).mono ?_
  rintro entry last _ keptLast ⟨terms, drafts⟩
  exact ⟨account.currency, denominated.persists keptLast.persists, terms, drafts⟩

/-- A debit is inverted by one entry and its balance change. -/
theorem compensate (drafts : world.Drafts who .readCommitted changes)
    (locked : world.rowLocks (.transaction id) = some who) (debit : LedgerEntry) :
    setting.Within commit who
      (fun entry last => entry.terms = reversalTerms id debit ∧
        last.Drafts who .readCommitted (changes.post entry))
      (LedgerService.compensate id debit) world :=
  Within.enterCredit drafts _ locked (numericOfText_reversalAmount debit.amount)

/-- The loop of `createCompensatingEntries`: one reversal for each debit, in order. -/
theorem compensateAll (drafts : world.Drafts who .readCommitted changes)
    (locked : world.rowLocks (.transaction id) = some who) (debits : List LedgerEntry) :
    setting.Within commit who
      (fun entries last =>
        entries.map LedgerEntry.terms = debits.map (reversalTerms id) ∧
        last.Drafts who .readCommitted (changes.postAll entries))
      (LedgerService.compensateAll id debits) world := by
  induction debits generalizing world changes with
  | nil =>
      apply Within.ret
      exact ⟨rfl, drafts⟩
  | cons debit rest ih =>
      apply (Within.compensate drafts locked debit).bind
      rintro entry second _ kept ⟨terms, drafts⟩
      apply (ih drafts (kept.locks _ locked)).bind
      rintro entries last _ _ ⟨others, drafts⟩
      apply Within.ret
      refine ⟨?_, drafts⟩
      rw [List.map_cons, List.map_cons, terms, others]

/-- The compensation inverts the original debits of the locked payment in their order. -/
theorem createCompensatingEntries (drafts : world.Drafts who .readCommitted {})
    (locked : world.rowLocks (.transaction id) = some who) :
    setting.Within commit who
      (fun entries last =>
        entries.map LedgerEntry.terms = (last.db.originalDebits id).map (reversalTerms id) ∧
        last.Drafts who .readCommitted (Changes.postAll {} entries))
      (LedgerService.createCompensatingEntries id) world := by
  apply (Within.selectCommitted drafts (.originalDebits id)).bind
  rintro debits second _ kept ⟨drafts, read⟩
  rw [Changes.apply_empty] at read
  have locked := kept.locks _ locked
  refine (Within.compensateAll drafts locked debits).mono ?_
  rintro entries last _ keptLast ⟨terms, drafts⟩
  refine ⟨?_, drafts⟩
  rw [Database.originalDebits_congr (keptLast.entriesOf locked), terms, read]
  rfl

/-- The look for a reversal answers for the committed entries. -/
theorem hasBeenReversed (drafts : world.Drafts who .readCommitted {}) :
    setting.Within commit who
      (fun reversed last => last.Drafts who .readCommitted {} ∧
        (reversed = true ↔ last.db.HasReversal id))
      (LedgerService.hasBeenReversed id) world := by
  apply (Within.selectCommitted drafts (.reversalCount id)).bind
  rintro count last _ _ ⟨drafts, read⟩
  apply Within.ret
  refine ⟨drafts, ?_⟩
  rw [Changes.apply_empty] at read
  rw [decide_eq_true_iff, read]
  change 0 < ((last.db.entriesOf id).filter LedgerEntry.isReversal).length ↔ _
  rw [List.length_pos_iff_exists_mem]
  unfold Database.HasReversal
  simp only [List.mem_filter]

end Within
end Setting
end Payroute
