import Payroute.Books.Balances
import Payroute.Books.Lifecycle
import Payroute.Runs.Reversal

/-! # Compensation is the inverse of the debits

`createCompensatingEntries` credits back what the original debits of a transaction
took from their accounts, and the reversal marker keeps a second compensation from
crediting it again.
-/

namespace Payroute

open EffectSystem KeyedTable

/-- The second tables are the first with the debits of the transaction compensated. -/
structure Compensates (id : TransactionId) (debits : List LedgerEntry)
    (first second : Database) : Prop where
  reversals : ∃ reversals, second.ledgerEntries = first.ledgerEntries ++ reversals ∧
    reversals.map LedgerEntry.terms = debits.map (reversalTerms id) ∧
    ∀ account, netOf (debits.map LedgerEntry.posting) account +
      netOf (reversals.map LedgerEntry.posting) account = 0
  balances : ∀ account, (second.accounts.get? account).map Account.balance =
    (first.accounts.get? account).map fun row => row.balance + owedTo debits account
  others : ∀ account, (∀ debit ∈ debits, debit.accountId ≠ account) →
    second.accounts.get? account = first.accounts.get? account
  entries : ∀ other, other ≠ id → second.entriesOf other = first.entriesOf other
  tables : second.transactions = first.transactions ∧ second.stateHistory = first.stateHistory ∧
    second.fxQuotes = first.fxQuotes ∧ second.webhookEvents = first.webhookEvents ∧
    second.idempotencyKeys = first.idempotencyKeys
  marker : second.HasReversal id ↔ first.HasReversal id ∨ debits ≠ []

/-! ## What the reversals leave -/

theorem adjustmentOf_reversals {id : TransactionId} {debits entries : List LedgerEntry}
    (reverse : entries.map LedgerEntry.terms = debits.map (reversalTerms id))
    (account : AccountId) :
    adjustmentOf (entries.map fun entry => (entry.accountId, entry.amount)) account =
      owedTo debits account := by
  induction debits generalizing entries with
  | nil =>
      rw [List.map_nil, List.map_eq_nil_iff] at reverse
      rw [reverse]
      rfl
  | cons debit rest ih =>
      obtain ⟨entry, others, rfl, terms, reverse⟩ := List.map_eq_cons_iff.mp reverse
      have owner : entry.accountId = debit.accountId := congrArg EntryTerms.accountId terms
      have amount : entry.amount = debit.amount.natAbs := congrArg EntryTerms.amount terms
      rw [List.map_cons, adjustmentOf_cons, owedTo_cons, ih reverse, owner, amount]

theorem netOf_reversals {id : TransactionId} {debits entries : List LedgerEntry}
    (reverse : entries.map LedgerEntry.terms = debits.map (reversalTerms id))
    (debited : ∀ debit ∈ debits, debit.amount ≤ 0) (account : AccountId) :
    netOf (debits.map LedgerEntry.posting) account +
      netOf (entries.map LedgerEntry.posting) account = 0 := by
  induction debits generalizing entries with
  | nil =>
      rw [List.map_nil, List.map_eq_nil_iff] at reverse
      rw [reverse]
      rfl
  | cons debit rest ih =>
      obtain ⟨entry, others, rfl, terms, reverse⟩ := List.map_eq_cons_iff.mp reverse
      have owner : entry.accountId = debit.accountId := congrArg EntryTerms.accountId terms
      have owner : entry.posting.accountId = debit.posting.accountId := owner
      have amount : entry.posting.amount = -debit.posting.amount := by
        have absolute : entry.amount = debit.amount.natAbs := congrArg EntryTerms.amount terms
        have sign := debited debit List.mem_cons_self
        change entry.amount = -debit.amount
        omega
      have tail := ih reverse fun other member => debited other (List.mem_cons_of_mem _ member)
      rw [List.map_cons, List.map_cons, netOf_cons, netOf_cons, owner, amount]
      split
      · omega
      · omega

section Effect

variable {id : TransactionId} {debits entries : List LedgerEntry}

/-- Every reversal is one of its debit. -/
theorem reversal_of_mem (reverse : entries.map LedgerEntry.terms = debits.map (reversalTerms id))
    {entry : LedgerEntry} (member : entry ∈ entries) :
    ∃ debit ∈ debits, entry.terms = reversalTerms id debit := by
  have listed : entry.terms ∈ debits.map (reversalTerms id) := by
    rw [← reverse]
    exact List.mem_map_of_mem member
  obtain ⟨debit, known, same⟩ := List.mem_map.mp listed
  exact ⟨debit, known, same.symm⟩

theorem entriesOf_postAll (db : Database) (other : TransactionId) :
    ((Changes.postAll {} entries).apply db).entriesOf other = db.entriesOf other ++
      entries.filter fun entry => decide (entry.transactionId = other) := by
  rw [Changes.postAll_eq]
  exact List.filter_append ..

theorem filter_reversals (reverse : entries.map LedgerEntry.terms = debits.map (reversalTerms id)) :
    (entries.filter fun entry => decide (entry.transactionId = id)) = entries := by
  apply List.filter_eq_self.mpr
  intro entry member
  obtain ⟨debit, _, terms⟩ := reversal_of_mem reverse member
  exact decide_eq_true (congrArg EntryTerms.transactionId terms)

theorem compensates_postAll
    (reverse : entries.map LedgerEntry.terms = debits.map (reversalTerms id))
    (debited : ∀ debit ∈ debits, debit.amount ≤ 0) (db : Database) :
    Compensates id debits db ((Changes.postAll {} entries).apply db) where
  reversals := by
    refine ⟨entries, ?_, reverse, netOf_reversals reverse debited⟩
    rw [Changes.postAll_eq]
    rfl
  balances := by
    intro account
    rw [Changes.postAll_eq]
    obtain ⟨rounds, step⟩ := get?_adjustAll
      (entries.map fun entry => (entry.accountId, entry.amount)) db.accounts account
    rw [adjustmentOf_reversals reverse] at step
    change ((List.foldl adjust db.accounts _).get? account).map Account.balance = _
    rw [List.nil_append, step, Option.map_map]
    rfl
  others := by
    intro account elsewhere
    rw [Changes.postAll_eq]
    apply get?_adjust_others
    intro change member
    obtain ⟨entry, listed, rfl⟩ := List.mem_map.mp member
    obtain ⟨debit, known, terms⟩ := reversal_of_mem reverse listed
    have owner : entry.accountId = debit.accountId := congrArg EntryTerms.accountId terms
    change entry.accountId ≠ account
    rw [owner]
    exact elsewhere debit known
  entries := by
    intro other differs
    have none : (entries.filter fun entry => decide (entry.transactionId = other)) = [] := by
      apply List.filter_eq_nil_iff.mpr
      intro entry member
      obtain ⟨debit, _, terms⟩ := reversal_of_mem reverse member
      have named : entry.transactionId = id := congrArg EntryTerms.transactionId terms
      rw [decide_eq_true_iff, named]
      exact Ne.symm differs
    rw [entriesOf_postAll, none, List.append_nil]
  tables := by
    rw [Changes.postAll_eq]
    exact ⟨rfl, List.append_nil _, List.append_nil _, rfl, rfl⟩
  marker := by
    unfold Database.HasReversal
    rw [entriesOf_postAll, filter_reversals reverse]
    constructor
    · intro marked
      obtain ⟨entry, member, reversal⟩ := marked
      rcases List.mem_append.mp member with old | new
      · exact .inl ⟨entry, old, reversal⟩
      · obtain ⟨debit, known, _⟩ := reversal_of_mem reverse new
        exact .inr (List.ne_nil_of_mem known)
    · rintro (⟨entry, member, reversal⟩ | indebted)
      · exact ⟨entry, List.mem_append_left _ member, reversal⟩
      · obtain ⟨debit, rest, rfl⟩ := List.exists_cons_of_ne_nil indebted
        obtain ⟨entry, others, rfl, terms, _⟩ := List.map_eq_cons_iff.mp reverse
        exact ⟨entry, List.mem_append_right _ List.mem_cons_self,
          congrArg EntryTerms.isReversal terms⟩

/-- A reversal is no original debit. -/
theorem originalDebits_postAll
    (reverse : entries.map LedgerEntry.terms = debits.map (reversalTerms id)) (db : Database) :
    ((Changes.postAll {} entries).apply db).originalDebits id = db.originalDebits id := by
  have none : (entries.filter fun entry => decide entry.IsOriginalDebit) = [] := by
    apply List.filter_eq_nil_iff.mpr
    intro entry member
    obtain ⟨debit, _, terms⟩ := reversal_of_mem reverse member
    have credit : entry.entryType = .credit := congrArg EntryTerms.entryType terms
    rw [decide_eq_true_iff]
    intro original
    rw [original.1] at credit
    cases credit
  unfold Database.originalDebits
  rw [entriesOf_postAll, filter_reversals reverse, List.filter_append, none, List.append_nil]

end Effect

/-! ## Repetition -/

/-- The guarded compensation of `refundPayment` and `onProviderJobExhausted`. -/
def guardedCompensation (who : ProcessId) (id : TransactionId) (world : World) : World :=
  (backend.run who (PaymentsService.returnFunds id) [] world).state

/-- There is nothing to compensate. -/
def Database.Compensated (db : Database) (id : TransactionId) : Prop :=
  db.HasReversal id ∨ db.originalDebits id = []

theorem Database.compensated_congr {first second : Database} {id : TransactionId}
    (same : second.entriesOf id = first.entriesOf id) :
    second.Compensated id ↔ first.Compensated id := by
  unfold Compensated
  rw [hasReversal_congr same, originalDebits_congr same]

theorem run_returnFunds_unmarked {who : ProcessId} {id : TransactionId} {world : World}
    (unmarked : ¬ (world.view who).HasReversal id) :
    backend.run who (PaymentsService.returnFunds id) [] world =
      backend.run who ((LedgerService.createCompensatingEntries id).bind fun _ => .ret ()) []
        world := by
  have reversed : decide (0 < Query.eval (world.view who) (.reversalCount id)) = false :=
    decide_eq_false fun positive => unmarked ((hasReversal_iff_count _ id).mp positive)
  unfold PaymentsService.returnFunds
  rw [Program.bind_eq, Machine.run_bind, run_hasBeenReversed, reversed]
  rfl

/-- Where there is nothing to compensate, the guarded compensation changes nothing. -/
theorem guardedCompensation_idle {who : ProcessId} {id : TransactionId} {world : World}
    (done : (world.view who).Compensated id) : guardedCompensation who id world = world := by
  unfold guardedCompensation
  by_cases marked : (world.view who).HasReversal id
  · rw [run_returnFunds_marked marked]
  · have none := done.resolve_left marked
    change Query.eval (world.view who) (.originalDebits id) = [] at none
    rw [run_returnFunds_unmarked marked]
    change (backend.run who ((LedgerService.compensateAll id
      (Query.eval (world.view who) (.originalDebits id))).bind fun _ => .ret ()) [] world).state = _
    rw [none]
    rfl

/-- Inside a database transaction with room in the balances, compensation reverses the
original debits exactly, and guarded by the marker it is applied once, whoever repeats it. -/
theorem compensation_inverts_debits {who : ProcessId} {id : TransactionId} {world : World}
    (opened : world.sessions who ≠ none)
    (able : (world.view who).Reimbursable id ((world.view who).originalDebits id))
    (debited : ∀ debit ∈ (world.view who).originalDebits id, debit.amount ≤ 0)
    (free : ∀ debit ∈ (world.view who).originalDebits id,
      world.Free who (.account debit.accountId)) :
    let debits := (world.view who).originalDebits id
    let guarded := guardedCompensation who id world
    (∃ entries last,
      backend.run who (LedgerService.createCompensatingEntries id) [] world =
        ⟨.ok entries, [], last⟩ ∧
      last.db = world.db ∧ Compensates id debits (world.view who) (last.view who) ∧
      ((backend.run who (LedgerService.hasBeenReversed id) [] last).outcome = .ok true ↔
        (world.view who).HasReversal id ∨ debits ≠ [])) ∧
    ((world.view who).HasReversal id → guarded = world) ∧
    (¬ (world.view who).HasReversal id →
      Compensates id debits (world.view who) (guarded.view who)) ∧
    (∀ rounds, (guardedCompensation who id)^[rounds + 1] world = guarded) ∧
    ∀ other later, (later.view other).entriesOf id = (guarded.view who).entriesOf id →
      guardedCompensation other id later = later := by
  intro debits guarded
  obtain ⟨entries, last, ran, reverse, working⟩ :=
    succeeds_createCompensatingEntries (.refl opened) able free
  have view : last.view who = (Changes.postAll {} entries).apply (world.view who) := working.view
  have effect := compensates_postAll reverse debited (world.view who)
  rw [← view] at effect
  have unmarked_state : ¬ (world.view who).HasReversal id → guarded = last := by
    intro unmarked
    change (backend.run who (PaymentsService.returnFunds id) [] world).state = last
    rw [run_returnFunds_unmarked unmarked, Machine.run_bind, ran]
    rfl
  have marked_state : (world.view who).HasReversal id → guarded = world := by
    intro marked
    exact guardedCompensation_idle (.inl marked)
  have compensated : (guarded.view who).Compensated id := by
    by_cases marked : (world.view who).HasReversal id
    · rw [marked_state marked]
      exact .inl marked
    · rw [unmarked_state marked]
      by_cases none : debits = []
      · right
        rw [view, originalDebits_postAll reverse]
        exact none
      · exact .inl (effect.marker.mpr (.inr none))
  refine ⟨⟨entries, last, ran, working.db, effect, ?_⟩, marked_state, ?_, ?_, ?_⟩
  · rw [← effect.marker, run_hasBeenReversed, ← hasReversal_iff_count, Except.ok.injEq,
      decide_eq_true_iff]
  · intro unmarked
    rw [unmarked_state unmarked]
    exact effect
  · intro rounds
    rw [Function.iterate_succ_apply]
    exact Function.iterate_fixed (guardedCompensation_idle compensated) rounds
  · intro other later same
    exact guardedCompensation_idle ((Database.compensated_congr same).mpr compensated)

/-- Two further debits of the sample payment, inside a transaction. -/
def furtherDebits : Service Unit := do
  let _ ← LedgerService.debit 0 (numberText 50) 0
  let _ ← LedgerService.debit 1 (numberText 30) 0
  return ()

def compensatingWorld : World :=
  (backend.run 0 furtherDebits [] (createdWorld.begin 0 .readCommitted)).state

theorem compensatingWorld_reimbursable :
    (compensatingWorld.view 0).Reimbursable 0 ((compensatingWorld.view 0).originalDebits 0) where
  payment := by decide +kernel
  account := by decide +kernel
  fits := by decide +kernel
  solvent := by decide +kernel
  room := by decide +kernel

/-- Three debits, two of them of the same account. -/
theorem compensation_inverts_debits_sample :
    ((compensatingWorld.view 0).originalDebits 0).map (fun debit =>
        (debit.accountId, debit.amount)) = [(0, -100), (0, -50), (1, -30)] ∧
    ∃ entries last,
      backend.run 0 (LedgerService.createCompensatingEntries 0) [] compensatingWorld =
        ⟨.ok entries, [], last⟩ ∧
      Compensates 0 ((compensatingWorld.view 0).originalDebits 0) (compensatingWorld.view 0)
        (last.view 0) := by
  refine ⟨by decide +kernel, ?_⟩
  have opened : compensatingWorld.sessions 0 ≠ none := by decide +kernel
  have debited : ∀ debit ∈ (compensatingWorld.view 0).originalDebits 0, debit.amount ≤ 0 := by
    decide +kernel
  have free : ∀ debit ∈ (compensatingWorld.view 0).originalDebits 0,
      compensatingWorld.Free 0 (.account debit.accountId) := by
    unfold World.Free
    decide +kernel
  obtain ⟨⟨entries, last, ran, _, effect, _⟩, _⟩ :=
    compensation_inverts_debits opened compensatingWorld_reimbursable debited free
  exact ⟨entries, last, ran, effect⟩

/-- The same world with the sender's account filled up to the limit of its column. -/
def fullWorld : World :=
  { createdWorld with
    db := { createdWorld.db with
      accounts := createdWorld.db.accounts.put
        { id := 0, currency := "USD", balance := 10 ^ 20 - 1, version := 1 } } }

/-- An account at the limit of `NUMERIC(20,8)` takes no reversal: the compensation fails
and leaves the transaction unmarked. -/
theorem full_account_uncompensated :
    let world := fullWorld.begin 0 .readCommitted
    let ended := backend.run 0 (LedgerService.createCompensatingEntries 0) [] world
    (world.view 0).originalDebits 0 ≠ [] ∧
      (∀ debit ∈ (world.view 0).originalDebits 0, debit.amount ≤ 0) ∧
      ended.outcome.toOption = none ∧
      ¬ Compensates 0 ((world.view 0).originalDebits 0) (world.view 0) (ended.state.view 0) := by
  intro world ended
  have original : (world.view 0).originalDebits 0 ≠ [] := by decide +kernel
  have grown : (ended.state.view 0).accounts.get? 0 = (world.view 0).accounts.get? 0 := by
    decide +kernel
  have owed : ((world.view 0).accounts.get? 0).map (fun row =>
      row.balance + owedTo ((world.view 0).originalDebits 0) 0) ≠
      ((world.view 0).accounts.get? 0).map Account.balance := by
    decide +kernel
  refine ⟨original, by decide +kernel, by decide +kernel, fun effect => owed ?_⟩
  rw [← effect.balances 0, grown]

end Payroute
