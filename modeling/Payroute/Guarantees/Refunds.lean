import Payroute.Guarantees.ExactlyOnce
import Payroute.Runs.Accounts
import Payroute.Runs.Reversal
import Payroute.Runs.Transitions

/-! # What the refund endpoint promises

Without disputes, a refund that runs alone does what the endpoint documents, except
for a payment in progress, which the documentation admits and the transition table
refuses.
-/

namespace Payroute

open EffectSystem KeyedTable

namespace Database

/-- The postings of a payment. -/
def postingsOf (db : Database) (id : TransactionId) : List Posting :=
  (db.entriesOf id).map LedgerEntry.posting

def balanceOf (db : Database) (id : AccountId) : Option Int :=
  (db.accounts.get? id).map Account.balance

/-- The balance of an account and the amount fit its column. -/
def HasRoom (db : Database) (id : AccountId) (amount : Int) : Prop :=
  ∃ account, db.accounts.get? id = some account ∧ Fits (account.balance + amount)

end Database

/-- The payment is reversed and its money is back, and nothing else has changed. -/
structure Database.Refunds (first : Database) (row : Transaction) (second : Database) : Prop where
  status : (second.transactions.get? row.id).map Transaction.status = some .reversed
  nets : ∀ account, account = row.senderAccountId ∨ account = row.recipientAccountId →
    netOf (second.postingsOf row.id) account = 0
  balances : ∀ account, account = row.senderAccountId ∨ account = row.recipientAccountId →
    second.balanceOf account = (first.balanceOf account).map fun balance =>
      balance - netOf (first.postingsOf row.id) account
  transactions : ∀ other, other ≠ row.id →
    second.transactions.get? other = first.transactions.get? other
  accounts : ∀ account, account ≠ row.senderAccountId → account ≠ row.recipientAccountId →
    second.accounts.get? account = first.accounts.get? account
  entries : ∀ other, other ≠ row.id → second.entriesOf other = first.entriesOf other

/-- The refund succeeds and does what it promises. -/
def RefundHonoured (who : ProcessId) (world : World) (row : Transaction) (dto : RefundPaymentDto) :
    Prop :=
  let ended := backend.run who (PaymentsService.refundPayment row.id dto) [] world
  (∃ reply, ended.outcome = .ok reply) ∧ world.db.Refunds row ended.state.db

/-! ## A refund that commits -/

theorem adjustmentOf_postings (entries : List LedgerEntry) (id : AccountId) :
    adjustmentOf (entries.map fun entry => (entry.accountId, entry.amount)) id =
      netOf (entries.map LedgerEntry.posting) id := by
  induction entries with
  | nil => rfl
  | cons entry rest ih =>
      rw [List.map_cons, List.map_cons, adjustmentOf_cons, netOf_cons, ih]
      rfl

theorem netOf_append (first second : List Posting) (id : AccountId) :
    netOf (first ++ second) id = netOf first id + netOf second id := by
  induction first with
  | nil => rw [List.nil_append, netOf_nil, zero_add]
  | cons posting rest ih => rw [List.cons_append, netOf_cons, netOf_cons, ih, add_assoc]

section Commits

variable {first second : Database} {row : Transaction}

/-- Where balances stay within their column, there was room for what was posted. -/
theorem Settlement.hasRoom {settlement : Settlement} {db last : Database} {account : AccountId}
    {amount : Int} (same : db.SameBooks first) (made : last = settlement.apply first)
    (constrained : last.Constrained) (known : db.accounts.get? account ≠ none)
    (net : netOf (settlement.entries.map LedgerEntry.posting) account = amount) :
    db.HasRoom account amount := by
  obtain ⟨before, found⟩ := Option.ne_none_iff_exists'.mp known
  obtain ⟨rounds, step⟩ := get?_adjustAll
    (settlement.entries.map fun entry => (entry.accountId, entry.amount)) first.accounts account
  rw [same.accounts, found, Option.map_some, adjustmentOf_postings, net] at step
  subst made
  rw [← same.accounts] at step
  exact ⟨before, found, (constrained _ (Table.mem_of_get? step)).2⟩

/-- The funds that were reserved can be returned where the sender's account has room. -/
theorem Database.reimbursable_of_reserve {db : Database} (constrained : db.Constrained)
    (anchored : db.Anchored) (found : db.transactions.get? row.id = some row)
    (nonneg : 0 ≤ row.sourceAmount)
    (reserved : (db.originalDebits row.id).map LedgerEntry.posting = [row.reserve])
    (room : db.HasRoom row.senderAccountId row.sourceAmount) :
    db.Reimbursable row.id (db.originalDebits row.id) := by
  obtain ⟨debit, debits, posted⟩ := List.map_eq_singleton_iff.mp reserved
  have owner : debit.accountId = row.senderAccountId := congrArg Posting.accountId posted
  have taken : debit.amount = -row.sourceAmount := congrArg Posting.amount posted
  obtain ⟨sender, paying, fits⟩ := room
  have funded := constrained sender (Table.mem_of_get? paying)
  rw [debits]
  refine ⟨?_, ?_, ?_, fun account member => (constrained account member).1, ?_⟩
  · rw [found]
    exact Option.some_ne_none _
  · intro other member
    rw [List.mem_singleton.mp member, owner]
    exact (anchored row (Table.mem_of_get? found)).2.1
  · intro other member
    rw [List.mem_singleton.mp member, taken]
    unfold Fits at fits ⊢
    omega
  · intro account member
    rw [owedTo_cons, owedTo_nil, add_zero, owner, taken]
    by_cases same : row.senderAccountId = account.id
    · have known : db.accounts.get? account.id = some account := Table.get?_of_mem member
      rw [← same, paying] at known
      rw [if_pos same, ← Option.some.inj known]
      unfold Fits at fits ⊢
      omega
    · rw [if_neg same, add_zero]
      exact (constrained account member).2

/-- A settlement whose postings undo the ones there were. -/
theorem Settlement.refunds {settlement : Settlement} (named : settlement.id = row.id)
    (found : first.transactions.get? row.id = some row)
    (patched : settlement.patches = [{ status := some .reversed }])
    (own : ∀ entry ∈ settlement.entries, entry.transactionId = settlement.id)
    (parties : ∀ entry ∈ settlement.entries,
      entry.accountId = row.senderAccountId ∨ entry.accountId = row.recipientAccountId)
    (undo : ∀ account, account = row.senderAccountId ∨ account = row.recipientAccountId →
      netOf (first.postingsOf row.id) account +
        netOf (settlement.entries.map LedgerEntry.posting) account = 0) :
    first.Refunds row (settlement.apply first) where
  status := by
    rw [Settlement.get?_apply, if_pos named.symm, found, patched]
    rfl
  nets := by
    intro account party
    have all : settlement.entries.filter (fun entry => decide (entry.transactionId = row.id)) =
        settlement.entries := by
      apply List.filter_eq_self.mpr
      intro entry member
      exact decide_eq_true ((own entry member).trans named)
    unfold Database.postingsOf
    rw [Settlement.entriesOf_apply, all, List.map_append, netOf_append]
    exact undo account party
  balances := by
    intro account party
    obtain ⟨rounds, step⟩ := get?_adjustAll
      (settlement.entries.map fun entry => (entry.accountId, entry.amount)) first.accounts account
    have undone := undo account party
    have amount : netOf (settlement.entries.map LedgerEntry.posting) account =
        -netOf (first.postingsOf row.id) account := by omega
    unfold Database.balanceOf
    change ((List.foldl adjust first.accounts
      (settlement.entries.map fun entry => (entry.accountId, entry.amount))).get? account).map
        Account.balance = _
    rw [step, Option.map_map, Option.map_map, adjustmentOf_postings, amount]
    rfl
  transactions := by
    intro other differs
    rw [Settlement.get?_apply, if_neg fun same => differs (same.trans named)]
  accounts := by
    intro account sender recipient
    apply get?_adjust_others
    intro change member
    obtain ⟨entry, listed, rfl⟩ := List.mem_map.mp member
    rcases parties entry listed with same | same
    · exact fun equal => sender (equal.symm.trans same)
    · exact fun equal => recipient (equal.symm.trans same)
  entries := by
    intro other differs
    have none : settlement.entries.filter (fun entry => decide (entry.transactionId = other)) =
        [] := by
      apply List.filter_eq_nil_iff.mpr
      intro entry member
      rw [decide_eq_true_iff, own entry member, named]
      exact Ne.symm differs
    rw [Settlement.entriesOf_apply, none, List.append_nil]

/-- What a committed refund of a failed or completed payment posts. -/
theorem RefundCommits.refunds (commits : RefundCommits row.id row first second) {old : Dossier}
    (there : first.dossier row.id = some old) (same : old.row = row) (lawful : old.Lawful)
    (settled : row.status = .failed ∨ row.status = .completed) : first.Refunds row second := by
  obtain ⟨entries, timestamp, posts, rfl⟩ := commits
  subst same
  have found := (Database.get?_of_dossier there).1
  have kept : first.postingsOf old.row.id = old.postings := by
    rw [Database.postingsOf, (Database.get?_of_dossier there).2.1]
    rfl
  have differ := lawful.parties
  have other := Ne.symm differ
  have booked := lawful.booked
  rcases settled with failed | completed
  · have uncompleted : ¬ old.row.status = .completed := by
      rw [failed]
      decide
    rw [if_neg uncompleted] at posts
    have none := posts.failed there lawful failed
    subst none
    refine Settlement.refunds rfl found rfl (fun _ member => (List.not_mem_nil member).elim)
      (fun _ member => (List.not_mem_nil member).elim) ?_
    intro account party
    have net := booked.net differ
    unfold Transaction.senderNet Transaction.recipientNet at net
    rw [failed] at net
    rw [kept, List.map_nil, netOf_nil, add_zero]
    rcases party with rfl | rfl
    · exact net.1
    · exact net.2
  · rw [if_pos completed] at posts
    have posted := posts.credited there booked (.inl completed)
    refine Settlement.refunds rfl found rfl posts.own ?_ ?_
    · intro entry member
      have listed : entry.posting ∈ [old.row.takeBack, old.row.giveBack] := by
        rw [← posted]
        exact List.mem_map_of_mem member
      rcases List.mem_cons.mp listed with taken | given
      · exact .inr (congrArg Posting.accountId taken)
      · exact .inl (congrArg Posting.accountId (List.mem_singleton.mp given))
    · intro account party
      rw [kept, posted]
      rw [completed] at booked
      generalize old.postings = postings at booked
      cases booked
      rcases party with rfl | rfl
      · simp only [netOf_cons, netOf_nil, Transaction.reserve, Transaction.settle,
          Transaction.takeBack, Transaction.giveBack, if_neg other, ↓reduceIte]
        omega
      · simp only [netOf_cons, netOf_nil, Transaction.reserve, Transaction.settle,
          Transaction.takeBack, Transaction.giveBack, if_neg differ, ↓reduceIte]
        omega

end Commits

/-! ## Refunds that run alone -/

section Alone

variable {who : ProcessId} {world : World} {row : Transaction} {dto : RefundPaymentDto}

theorem RefundHonoured.unlocked (honoured : RefundHonoured who world row dto) :
    world.redisLocks (.refund row.id) = none := by
  by_contra held
  obtain ⟨⟨reply, returned⟩, _⟩ := honoured
  have refused : Solo backend (fun _ _ => True) who (Refused world)
      (PaymentsService.refundPayment row.id dto) world := by
    rw [PaymentsService.refundPayment_eq]
    exact solo_reversal_locked held
  obtain ⟨⟨error, failed⟩, _⟩ := refused [] fun _ _ => trivial
  rw [failed] at returned
  cases returned

theorem refund_program_state (deployment : Deployment) :
    (backend.run who ((Command.refundPayment row.id dto).program deployment) [] world).state =
      (backend.run who (PaymentsService.refundPayment row.id dto) [] world).state :=
  Machine.run_discard backend who _ () [] world

/-- A refund that reverses a payment found it in a status the transition table lets
reverse. -/
theorem RefundHonoured.allowed (honoured : RefundHonoured who world row dto)
    (rest : world.AtRest) (deployment : Deployment)
    (found : world.db.transactions.get? row.id = some row) (unreversed : row.status ≠ .reversed) :
    row.status.Allows TransactionStatus.reversed.text := by
  have status := honoured.2.status
  have performs := Command.run_performs deployment rest who (.refundPayment row.id dto) []
  rw [refund_program_state] at performs
  cases performs with
  | rests kept =>
      rw [kept.transactions, found, Option.map_some] at status
      exact (unreversed (Option.some.inj status)).elim
  | opens dto key new created => cases created
  | continues id old new moves transition =>
      generalize command : Command.refundPayment row.id dto = refund at transition
      cases transition with
      | refund other allowed continues =>
          have named : row.id = old.row.id := (Command.refundPayment.inj command).1
          have current := (Database.get?_of_dossier moves.before).1
          have identity := Database.dossier_row_id moves.before
          rw [← identity, ← named, found] at current
          rw [Option.some.inj current]
          exact allowed
      | _ => cases command

/-- The sender's balance after the refund fits its column. -/
theorem RefundHonoured.room (honoured : RefundHonoured who world row dto) (rest : world.AtRest)
    (deployment : Deployment) (constrained : world.db.Constrained) {old : Dossier}
    (there : world.db.dossier row.id = some old) (lawful : old.Lawful) (same : old.row = row)
    (completed : row.status = .completed) {sender : Account}
    (paying : world.db.accounts.get? row.senderAccountId = some sender) :
    Fits (sender.balance + row.sourceAmount) := by
  have after := Command.run_constrained deployment rest who (.refundPayment row.id dto) []
    constrained
  rw [refund_program_state] at after
  have balance := honoured.2.balances row.senderAccountId (.inl rfl)
  have net : netOf (world.db.postingsOf row.id) row.senderAccountId = -row.sourceAmount := by
    have entries := (Database.get?_of_dossier there).2.1
    subst same
    have net := (lawful.booked.net lawful.parties).1
    unfold Transaction.senderNet at net
    rw [completed] at net
    unfold Database.postingsOf
    rw [entries]
    exact net
  unfold Database.balanceOf at balance
  rw [paying, net, Option.map_some, Option.map_some] at balance
  obtain ⟨later, known, amount⟩ := Option.map_eq_some_iff.mp balance
  have fits := (after later (Table.mem_of_get? known)).2
  rw [amount, sub_neg_eq_add] at fits
  exact fits

end Alone

section Runs

variable {deployment : Deployment} {initial last : World}

/-- What a serial run without disputes leaves. -/
theorem SerialRun.undisputed (rest : initial.AtRest) (empty : initial.db.transactions.rows = [])
    (run : SerialRun deployment (fun _ command => command.Undisputed) initial last) :
    last.AtRest ∧ last.db.Each Dossier.Undisputed := by
  have none : initial.db.Each Dossier.Undisputed := by
    intro id dossier found
    have member := Table.mem_of_get? (Database.get?_of_dossier found).1
    rw [empty] at member
    cases member
  refine SerialRun.keeps (fun db => db.Each Dossier.Undisputed) ?_ ?_ rest none run
  · exact fun first second beside each => each.sameBooks beside.books
  · exact fun world command first second _ undisputed commits each =>
      (undisputed.evolves commits each).undisputed each

/-- After a serial run without disputes, a refund of a payment in progress, failed, or
completed with a recipient who can pay it back does what its documentation promises
exactly where the payment is not in progress, nobody holds the lock of its refunds, and
the sender's account has room for what a completed payment returns. -/
theorem refund_honoured_iff (rest : initial.AtRest) (empty : initial.db.transactions.rows = [])
    (constrained : initial.db.Constrained)
    (run : SerialRun deployment (fun _ command => command.Undisputed) initial last)
    {row : Transaction} (member : row ∈ last.db.transactions.rows)
    (status : row.status = .processing ∨ row.status = .failed ∨ row.status = .completed)
    (covered : row.status = .completed → ∃ account,
      last.db.accounts.get? row.recipientAccountId = some account ∧
        row.destinationAmount ≤ account.balance)
    (who : ProcessId) (dto : RefundPaymentDto) :
    RefundHonoured who last row dto ↔
      row.status ≠ .processing ∧ last.redisLocks (.refund row.id) = none ∧
        (row.status = .completed → last.db.HasRoom row.senderAccountId row.sourceAmount) := by
  obtain ⟨rested, undisputed⟩ := SerialRun.undisputed rest empty run
  obtain ⟨fits, anchored⟩ :=
    SerialRun.accounts rest constrained (Database.anchored_of_empty empty) run
  have found : last.db.transactions.get? row.id = some row := Table.get?_of_mem member
  have there := Database.dossier_of_get? found
  have lawful := (undisputed row.id _ there).lawful
  obtain ⟨owed, payer, payee⟩ := anchored row member
  obtain ⟨sender, paying⟩ := Option.ne_none_iff_exists'.mp payer
  constructor
  · intro honoured
    have unreversed : row.status ≠ .reversed := by
      rcases status with same | same | same <;> rw [same] <;> decide
    have allowed := honoured.allowed rested deployment found unreversed
    refine ⟨?_, honoured.unlocked, fun completed => ⟨sender, paying, ?_⟩⟩
    · intro processing
      rw [processing] at allowed
      exact absurd allowed (by decide)
    · exact honoured.room rested deployment fits there lawful rfl completed paying
  · intro conditions
    obtain ⟨unstarted, unlocked, room⟩ := conditions
    have settled : row.status = .failed ∨ row.status = .completed := status.resolve_left unstarted
    have allowed : row.status.Allows TransactionStatus.reversed.text := by
      rcases settled with same | same <;> rw [same] <;> decide
    have able : last.db.Refundable row := by
      unfold Database.Refundable
      rcases settled with failed | completed
      · have uncompleted : ¬ row.status = .completed := by
          rw [failed]
          decide
        rw [if_neg uncompleted]
        left
        rw [Database.hasReversal_iff there, lawful.booked.reversal]
        exact .inl failed
      · rw [if_pos completed]
        obtain ⟨account, payed, enough⟩ := covered completed
        obtain ⟨other, same, space⟩ := room completed
        exact .inr
          { differ := lawful.parties
            owed := owed
            paid := lawful.nonneg
            recipient := ⟨account, payed, enough, (fits account (Table.mem_of_get? payed)).2⟩
            sender := ⟨other, same, (fits other (Table.mem_of_get? same)).1, space⟩ }
    have succeeds : Succeeds who _ (PaymentsService.refundPayment row.id dto) last :=
      succeeds_refundPayment rested dto found allowed unlocked able
    obtain ⟨reply, final, ran, commits⟩ := succeeds
    have honoured := commits.refunds there rfl lawful settled
    unfold RefundHonoured
    rw [ran]
    exact ⟨⟨reply, rfl⟩, honoured⟩

end Runs

theorem completedWorld_run : SerialRun sampleDeployment (fun _ command => command.Undisputed)
    sampleWorld completedWorld := by
  refine runAll_run sampleCompletion ⟨trivial, trivial, ?_, trivial⟩
  simp [Command.Undisputed, WebhookPayloadDto.Admitted]

theorem refund_honoured_iff_sample :
    ∃ row ∈ completedWorld.db.transactions.rows,
      RefundHonoured 0 completedWorld row ⟨"late"⟩ ↔
        row.status ≠ .processing ∧ completedWorld.redisLocks (.refund row.id) = none ∧
          (row.status = .completed →
            completedWorld.db.HasRoom row.senderAccountId row.sourceAmount) := by
  have shape : ∃ row ∈ completedWorld.db.transactions.rows, row.status = .completed ∧
      ∃ account ∈ completedWorld.db.accounts.rows, account.id = row.recipientAccountId ∧
        row.destinationAmount ≤ account.balance := by decide +kernel
  obtain ⟨row, member, completed, account, known, named, enough⟩ := shape
  refine ⟨row, member, ?_⟩
  refine refund_honoured_iff sampleWorld_atRest rfl (by decide +kernel) completedWorld_run member
    (.inr (.inr completed)) (fun _ => ⟨account, ?_, enough⟩) 0 ⟨"late"⟩
  rw [← named]
  exact Table.get?_of_mem known

/-- The documentation admits a payment in progress; its refund is refused. -/
theorem processing_refund_refused :
    SerialRun sampleDeployment (fun _ command => command.Undisputed) sampleWorld createdWorld ∧
      ∃ row ∈ createdWorld.db.transactions.rows, row.status = .processing ∧
        ¬ RefundHonoured 0 createdWorld row ⟨"stuck"⟩ := by
  refine ⟨runAll_run [(.createPayment samplePayment "key", [])] ⟨trivial, trivial⟩, ?_⟩
  have shape : ∃ row ∈ createdWorld.db.transactions.rows, row.status = .processing ∧
      (backend.run 0 (PaymentsService.refundPayment row.id ⟨"stuck"⟩) []
        createdWorld).outcome.toOption = none := by decide +kernel
  obtain ⟨row, member, processing, failed⟩ := shape
  refine ⟨row, member, processing, fun honoured => ?_⟩
  obtain ⟨⟨reply, returned⟩, _⟩ := honoured
  rw [returned] at failed
  cases failed

end Payroute
