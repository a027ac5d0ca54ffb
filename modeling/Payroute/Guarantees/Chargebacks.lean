import Payroute.Guarantees.Refunds
import Payroute.Runs.Emissions

/-! # The two ways of reversing a payment

A refund and the chargeback of a dispute reverse the same payments. They do the same
for a failed or a completed one; for a disputed one the refund returns the reserved
funds to the sender and leaves the recipient's credit, which the chargeback takes back.
-/

namespace Payroute

open EffectSystem KeyedTable Program

/-! ## The ledger of a payment in serial runs -/

/-- The original debits among the postings. -/
def Dossier.debits (dossier : Dossier) : List Posting :=
  dossier.postings.filter fun posting => decide posting.IsOriginalDebit

/-- Until a payment has failed or is reversed, its reservation is its one original debit
and nothing is marked reversed; a failed payment is. -/
structure Dossier.Held (dossier : Dossier) : Prop where
  parties : dossier.row.senderAccountId ≠ dossier.row.recipientAccountId
  nonneg : 0 ≤ dossier.row.sourceAmount
  pending : dossier.row.status ∈ [.processing, .completed, .disputed] →
    dossier.marked = false ∧ dossier.debits = [dossier.row.reserve]
  failed : dossier.row.status = .failed → dossier.marked = true
  started : dossier.row.status ≠ .initiated

namespace Dossier

variable {old new : Dossier} {patch : TransactionPatch} {postings : List Posting}
  {steps : List (Option String × String)}

theorem Continues.marked (continues : old.Continues new patch postings steps) :
    new.marked = (old.marked || postings.any Posting.isReversal) := by
  unfold Dossier.marked
  rw [continues.postings, List.any_append]

theorem Continues.debits (continues : old.Continues new patch postings steps) :
    new.debits = old.debits ++ postings.filter fun posting => decide posting.IsOriginalDebit := by
  unfold Dossier.debits
  rw [continues.postings, List.filter_append]

/-- Credits that are no reversals leave the ledger held. -/
theorem Held.goes (held : old.Held) (continues : old.Continues new patch postings steps)
    (unmarked : postings.any Posting.isReversal = false)
    (credits : (postings.filter fun posting => decide posting.IsOriginalDebit) = [])
    (before : old.row.status ∈ [.processing, .completed, .disputed])
    (after : new.row.status ∈ [.processing, .completed, .disputed]) : new.Held := by
  obtain ⟨unreversed, reserved⟩ := held.pending before
  have row := continues.row
  refine ⟨?_, ?_, fun _ => ⟨?_, ?_⟩, fun failed => ?_, fun initiated => ?_⟩
  · rw [row]
    exact held.parties
  · rw [row]
    exact held.nonneg
  · rw [continues.marked, unreversed, unmarked]
    rfl
  · rw [continues.debits, credits, List.append_nil, reserved, row]
    rfl
  · rw [failed] at after
    exact absurd after (by decide)
  · rw [initiated] at after
    exact absurd after (by decide)

/-- Reversing the reservation marks the ledger. -/
theorem Held.compensates (held : old.Held) (before : old.row.status = .processing) :
    old.compensation.any Posting.isReversal = true := by
  obtain ⟨_, reserved⟩ := held.pending (by rw [before]; decide)
  unfold Dossier.debits at reserved
  unfold Dossier.compensation
  rw [reserved]
  rfl

theorem Held.fails (held : old.Held) (continues : old.Continues new patch postings steps)
    (status : new.row.status = .failed) (marks : postings.any Posting.isReversal = true) :
    new.Held := by
  have row := continues.row
  refine ⟨?_, ?_, fun pending => ?_, fun _ => ?_, ?_⟩
  · rw [row]
    exact held.parties
  · rw [row]
    exact held.nonneg
  · rw [status] at pending
    exact absurd pending (by decide)
  · rw [continues.marked, marks, Bool.or_true]
  · rw [status]
    decide

theorem Held.reversed (held : old.Held) (continues : old.Continues new patch postings steps)
    (status : new.row.status = .reversed) : new.Held := by
  have row := continues.row
  refine ⟨?_, ?_, fun pending => ?_, fun failed => ?_, ?_⟩
  · rw [row]
    exact held.parties
  · rw [row]
    exact held.nonneg
  · rw [status] at pending
    exact absurd pending (by decide)
  · rw [status] at failed
    cases failed
  · rw [status]
    decide

/-- Nothing is posted and the row stays. -/
theorem Held.rests (held : old.Held) (continues : old.Continues new {} [] steps) : new.Held := by
  have row : new.row = old.row := continues.row
  refine ⟨?_, ?_, fun pending => ?_, fun failed => ?_, ?_⟩
  · rw [row]
    exact held.parties
  · rw [row]
    exact held.nonneg
  · rw [row] at pending ⊢
    obtain ⟨unreversed, reserved⟩ := held.pending pending
    rw [continues.marked, continues.debits, unreversed, reserved]
    exact ⟨rfl, rfl⟩
  · rw [row] at failed
    rw [continues.marked, held.failed failed]
    rfl
  · rw [row]
    exact held.started

end Dossier

variable {deployment : Deployment} {initial last world : World} {who : ProcessId}

theorem Command.Transition.held {command : Command} {old new : Dossier}
    (transition : command.Transition deployment old new) (held : old.Held) : new.Held := by
  cases transition with
  | submit data reference named eligible continues =>
      have status : new.row.status = .processing := by
        rw [continues.row]
        exact eligible.1
      refine held.goes continues rfl rfl ?_ ?_
      · rw [eligible.1]
        decide
      · rw [status]
        decide
  | complete payload rawBody signature completedAt signed status referenced allowed continues =>
      have status : new.row.status = .completed := by
        rw [continues.row]
        rfl
      refine held.goes continues rfl rfl ?_ ?_
      · rcases allowed with same | same <;> rw [same] <;> decide
      · rw [status]
        decide
  | fail payload rawBody signature signed status referenced allowed continues =>
      refine held.fails continues ?_ ?_
      · rw [continues.row]
        rfl
      · exact held.compensates (allowed.resolve_left held.started)
  | note payload rawBody signature signed uncompleted unfailed allowed continues =>
      exact held.rests continues
  | exhaust jobId failedReason allowed continues =>
      refine held.fails continues ?_ ?_
      · rw [continues.row]
        rfl
      · have unmarked := (held.pending (by rw [allowed]; decide)).1
        unfold Dossier.returned
        rw [unmarked]
        exact held.compensates allowed
  | refund dto allowed continues =>
      refine held.reversed continues ?_
      rw [continues.row]
      rfl
  | dispute dto allowed continues =>
      have status : new.row.status = .disputed := by
        rw [continues.row]
        rfl
      refine held.goes continues rfl rfl ?_ ?_
      · rw [allowed]
        decide
      · rw [status]
        decide
  | reverse allowed continues =>
      refine held.reversed continues ?_
      rw [continues.row]
      rfl
  | reject allowed continues =>
      have status : new.row.status = .completed := by
        rw [continues.row]
        rfl
      refine held.goes continues rfl rfl ?_ ?_
      · rcases allowed with same | same <;> rw [same] <;> decide
      · rw [status]
        decide

theorem Command.Performs.held {command : Command} {last : Database}
    (performs : command.Performs deployment world last) (each : world.db.Each Dossier.Held) :
    last.Each Dossier.Held := by
  cases performs with
  | rests same => exact each.sameBooks same
  | opens dto key row created first second creates checked entry opened reserved posting absent
      after others =>
      obtain ⟨parties, nonneg⟩ := creates.parties
      refine each.of_changed after others ⟨parties, nonneg, fun _ => ?_, fun failed => ?_, ?_⟩
      · unfold Dossier.marked Dossier.debits Dossier.postings openingDossier
        simp only [List.map_cons, List.map_nil, posting]
        exact ⟨rfl, rfl⟩
      · cases failed
      · exact fun absurd => by cases absurd
  | continues id old new moves transition =>
      exact each.moves moves fun held => transition.held held

/-- What every serial run leaves of the ledgers of its payments. -/
theorem SerialRun.held {admits : World → Command → Prop} (rest : initial.AtRest)
    (empty : initial.db.transactions.rows = [])
    (run : SerialRun deployment admits initial last) :
    last.AtRest ∧ last.db.Each Dossier.Held := by
  have none : initial.db.Each Dossier.Held := by
    intro id dossier found
    have member := Table.mem_of_get? (Database.get?_of_dossier found).1
    rw [empty] at member
    cases member
  refine SerialRun.invariant (fun world => world.db.Each Dossier.Held) ?_ ?_ rest none run
  · intro first second passed each
    rw [passed.db]
    exact each
  · exact fun world who command choices _ _ each performs => performs.held each

/-! ## Both reversals as one program -/

namespace PaymentsService

theorem resolveDispute_eq (id : TransactionId) :
    resolveDispute id ⟨.reverse⟩ =
      reversal id (reverseBody id) "Dispute resolved: chargeback" := by
  unfold resolveDispute reversal guardedReversal resolveBranch resolvedStatus concludeReversal
  simp only [bind_eq, bind_assoc]

end PaymentsService

section Undisturbed

open PaymentsService

variable {body left right : Service Unit} {reason : String} {id : TransactionId}
  {row : Transaction}

/-- Reading the payment and checking its status change nothing. -/
theorem run_reversal_checked (rest : world.AtRest)
    (found : world.db.transactions.get? id = some row)
    (allowed : row.status.Allows TransactionStatus.reversed.text) :
    backend.run who (reversal id body reason) [] world =
      backend.run who ((guardedReversal id body).bind fun _ => concludeReversal id reason) []
        world := by
  have reads : backend.run who (findTransaction id) [] world = ⟨.ok row, [], world⟩ := by
    obtain ⟨value, last, ran, rfl, rfl⟩ : Succeeds who _ _ world :=
      succeeds_findTransaction rest found
    exact ran
  have checks : backend.run who (validateTransition row.status TransactionStatus.reversed.text) []
      world = ⟨.ok (), [], world⟩ := by
    unfold validateTransition require
    rw [if_pos allowed]
    rfl
  unfold reversal
  rw [Machine.run_bind_of_ok backend who reads, Machine.run_bind_of_ok backend who checks]

/-- A reversal ends as its guarded part does. -/
theorem run_reversal_ends (who : ProcessId) (body : Service Unit) (reason : String)
    (rest : world.AtRest)
    (found : world.db.transactions.get? id = some row)
    (allowed : row.status.Allows TransactionStatus.reversed.text) :
    let guarded := backend.run who (guardedReversal id body) [] world
    let ended := backend.run who (reversal id body reason) [] world
    (∃ error, guarded.outcome = .error error ∧ ended.outcome = .error error) ∨
      guarded.outcome = .ok () ∧ (∃ reply, ended.outcome = .ok reply) ∧
        ended.state.db = guarded.state.db := by
  intro guarded ended
  have same : ended = backend.run who ((guardedReversal id body).bind fun _ =>
      concludeReversal id reason) [] world := run_reversal_checked rest found allowed
  have spent : guarded.choices = [] := Machine.run_default_choices backend who _ world
  cases returned : guarded.outcome with
  | error error =>
      have ran : guarded = ⟨.error error, [], guarded.state⟩ := by
        rw [← returned, ← spent]
      rw [same, Machine.run_bind_of_error backend who ran]
      exact .inl ⟨error, rfl, rfl⟩
  | ok value =>
      have ran : guarded = ⟨.ok value, [], guarded.state⟩ := by
        rw [← returned, ← spent]
      obtain ⟨reply, last, concluded, db⟩ :
          Succeeds who (fun _ last => last.db = guarded.state.db) (concludeReversal id reason)
            guarded.state := succeeds_concludeReversal
      rw [same, Machine.run_bind_of_ok backend who ran, concluded]
      exact .inr ⟨rfl, ⟨reply, rfl⟩, db⟩

/-- Bodies that run alike make transactions that run alike. -/
theorem run_transaction_congr
    (same : backend.run who left [] (world.begin who .readCommitted) =
      backend.run who right [] (world.begin who .readCommitted)) :
    backend.run who (transaction .readCommitted left) [] world =
      backend.run who (transaction .readCommitted right) [] world := by
  apply Machine.run_bind_congr
  apply Machine.run_attempt_congr
  have begun : backend.run who (call (.begin .readCommitted)) [] world =
      ⟨.ok (), [], world.begin who .readCommitted⟩ := rfl
  simp only [bind_eq]
  rw [Machine.run_bind_of_ok backend who begun, Machine.run_bind_of_ok backend who begun]
  exact Machine.run_bind_congr backend who same _

/-- Bodies that run alike at rest make reversals that run alike. -/
theorem run_guardedReversal_congr (rest : world.AtRest)
    (unlocked : world.redisLocks (.refund id) = none)
    (same : ∀ later : World, later.AtRest → later.db = world.db →
      backend.run who left [] (later.begin who .readCommitted) =
        backend.run who right [] (later.begin who .readCommitted)) :
    backend.run who (guardedReversal id left) [] world =
      backend.run who (guardedReversal id right) [] world := by
  have aside : world.Aside (world.perform who (.acquireLock (.refund id) refundLockTtlMs)).2 :=
    World.perform_neutral trivial
  have locks : backend.run who (acquireLock (.refund id) refundLockTtlMs) [] world =
      ⟨.ok (some (world.next .token)), [],
        (world.perform who (.acquireLock (.refund id) refundLockTtlMs)).2⟩ := by
    obtain ⟨reply, last, ran, holds⟩ : Succeeds who _ _ world :=
      succeeds_acquireLock unlocked refundLockTtlMs
    rw [ran, holds.1, holds.2]
  unfold guardedReversal
  rw [Machine.run_bind_of_ok backend who locks, Machine.run_bind_of_ok backend who locks]
  change backend.run who (tryFinally (transaction .readCommitted left)
      (releaseLock (.refund id) (world.next .token))) [] _ =
    backend.run who (tryFinally (transaction .readCommitted right)
      (releaseLock (.refund id) (world.next .token))) [] _
  apply Machine.run_bind_congr
  apply Machine.run_attempt_congr
  exact run_transaction_congr (same _ (rest.aside aside) aside.db)

/-- The two bodies run alike on a payment that is completed, or whose ledger is marked
reversed: both charge it back, or post nothing. -/
theorem run_reverseBody_eq (rest : world.AtRest)
    (found : world.db.transactions.get? id = some row)
    (allowed : row.status.Allows TransactionStatus.reversed.text)
    (settled : row.status = .completed ∨
      row.status ≠ .completed ∧ world.db.HasReversal row.id) :
    backend.run who (refundBody id) [] (world.begin who .readCommitted) =
      backend.run who (reverseBody id) [] (world.begin who .readCommitted) := by
  obtain ⟨opened, view, free⟩ := rest.begun who
  have there : (Changes.apply {} ((world.begin who .readCommitted).view who)).transactions.get? id =
      some row := by
    rw [Changes.apply_empty, view]
    exact found
  obtain ⟨reply, later, locked, same, working⟩ :=
    succeeds_lockTransaction (.refl opened) true there (free _)
  subst same
  have caught : backend.run who (lockForRefund id) [] (world.begin who .readCommitted) =
      ⟨.ok (some row), [], later⟩ := by
    have attempted := Machine.run_attempt backend who (sql (.lockTransaction id true)) []
      (world.begin who .readCommitted)
    rw [locked] at attempted
    exact Machine.run_bind_of_ok backend who attempted
  have checks : backend.run who (validateTransition row.status TransactionStatus.reversed.text) []
      later = ⟨.ok (), [], later⟩ := by
    unfold validateTransition require
    rw [if_pos allowed]
    rfl
  have ledgers : backend.run who (refundLedger id row) [] later =
      backend.run who (chargeBack row) [] later := by
    unfold refundLedger
    rcases settled with completed | ⟨uncompleted, marked⟩
    · rw [if_pos completed]
    · have named : row.id = id := Table.key_of_get? found
      have seen : (later.view who).HasReversal row.id := by
        rw [working.view, Changes.apply_empty, view]
        exact marked
      rw [if_neg uncompleted, run_returnFunds_marked (named ▸ seen), run_chargeBack_marked seen]
  unfold refundBody reverseBody
  simp only [bind_eq]
  rw [Machine.run_bind_of_ok backend who caught, Machine.run_bind_of_ok backend who locked]
  change backend.run who ((validateTransition row.status TransactionStatus.reversed.text).bind
      fun _ => (refundLedger id row).bind fun _ => markReversed id row) [] later =
    backend.run who ((validateTransition row.status TransactionStatus.reversed.text).bind
      fun _ => (chargeBack row).bind fun _ => markReversed id row) [] later
  rw [Machine.run_bind_of_ok backend who checks, Machine.run_bind_of_ok backend who checks]
  exact Machine.run_bind_congr backend who ledgers _

end Undisturbed

/-! ## Reversals that succeed -/

section Commits

open PaymentsService

variable {body : Service Unit} {reason : String} {id : TransactionId}
  {relation : Database → Database → Prop}

/-- A reversal that returns has committed its body. -/
theorem solo_reversal (rest : world.AtRest)
    (begins : ∀ start : World, (serial world).Since start.db →
      (serial world).Within relation who
        (fun _ last => Setting.Within.Settles (serial world) relation who last) body
        (start.begin who .readCommitted))
    (only : body.OnlyCalls Operation.Inside) :
    Solo backend Acknowledged who (fun outcome last => ∀ reply, outcome = .ok reply →
      ∃ first, relation first last.db) (reversal id body reason) world := by
  refine solo_idle_bind rest.still (idle_findTransaction id) (fun row second still => ?_)
    fun _ _ _ _ absurd => by cases absurd
  refine solo_idle_bind still (onlyCalls_require _ _) (fun _ third still => ?_)
    fun _ _ _ _ absurd => by cases absurd
  unfold guardedReversal
  simp only [bind_assoc]
  refine solo_underLock still begins only (fun _ later ended => ?_)
    (fun _ _ _ _ absurd => by cases absurd) fun _ _ _ _ absurd => by cases absurd
  obtain ⟨_, _, ⟨_, absurd, _⟩ | ⟨_, first, _, made⟩⟩ := ended
  · cases absurd
  have concludes : (concludeReversal id reason).OnlyCalls Operation.Neutral :=
    .bind (onlyCalls_perform trivial) fun _ => (idle_concludes id).mono fun _ idle => idle.1
  have kept : Solo backend Acknowledged who (fun _ last => last.db = later.db)
      (concludeReversal id reason) later := by
    refine Solo.keeps (fun last : World => last.db = later.db) ?_ concludes rfl
    intro delivery op final neutral same
    have aside : final.Aside (World.exec who delivery op final).2 := World.exec_neutral neutral
    exact aside.db.trans same
  refine kept.mono fun _ last same _ _ => ⟨first, ?_⟩
  rw [same]
  exact made

/-- The reversals of a disputed payment by a refund and by a chargeback. -/
theorem Refunds.disputed {first last : Database} (refunds : Refunds (serial world) id first last)
    {old : Dossier} (there : world.db.dossier id = some old) (held : old.Held)
    (disputed : old.row.status = .disputed) :
    ∃ settlement : Settlement, world.db.SameBooks first ∧ last = settlement.apply first ∧
      settlement.entries.map LedgerEntry.posting = [old.row.release] := by
  obtain ⟨row, entries, timestamp, since, found, _, posts, made⟩ := refunds
  have same := serial_since since
  have known := (same.dossier id).trans there
  have current : row = old.row :=
    Option.some.inj (found.symm.trans (Database.get?_of_dossier known).1)
  have uncompleted : ¬ row.status = .completed := by
    rw [current, disputed]
    decide
  rw [if_neg uncompleted] at posts
  obtain ⟨unmarked, reserved⟩ := held.pending (by rw [disputed]; decide)
  have posted := posts.postings known
  unfold Dossier.debits at reserved
  unfold Dossier.returned Dossier.compensation at posted
  rw [unmarked, reserved] at posted
  refine ⟨_, same, made, ?_⟩
  rw [← old.row.reversal_reserve held.nonneg]
  exact posted

theorem Reverses.disputed {first last : Database} (reverses : Reverses (serial world) id first last)
    {old : Dossier} (there : world.db.dossier id = some old) (held : old.Held)
    (disputed : old.row.status = .disputed) :
    ∃ settlement : Settlement, world.db.SameBooks first ∧ last = settlement.apply first ∧
      settlement.entries.map LedgerEntry.posting = [old.row.takeBack, old.row.giveBack] := by
  obtain ⟨row, entries, timestamp, since, found, _, posts, made⟩ := reverses
  have same := serial_since since
  have known := (same.dossier id).trans there
  have current : row = old.row :=
    Option.some.inj (found.symm.trans (Database.get?_of_dossier known).1)
  subst current
  have named : old.row.id = id := Database.dossier_row_id there
  have unmarked := (held.pending (by rw [disputed]; decide)).1
  have posted := posts.postings (named ▸ known)
  unfold Dossier.chargedBack at posted
  rw [unmarked] at posted
  exact ⟨_, same, made, posted⟩

end Commits

/-! ## Whether the two agree -/

/-- Both reversals fail, or both leave the same balances, the same status and the same
ledger entries. -/
def ReversalsAgree (who : ProcessId) (world : World) (row : Transaction) (dto : RefundPaymentDto) :
    Prop :=
  let refunded := backend.run who (PaymentsService.refundPayment row.id dto) [] world
  let reversed := backend.run who (PaymentsService.resolveDispute row.id ⟨.reverse⟩) [] world
  ((∃ error, refunded.outcome = .error error) ∧ ∃ error, reversed.outcome = .error error) ∨
    ((∃ reply, refunded.outcome = .ok reply) ∧ ∃ reply, reversed.outcome = .ok reply) ∧
      (∀ account, refunded.state.db.balanceOf account = reversed.state.db.balanceOf account) ∧
      refunded.state.db.statusOf row.id = reversed.state.db.statusOf row.id ∧
      refunded.state.db.ledgerEntries.map LedgerEntry.terms =
        reversed.state.db.ledgerEntries.map LedgerEntry.terms

section Agreement

open PaymentsService

variable {row : Transaction} {dto : RefundPaymentDto}

/-- Whoever holds the lock of the refunds keeps both out. -/
theorem ReversalsAgree.of_locked (held : world.redisLocks (.refund row.id) ≠ none) :
    ReversalsAgree who world row dto := by
  have refused : ∀ body reason, Solo backend (fun _ _ => True) who (Refused world)
      (reversal row.id body reason) world := fun _ _ => solo_reversal_locked held
  unfold ReversalsAgree
  rw [refundPayment_eq, resolveDispute_eq]
  exact .inl ⟨(refused _ _ [] fun _ _ => trivial).1, (refused _ _ [] fun _ _ => trivial).1⟩

/-- A payment without a dispute is reversed by the same steps. -/
theorem ReversalsAgree.of_undisputed (rest : world.AtRest)
    (found : world.db.transactions.get? row.id = some row)
    (allowed : row.status.Allows TransactionStatus.reversed.text)
    (unlocked : world.redisLocks (.refund row.id) = none)
    (settled : row.status = .completed ∨
      row.status ≠ .completed ∧ world.db.HasReversal row.id) :
    ReversalsAgree who world row dto := by
  have guarded : backend.run who (guardedReversal row.id (refundBody row.id)) [] world =
      backend.run who (guardedReversal row.id (reverseBody row.id)) [] world := by
    apply run_guardedReversal_congr rest unlocked
    intro later rested same
    rw [← same] at found settled
    exact run_reverseBody_eq rested found allowed settled
  have refund := run_reversal_ends who (refundBody row.id) dto.reason rest found allowed
  have reverse := run_reversal_ends who
    (reverseBody row.id) "Dispute resolved: chargeback" rest found
    allowed
  rw [← guarded, ← resolveDispute_eq] at reverse
  rw [← refundPayment_eq] at refund
  unfold ReversalsAgree
  rcases refund with ⟨error, failed, ended⟩ | ⟨returned, ended, db⟩
  · rcases reverse with ⟨other, _, stopped⟩ | ⟨absurd, _⟩
    · exact .inl ⟨⟨error, ended⟩, ⟨other, stopped⟩⟩
    · rw [failed] at absurd
      cases absurd
  · rcases reverse with ⟨other, absurd, _⟩ | ⟨_, stopped, same⟩
    · rw [returned] at absurd
      cases absurd
    · have equal := db.trans same.symm
      refine .inr ⟨⟨ended, stopped⟩, fun account => ?_, ?_, ?_⟩
      · exact congrArg (Database.balanceOf · account) equal
      · exact congrArg (Database.statusOf · row.id) equal
      · exact congrArg (fun db => db.ledgerEntries.map LedgerEntry.terms) equal

/-- A reversal that returns when every call is delivered. -/
theorem reversal_commits {body : Service Unit} {reason : String} {id : TransactionId}
    {relation : Database → Database → Prop}
    (commits : Solo backend Acknowledged who (fun outcome last => ∀ reply, outcome = .ok reply →
      ∃ first, relation first last.db) (reversal id body reason) world)
    {reply : Option Transaction}
    (returned : (backend.run who (reversal id body reason) [] world).outcome = .ok reply) :
    ∃ first, relation first (backend.run who (reversal id body reason) [] world).state.db := by
  refine commits [] ?_ reply returned
  intro entry member absurd
  have delivered := Machine.calls_default backend who _ _ entry member
  rw [absurd.2] at delivered
  cases delivered

/-- A refund of a disputed payment that returns has given the reserved funds back. -/
theorem refund_disputed (rest : world.AtRest) {old : Dossier}
    (there : world.db.dossier old.row.id = some old) (held : old.Held)
    (disputed : old.row.status = .disputed) {reply : Option Transaction}
    (returned : (backend.run who (refundPayment old.row.id dto) [] world).outcome = .ok reply) :
    ∃ (first : Database) (settlement : Settlement), world.db.SameBooks first ∧
      (backend.run who (refundPayment old.row.id dto) [] world).state.db = settlement.apply first ∧
      settlement.entries.map LedgerEntry.posting = [old.row.release] := by
  rw [refundPayment_eq] at returned ⊢
  obtain ⟨first, refunds⟩ := reversal_commits (solo_reversal rest
    (fun start since => Setting.Within.refundBody (.begin start who _) since)
    ((booking_refundBody old.row.id).inner.mono fun _ => Operation.Inner.inside)) returned
  obtain ⟨settlement, books, made, posted⟩ := refunds.disputed there held disputed
  exact ⟨first, settlement, books, made, posted⟩

/-- A chargeback that returns has taken the recipient's credit back. -/
theorem reverse_disputed (rest : world.AtRest) {old : Dossier}
    (there : world.db.dossier old.row.id = some old) (held : old.Held)
    (disputed : old.row.status = .disputed) {reply : Option Transaction}
    (returned : (backend.run who (resolveDispute old.row.id ⟨.reverse⟩) [] world).outcome =
      .ok reply) :
    ∃ (first : Database) (settlement : Settlement), world.db.SameBooks first ∧
      (backend.run who (resolveDispute old.row.id ⟨.reverse⟩) [] world).state.db =
        settlement.apply first ∧
      settlement.entries.map LedgerEntry.posting = [old.row.takeBack, old.row.giveBack] := by
  rw [resolveDispute_eq] at returned ⊢
  obtain ⟨first, reverses⟩ := reversal_commits (solo_reversal rest
    (fun start since => Setting.Within.reverseBody (.begin start who _) since)
    ((booking_reverseBody old.row.id).inner.mono fun _ => Operation.Inner.inside)) returned
  obtain ⟨settlement, books, made, posted⟩ := reverses.disputed there held disputed
  exact ⟨first, settlement, books, made, posted⟩

theorem reverse_program_state (deployment : Deployment) :
    (backend.run who ((Command.resolveDispute row.id ⟨.reverse⟩).program deployment) []
        world).state =
      (backend.run who (resolveDispute row.id ⟨.reverse⟩) [] world).state :=
  Machine.run_discard backend who _ () [] world

/-- Without room for what is returned to the sender, both reversals of a disputed payment
fail. -/
theorem ReversalsAgree.of_full (deployment : Deployment) (rest : world.AtRest)
    (constrained : world.db.Constrained) {old : Dossier}
    (there : world.db.dossier old.row.id = some old) (held : old.Held)
    (disputed : old.row.status = .disputed)
    (payer : world.db.accounts.get? old.row.senderAccountId ≠ none)
    (full : ¬ world.db.HasRoom old.row.senderAccountId old.row.sourceAmount) :
    ReversalsAgree who world old.row dto := by
  left
  constructor
  · have after := Command.run_constrained deployment rest who (.refundPayment old.row.id dto) []
      constrained
    rw [refund_program_state] at after
    cases returned : (backend.run who (refundPayment old.row.id dto) [] world).outcome with
    | error error => exact ⟨error, rfl⟩
    | ok reply =>
        obtain ⟨first, settlement, same, made, posted⟩ :=
          refund_disputed rest there held disputed returned
        refine (full (Settlement.hasRoom same made after payer ?_)).elim
        rw [posted, netOf_cons, netOf_nil]
        simp only [Transaction.release, ↓reduceIte, add_zero]
  · have after := Command.run_constrained deployment rest who
      (.resolveDispute old.row.id ⟨.reverse⟩) [] constrained
    rw [reverse_program_state] at after
    cases returned : (backend.run who (resolveDispute old.row.id ⟨.reverse⟩) [] world).outcome with
    | error error => exact ⟨error, rfl⟩
    | ok reply =>
        obtain ⟨first, settlement, same, made, posted⟩ :=
          reverse_disputed rest there held disputed returned
        have taken : old.row.takeBack.accountId ≠ old.row.senderAccountId := Ne.symm held.parties
        refine (full (Settlement.hasRoom same made after payer ?_)).elim
        rw [posted, netOf_cons, if_neg taken, netOf_cons, netOf_nil, zero_add]
        simp only [Transaction.giveBack, ↓reduceIte, add_zero]

/-- A disputed payment whose sender has room for the reserved funds can be refunded. -/
theorem refundable_disputed (constrained : world.db.Constrained) (anchored : world.db.Anchored)
    {old : Dossier} (there : world.db.dossier old.row.id = some old) (held : old.Held)
    (disputed : old.row.status = .disputed)
    (room : world.db.HasRoom old.row.senderAccountId old.row.sourceAmount) :
    world.db.Refundable old.row := by
  obtain ⟨found, entries, _⟩ := Database.get?_of_dossier there
  have uncompleted : ¬ old.row.status = .completed := by
    rw [disputed]
    decide
  have reserved := (held.pending (by rw [disputed]; decide)).2
  unfold Dossier.debits at reserved
  rw [← Database.originalDebits_postings there] at reserved
  unfold Database.Refundable
  rw [if_neg uncompleted]
  exact .inr (Database.reimbursable_of_reserve constrained anchored found held.nonneg reserved room)

/-- What a refund and a chargeback of a disputed payment leave differs. -/
theorem ReversalsAgree.disputed_full (rest : world.AtRest) (constrained : world.db.Constrained)
    (anchored : world.db.Anchored) {old : Dossier}
    (there : world.db.dossier old.row.id = some old) (held : old.Held)
    (disputed : old.row.status = .disputed)
    (unlocked : world.redisLocks (.refund old.row.id) = none)
    (agree : ReversalsAgree who world old.row dto) :
    ¬ world.db.HasRoom old.row.senderAccountId old.row.sourceAmount := by
  intro room
  have found := (Database.get?_of_dossier there).1
  have able := refundable_disputed constrained anchored there held disputed room
  have allowed : old.row.status.Allows TransactionStatus.reversed.text := by
    rw [disputed]
    decide
  have succeeds : Succeeds who _ (refundPayment old.row.id dto) world :=
    succeeds_refundPayment rest dto found allowed unlocked able
  obtain ⟨reply, final, ran, _⟩ := succeeds
  have returned : (backend.run who (refundPayment old.row.id dto) [] world).outcome =
      .ok reply := by
    rw [ran]
  rcases agree with ⟨⟨error, failed⟩, _⟩ | ⟨⟨_, answer, stopped⟩, _, _, entries⟩
  · rw [returned] at failed
    cases failed
  obtain ⟨first, settlement, books, made, posted⟩ :=
    refund_disputed rest there held disputed returned
  obtain ⟨other, chargeback, same, charged, moved⟩ :=
    reverse_disputed rest there held disputed stopped
  rw [made, charged] at entries
  -- The refund posts one entry, the chargeback two.
  have lengths := congrArg List.length entries
  have one := congrArg List.length posted
  have two := congrArg List.length moved
  simp only [Settlement.apply_ledgerEntries, List.length_map, List.length_append, List.length_cons,
    List.length_nil, books.ledgerEntries, same.ledgerEntries] at lengths one two
  omega

variable {deployment : Deployment} {initial last : World}

/-- After a serial run, a refund and the chargeback of a dispute agree on a payment that
both may reverse exactly where it is not disputed, or both are kept out: by the lock of
its refunds, or because the sender's account has no room for the reserved funds. -/
theorem reversals_agree_iff {admits : World → Command → Prop} (rest : initial.AtRest)
    (empty : initial.db.transactions.rows = []) (constrained : initial.db.Constrained)
    (run : SerialRun deployment admits initial last)
    {row : Transaction} (member : row ∈ last.db.transactions.rows)
    (allowed : row.status.Allows TransactionStatus.reversed.text)
    (who : ProcessId) (dto : RefundPaymentDto) :
    ReversalsAgree who last row dto ↔
      row.status ≠ .disputed ∨ last.redisLocks (.refund row.id) ≠ none ∨
        ¬ last.db.HasRoom row.senderAccountId row.sourceAmount := by
  obtain ⟨rested, each⟩ := SerialRun.held rest empty run
  obtain ⟨fits, anchored⟩ :=
    SerialRun.accounts rest constrained (Database.anchored_of_empty empty) run
  have found : last.db.transactions.get? row.id = some row := Table.get?_of_mem member
  obtain ⟨old, there, same⟩ : ∃ old : Dossier, last.db.dossier row.id = some old ∧ old.row = row :=
    ⟨_, Database.dossier_of_get? found, rfl⟩
  have held := each row.id old there
  subst same
  constructor
  · intro agree
    by_cases disputed : old.row.status = .disputed
    · by_cases unlocked : last.redisLocks (.refund old.row.id) = none
      · exact .inr (.inr (agree.disputed_full rested fits anchored there held disputed unlocked))
      · exact .inr (.inl unlocked)
    · exact .inl disputed
  · intro conditions
    by_cases unlocked : last.redisLocks (.refund old.row.id) = none
    · by_cases disputed : old.row.status = .disputed
      · rcases conditions with absurd | absurd | full
        · exact (absurd disputed).elim
        · exact (absurd unlocked).elim
        · exact .of_full deployment rested fits there held disputed
            (anchored old.row member).2.1 full
      · apply ReversalsAgree.of_undisputed rested found allowed unlocked
        rw [TransactionStatus.allows_text_iff] at allowed
        cases status : old.row.status with
        | completed => exact .inl rfl
        | failed =>
            right
            refine ⟨by decide, ?_⟩
            rw [Database.hasReversal_iff_marked there]
            exact held.failed status
        | disputed => exact (disputed status).elim
        | initiated =>
            rw [status] at allowed
            exact absurd allowed (by decide)
        | processing =>
            rw [status] at allowed
            exact absurd allowed (by decide)
        | reversed =>
            rw [status] at allowed
            exact absurd allowed (by decide)
    · exact .of_locked unlocked

end Agreement

/-- A disputed payment. -/
def disputedWorld : World :=
  runAll sampleDeployment (sampleCompletion ++ [(.raiseDispute 0 ⟨"fraud"⟩, [])]) sampleWorld

theorem disputedWorld_run :
    SerialRun sampleDeployment (fun _ _ => True) sampleWorld disputedWorld :=
  runAll_run _ ⟨trivial, trivial, trivial, trivial, trivial⟩

theorem reversals_agree_iff_sample :
    ∃ row ∈ disputedWorld.db.transactions.rows, ReversalsAgree 0 disputedWorld row ⟨"fraud"⟩ ↔
      row.status ≠ .disputed ∨ disputedWorld.redisLocks (.refund row.id) ≠ none ∨
        ¬ disputedWorld.db.HasRoom row.senderAccountId row.sourceAmount := by
  have shape : ∃ row ∈ disputedWorld.db.transactions.rows,
      row.status.Allows TransactionStatus.reversed.text := by decide +kernel
  obtain ⟨row, member, allowed⟩ := shape
  refine ⟨row, member, ?_⟩
  exact reversals_agree_iff sampleWorld_atRest rfl (by decide +kernel) disputedWorld_run member
    allowed 0 ⟨"fraud"⟩

/-- Both reversals of the disputed payment succeed; the refund leaves the recipient the
money that the chargeback takes back. -/
theorem disputed_reversals_differ :
    SerialRun sampleDeployment (fun _ _ => True) sampleWorld disputedWorld ∧
      ∃ row ∈ disputedWorld.db.transactions.rows,
        row.status.Allows TransactionStatus.reversed.text ∧
          ¬ ReversalsAgree 0 disputedWorld row ⟨"fraud"⟩ := by
  refine ⟨disputedWorld_run, ?_⟩
  have shape : ∃ row ∈ disputedWorld.db.transactions.rows,
      row.status.Allows TransactionStatus.reversed.text ∧
        (backend.run 0 (PaymentsService.refundPayment row.id ⟨"fraud"⟩) []
          disputedWorld).outcome.toOption ≠ none ∧
        (backend.run 0 (PaymentsService.refundPayment row.id ⟨"fraud"⟩) []
          disputedWorld).state.db.balanceOf row.recipientAccountId ≠
        (backend.run 0 (PaymentsService.resolveDispute row.id ⟨.reverse⟩) []
          disputedWorld).state.db.balanceOf row.recipientAccountId := by decide +kernel
  obtain ⟨row, member, allowed, returned, differ⟩ := shape
  refine ⟨row, member, allowed, fun agree => ?_⟩
  rcases agree with ⟨⟨error, failed⟩, _⟩ | ⟨_, balances, _⟩
  · rw [failed] at returned
    exact returned rfl
  · exact differ (balances row.recipientAccountId)

end Payroute
