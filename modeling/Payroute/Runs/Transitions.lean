import Payroute.Commits.Refinement
import Payroute.Runs.Serial

/-! # What an operation alone does to a payment

An operation that runs alone commits at most one change of the books: it opens a
payment, or it takes one payment a step on. `Command.Transition` lists these
steps on dossiers, with the status each of them starts from.
-/

namespace Payroute

open EffectSystem KeyedTable

namespace Dossier

/-- The dossier goes on with a patch of its row, further postings and further steps
of its history. -/
structure Continues (old new : Dossier) (patch : TransactionPatch) (postings : List Posting)
    (steps : List (Option String × String)) : Prop where
  row : new.row = patch.apply old.row
  postings : new.postings = old.postings ++ postings
  trace : new.trace = old.trace ++ steps

variable (dossier : Dossier)

/-- `hasBeenReversed`, on postings. -/
def marked : Bool := dossier.postings.any Posting.isReversal

/-- What `createCompensatingEntries` posts. -/
def compensation : List Posting :=
  (dossier.postings.filter fun posting => decide posting.IsOriginalDebit).map Posting.reversal

/-- What `returnFunds` posts. -/
def returned : List Posting := if dossier.marked = true then [] else dossier.compensation

/-- What `chargeBack` posts. -/
def chargedBack : List Posting :=
  if dossier.marked = true then [] else [dossier.row.takeBack, dossier.row.giveBack]

theorem marked_iff :
    dossier.marked = true ↔ ∃ posting ∈ dossier.postings, posting.isReversal = true :=
  List.any_eq_true

end Dossier

/-- The step of a history row from one status to the next. -/
def stepOf (current : TransactionStatus) (next : String) : Option String × String :=
  (some current.text, next)

/-- A step of a payment by an operation that runs alone. -/
inductive Command.Transition (deployment : Deployment) (old new : Dossier) : Command → Prop
  | submit (data : ProviderJobData) (reference : ProviderReference)
      (named : old.row.id = data.transactionId) (eligible : ProviderProcessor.eligible old.row)
      (continues : old.Continues new { providerReference := some reference } [] []) :
      Transition deployment old new (.process data)
  | complete (payload : WebhookPayloadDto) (rawBody : List UInt8) (signature : String)
      (completedAt : Nat)
      (signed : WebhooksService.verifySignature deployment rawBody signature = true)
      (status : payload.status = "completed")
      (referenced : old.row.providerReference = some payload.reference)
      (allowed : old.row.status = .processing ∨ old.row.status = .disputed)
      (continues : old.Continues new
        { status := some .completed, completedAt := some completedAt } [old.row.settle]
        [stepOf old.row.status payload.status]) :
      Transition deployment old new (.processWebhook payload rawBody signature)
  | fail (payload : WebhookPayloadDto) (rawBody : List UInt8) (signature : String)
      (signed : WebhooksService.verifySignature deployment rawBody signature = true)
      (status : payload.status = "failed")
      (referenced : old.row.providerReference = some payload.reference)
      (allowed : old.row.status = .initiated ∨ old.row.status = .processing)
      (continues : old.Continues new { status := some .failed } old.compensation
        [stepOf old.row.status payload.status]) :
      Transition deployment old new (.processWebhook payload rawBody signature)
  | note (payload : WebhookPayloadDto) (rawBody : List UInt8) (signature : String)
      (signed : WebhooksService.verifySignature deployment rawBody signature = true)
      (uncompleted : payload.status ≠ "completed") (unfailed : payload.status ≠ "failed")
      (allowed : old.row.status.Allows payload.status)
      (continues : old.Continues new {} [] [stepOf old.row.status payload.status]) :
      Transition deployment old new (.processWebhook payload rawBody signature)
  | exhaust (jobId : JobId) (failedReason : String) (allowed : old.row.status = .processing)
      (continues : old.Continues new { status := some .failed } old.returned
        [stepOf .processing TransactionStatus.failed.text]) :
      Transition deployment old new (.onProviderJobExhausted jobId failedReason)
  | refund (dto : RefundPaymentDto)
      (allowed : old.row.status.Allows TransactionStatus.reversed.text)
      (continues : old.Continues new { status := some .reversed }
        (if old.row.status = .completed then old.chargedBack else old.returned)
        [stepOf old.row.status TransactionStatus.reversed.text]) :
      Transition deployment old new (.refundPayment old.row.id dto)
  | dispute (dto : DisputePaymentDto) (allowed : old.row.status = .completed)
      (continues : old.Continues new { status := some .disputed } []
        [stepOf old.row.status TransactionStatus.disputed.text]) :
      Transition deployment old new (.raiseDispute old.row.id dto)
  | reverse (allowed : old.row.status.Allows TransactionStatus.reversed.text)
      (continues : old.Continues new { status := some .reversed } old.chargedBack
        [stepOf old.row.status TransactionStatus.reversed.text]) :
      Transition deployment old new (.resolveDispute old.row.id ⟨.reverse⟩)
  | reject (allowed : old.row.status = .processing ∨ old.row.status = .disputed)
      (continues : old.Continues new { status := some .completed } []
        [stepOf .disputed TransactionStatus.completed.text]) :
      Transition deployment old new (.resolveDispute old.row.id ⟨.reject⟩)

/-- The operation takes a payment a step on. -/
def Command.Proceeds (deployment : Deployment) (world : World) (command : Command)
    (id : TransactionId) (last : Database) : Prop :=
  ∃ old new : Dossier, world.db.Moves last id old new ∧ command.Transition deployment old new

/-- What an operation that runs alone from a world leaves of the books. -/
inductive Command.Performs (deployment : Deployment) (world : World) (command : Command)
    (last : Database) : Prop
  | rests (same : world.db.SameBooks last)
  | opens (dto : CreatePaymentDto) (idempotencyKey : String) (row : Transaction)
      (created : command = .createPayment dto idempotencyKey) (first second : Database)
      (creates : Creates (serial world) dto row first second)
      (checked : Checked (serial world) deployment dto row first)
      (entry : LedgerEntry) (opened reserved : Nat) (posting : entry.posting = row.reserve)
      (absent : world.db.transactions.get? row.id = none)
      (after : last.dossier row.id = some (openingDossier row entry opened reserved))
      (others : ∀ other, other ≠ row.id → last.dossier other = world.db.dossier other)
  | continues (id : TransactionId) (old new : Dossier) (moves : world.db.Moves last id old new)
      (transition : command.Transition deployment old new)

section Postings

variable {db : Database} {id : TransactionId} {old : Dossier} {entries : List LedgerEntry}

theorem Database.hasReversal_iff_marked (found : db.dossier id = some old) :
    db.HasReversal id ↔ old.marked = true :=
  (Database.hasReversal_iff found).trans old.marked_iff.symm

theorem ChargesBack.postings (found : db.dossier old.row.id = some old)
    (charges : ChargesBack db old.row entries) :
    entries.map LedgerEntry.posting = old.chargedBack := by
  have marked := Database.hasReversal_iff_marked found
  unfold Dossier.chargedBack
  rcases charges with ⟨reversed, rfl⟩ | ⟨unmarked, _, _, _, _, _, terms⟩
  · rw [if_pos (marked.mp reversed)]
    rfl
  · rw [if_neg fun absurd => unmarked (marked.mpr absurd)]
    exact postings_of_terms terms

theorem ReturnsFunds.postings (found : db.dossier id = some old)
    (returns : ReturnsFunds db id entries) :
    entries.map LedgerEntry.posting = old.returned := by
  have marked := Database.hasReversal_iff_marked found
  unfold Dossier.returned
  rcases returns with ⟨reversed, rfl⟩ | ⟨unmarked, terms⟩
  · rw [if_pos (marked.mp reversed)]
    rfl
  · rw [if_neg fun absurd => unmarked (marked.mpr absurd)]
    exact postings_of_reversals found terms

end Postings

/-- A settlement with one patch. -/
theorem Settlement.continues {settlement : Settlement} {old : Dossier} {patch : TransactionPatch}
    (patched : settlement.patches.foldl (fun row patch => patch.apply row) old.row =
      patch.apply old.row) :
    old.Continues (settlement.advance old) patch (settlement.entries.map LedgerEntry.posting)
      (settlement.history.map fun row => (row.fromState, row.toState)) where
  row := patched
  postings := List.map_append
  trace := List.map_append

section Commits

variable {deployment : Deployment} {world : World} {first second : Database} {id : TransactionId}

/-- A settlement of a payment takes it a step on. -/
theorem Settlement.proceeds {settlement : Settlement} {command : Command} {row : Transaction}
    (same : world.db.SameBooks first) (own : settlement.Own)
    (found : first.transactions.get? settlement.id = some row)
    (transition : ∀ old : Dossier, first.dossier settlement.id = some old → old.row = row →
      command.Transition deployment old (settlement.advance old)) :
    command.Proceeds deployment world settlement.id (settlement.apply first) := by
  have there := Database.dossier_of_get? found
  obtain ⟨before, after, others⟩ := Settlement.moves own there
  exact ⟨_, _, ⟨(same.dossier _).symm.trans before, after, fun other differs =>
    (others other differs).trans (same.dossier other)⟩, transition _ there rfl⟩

theorem Command.Proceeds.performs {command : Command} {last : Database}
    (proceeds : command.Proceeds deployment world id last) :
    command.Performs deployment world last := by
  obtain ⟨old, new, moves, transition⟩ := proceeds
  exact .continues id old new moves transition

theorem Refunds.proceeds {dto : RefundPaymentDto}
    (refunds : Refunds (serial world) id first second) :
    (Command.refundPayment id dto).Proceeds deployment world id second := by
  obtain ⟨row, entries, timestamp, since, found, allowed, posts, rfl⟩ := refunds
  have named : row.id = id := Table.key_of_get? found
  subst named
  have own : ∀ entry ∈ entries, entry.transactionId = row.id := by
    by_cases completed : row.status = .completed
    · rw [if_pos completed] at posts
      exact posts.own
    · rw [if_neg completed] at posts
      exact posts.own
  refine Settlement.proceeds (serial_since since) ⟨own, history_own⟩ found ?_
  rintro old there rfl
  refine .refund dto allowed ?_
  have posted : entries.map LedgerEntry.posting =
      if old.row.status = .completed then old.chargedBack else old.returned := by
    by_cases completed : old.row.status = .completed
    · rw [if_pos completed] at posts ⊢
      exact posts.postings there
    · rw [if_neg completed] at posts ⊢
      exact posts.postings there
  rw [← posted]
  exact Settlement.continues rfl

theorem Reverses.proceeds (reverses : Reverses (serial world) id first second) :
    (Command.resolveDispute id ⟨.reverse⟩).Proceeds deployment world id second := by
  obtain ⟨row, entries, timestamp, since, found, allowed, posts, rfl⟩ := reverses
  have named : row.id = id := Table.key_of_get? found
  subst named
  refine Settlement.proceeds (serial_since since) ⟨posts.own, history_own⟩ found ?_
  rintro old there rfl
  refine .reverse allowed ?_
  rw [← posts.postings there]
  exact Settlement.continues rfl

theorem Raises.proceeds {dto : DisputePaymentDto} (raises : Raises (serial world) id first second) :
    (Command.raiseDispute id dto).Proceeds deployment world id second := by
  obtain ⟨row, checked, timestamp, found, read, allowed, _, rfl⟩ := raises
  have named : row.id = id := Table.key_of_get? found
  subst named
  have same : checked = row := Option.some.inj ((serial_read read).1.symm.trans found)
  subst same
  refine Settlement.proceeds (serial_since read.since) ⟨no_entries, history_own⟩ found ?_
  rintro old there rfl
  exact .dispute dto (allows_disputed allowed) (Settlement.continues rfl)

theorem Rejects.proceeds (rejects : Rejects (serial world) id first second) :
    (Command.resolveDispute id ⟨.reject⟩).Proceeds deployment world id second := by
  obtain ⟨row, checked, timestamp, found, read, allowed, _, rfl⟩ := rejects
  have named : row.id = id := Table.key_of_get? found
  subst named
  have same : checked = row := Option.some.inj ((serial_read read).1.symm.trans found)
  subst same
  refine Settlement.proceeds (serial_since read.since) ⟨no_entries, history_own⟩ found ?_
  rintro old there rfl
  exact .reject (allows_completed allowed) (Settlement.continues rfl)

theorem Exhausts.proceeds {jobId : JobId} {failedReason : String}
    (exhausts : Exhausts (serial world) id first second) :
    (Command.onProviderJobExhausted jobId failedReason).Proceeds deployment world id second := by
  obtain ⟨row, entries, timestamp, since, found, processing, returns, rfl⟩ := exhausts
  refine Settlement.proceeds (serial_since since) ⟨returns.own, history_own⟩ found ?_
  rintro old there rfl
  refine .exhaust jobId failedReason processing ?_
  rw [← returns.postings there]
  exact Settlement.continues rfl

theorem Assigns.proceeds {data : ProviderJobData}
    (assigns : Assigns (serial world) data.transactionId first second) :
    (Command.process data).Proceeds deployment world data.transactionId second := by
  obtain ⟨row, reference, read, eligible, _, rfl⟩ := assigns
  have found := (serial_read read).1
  refine Settlement.proceeds (serial_since read.since) Settlement.own_patches found ?_
  rintro old there rfl
  exact .submit data reference (Table.key_of_get? found) eligible (Settlement.continues rfl)

theorem Creates.performs {dto : CreatePaymentDto} {idempotencyKey : String} {row : Transaction}
    (creates : Creates (serial world) dto row first second)
    (checked : Checked (serial world) deployment dto row first) :
    (Command.createPayment dto idempotencyKey).Performs deployment world second := by
  obtain ⟨entry, opened, reserved, after, others, posting⟩ := creates.opens
  have created := creates
  obtain ⟨_, _, _, _, since, absent, _⟩ := created
  have same := serial_since since
  refine .opens dto idempotencyKey row rfl first second creates checked entry opened reserved
    posting ?_ after fun other differs => (others other differs).trans (same.dossier other)
  rw [← same.transactions]
  exact absent

theorem Delivers.proceeds {payload : WebhookPayloadDto} {rawBody : List UInt8} {signature : String}
    (delivers : Delivers (serial world) deployment payload rawBody signature first second) :
    ∃ row, world.db.byReference payload.reference = some row ∧
      (Command.processWebhook payload rawBody signature).Proceeds deployment world row.id
        second := by
  obtain ⟨signed, row, entries, patches, events, _, timestamp, marks, looks, found, allowed,
    settles,
    rfl⟩ := delivers
  have same := (serial_marks marks).2
  have looked := serial_looksUp same looks
  have referenced : row.providerReference = some payload.reference :=
    of_decide_eq_true (List.find?_some looked :)
  refine ⟨row, looked, ?_⟩
  unfold DeliverySettles at settles
  by_cases completed : payload.status = "completed"
  · rw [if_pos completed] at settles
    obtain ⟨currency, completedAt, _, terms, rfl⟩ := settles
    refine Settlement.proceeds same ⟨credit_own terms, history_own⟩ found ?_
    rintro old there rfl
    refine .complete payload rawBody signature completedAt signed completed referenced
      (allows_completed (completed ▸ allowed)) ?_
    have posted : entries.map LedgerEntry.posting = [old.row.settle] := postings_of_terms terms
    rw [← posted]
    exact Settlement.continues rfl
  · rw [if_neg completed] at settles
    by_cases failed : payload.status = "failed"
    · rw [if_pos failed] at settles
      obtain ⟨terms, rfl⟩ := settles
      refine Settlement.proceeds same ⟨reversals_own terms, history_own⟩ found ?_
      rintro old there rfl
      refine .fail payload rawBody signature signed failed referenced
        (allows_failed (failed ▸ allowed)) ?_
      have posted : entries.map LedgerEntry.posting = old.compensation :=
        postings_of_reversals there terms
      rw [← posted]
      exact Settlement.continues rfl
    · rw [if_neg failed] at settles
      obtain ⟨rfl, rfl⟩ := settles
      refine Settlement.proceeds same ⟨no_entries, history_own⟩ found ?_
      rintro old there rfl
      exact .note payload rawBody signature signed completed failed allowed
        (Settlement.continues rfl)

/-- Each commit of an operation that runs alone is a step from where it started. -/
theorem Command.Commits.performs {command : Command}
    (commits : command.Commits (serial world) deployment first second) :
    command.Performs deployment world second := by
  cases command with
  | createPayment dto idempotencyKey =>
      obtain ⟨row, creates, checked⟩ := commits
      exact creates.performs checked
  | process data => exact (Assigns.proceeds commits).performs
  | processWebhook payload rawBody signature =>
      rcases commits with misses | delivers
      · have missed := misses
        obtain ⟨_, _, marks, _⟩ := missed
        exact .rests ((serial_marks marks).2.trans misses.books)
      · obtain ⟨_, _, proceeds⟩ := delivers.proceeds
        exact proceeds.performs
  | onProviderJobExhausted jobId failedReason =>
      obtain ⟨id, exhausts⟩ := commits
      exact exhausts.proceeds.performs
  | refundPayment id dto => exact (Refunds.proceeds commits).performs
  | raiseDispute id dto => exact (Raises.proceeds commits).performs
  | resolveDispute id dto =>
      obtain ⟨action⟩ := dto
      cases action with
      | reverse => exact (Reverses.proceeds commits).performs
      | reject => exact (Rejects.proceeds commits).performs
  | retryStuckPayments => exact commits.elim
  | cleanupExpiredIdempotencyKeys => exact commits.elim
  | cleanupOldProcessedWebhookEvents => exact commits.elim

/-- Tables beside the books do not matter. -/
theorem Command.Performs.sameBooks {command : Command}
    (performs : command.Performs deployment world first) (same : first.SameBooks second) :
    command.Performs deployment world second := by
  cases performs with
  | rests before => exact .rests (before.trans same)
  | opens dto idempotencyKey row created start final creates checked entry opened reserved posting
      absent after others =>
      exact .opens dto idempotencyKey row created start final creates checked entry opened reserved
        posting absent ((same.dossier _).trans after) fun other differs =>
          (same.dossier other).trans (others other differs)
  | continues id old new moves transition =>
      obtain ⟨before, after, others⟩ := moves
      exact .continues id old new ⟨before, (same.dossier id).trans after, fun other differs =>
        (same.dossier other).trans (others other differs)⟩ transition

/-- An operation that runs alone opens a payment, takes one a step on, or leaves the
books as they are. -/
theorem Command.run_performs (deployment : Deployment) {world : World} (rest : world.AtRest)
    (who : ProcessId) (command : Command) (choices : List Delivery) :
    command.Performs deployment world
      (backend.run who (command.program deployment) choices world).state.db := by
  obtain ⟨_, _, path⟩ := Command.run_alone deployment rest who command choices
  change Relation.ReflTransGen _ world.db
    (backend.run who (command.program deployment) choices world).state.db at path
  generalize (backend.run who (command.program deployment) choices world).state.db = last at path ⊢
  induction path with
  | refl => exact .rests (.refl _)
  | tail _ change ih =>
      rcases change with beside | commits
      · exact ih.sameBooks beside.books
      -- What a commit starts from has the books of the start, so it is the only one.
      · exact commits.performs

end Commits

/-- A property of the world that time and every step keep holds in every state a
serial run reaches. -/
theorem SerialRun.invariant {deployment : Deployment} {admits : World → Command → Prop}
    (property : World → Prop)
    (elapses : ∀ first second : World, first.Elapses second → property first → property second)
    (performs : ∀ (world : World) (who : ProcessId) (command : Command) (choices : List Delivery),
      world.AtRest → admits world command → property world →
      command.Performs deployment world
        (backend.run who (command.program deployment) choices world).state.db →
      property (backend.run who (command.program deployment) choices world).state)
    {initial last : World} (rest : initial.AtRest) (holds : property initial)
    (run : SerialRun deployment admits initial last) : last.AtRest ∧ property last := by
  induction run with
  | refl => exact ⟨rest, holds⟩
  | tail _ step ih =>
      obtain ⟨rested, held⟩ := ih
      cases step with
      | command who command choices admitted =>
          exact ⟨(Command.run_alone deployment rested who command choices).1,
            performs _ who command choices rested admitted held
              (Command.run_performs deployment rested who command choices)⟩
      | elapse passed =>
          refine ⟨.of_sound ((World.Elapses.aside passed).sound rested.sound) fun who => ?_,
            elapses _ _ passed held⟩
          rw [passed.sessions]
          exact rested.sessions who

end Payroute
