import Payroute.Runs.Transitions

/-! # The reversal marker

In serial runs without chargebacks a payment's ledger is marked reversed exactly
when its sender has its money back. A chargeback returns the money without the
mark.
-/

namespace Payroute

open EffectSystem KeyedTable

/-- The money of a payment in this status has gone back to its sender. -/
def TransactionStatus.Returned (status : TransactionStatus) : Prop :=
  status = .failed ∨ status = .reversed

instance (status : TransactionStatus) : Decidable status.Returned :=
  inferInstanceAs (Decidable (_ ∨ _))

namespace Dossier

/-- The mark says whether the sender, whose funds were reserved, has them back. -/
structure MarkedTruly (dossier : Dossier) : Prop where
  returned : dossier.marked = true ↔ netOf dossier.postings dossier.row.senderAccountId = 0
  reserved : netOf dossier.postings dossier.row.senderAccountId = 0 ∨
    netOf dossier.postings dossier.row.senderAccountId = -dossier.row.sourceAmount
  ended : dossier.row.status.Returned → dossier.marked = true

instance (dossier : Dossier) : Decidable dossier.MarkedTruly :=
  decidable_of_iff
    ((dossier.marked = true ↔ netOf dossier.postings dossier.row.senderAccountId = 0) ∧
      (netOf dossier.postings dossier.row.senderAccountId = 0 ∨
        netOf dossier.postings dossier.row.senderAccountId = -dossier.row.sourceAmount) ∧
      (dossier.row.status.Returned → dossier.marked = true))
    ⟨fun all => ⟨all.1, all.2.1, all.2.2⟩, fun truly => ⟨truly.1, truly.2, truly.3⟩⟩

/-- The postings of a payment whose money only comes back by compensation: the funds
were reserved, perhaps credited, and released where the status says so. -/
structure Compensated (dossier : Dossier) : Prop where
  parties : dossier.row.senderAccountId ≠ dossier.row.recipientAccountId
  positive : 0 < dossier.row.sourceAmount
  booked : ∃ credits, dossier.postings = dossier.row.reserve ::
    (List.replicate credits dossier.row.settle ++
      if dossier.row.status.Returned then [dossier.row.release] else [])

variable {dossier : Dossier}

theorem Compensated.marked_iff (held : dossier.Compensated) :
    dossier.marked = true ↔ dossier.row.status.Returned := by
  obtain ⟨_, _, credits, booked⟩ := held
  rw [Dossier.marked_iff, booked]
  by_cases returned : dossier.row.status.Returned
  · rw [if_pos returned]
    refine ⟨fun _ => returned, fun _ => ⟨dossier.row.release, ?_, rfl⟩⟩
    simp
  · rw [if_neg returned, List.append_nil]
    refine ⟨?_, fun absurd => (returned absurd).elim⟩
    rintro ⟨posting, member, marked⟩
    rcases List.mem_cons.mp member with rfl | credit
    · cases marked
    · rw [List.eq_of_mem_replicate credit] at marked
      cases marked

/-- Compensating an unmarked payment releases the reserved funds. -/
theorem Compensated.compensation (held : dossier.Compensated)
    (pending : ¬ dossier.row.status.Returned) : dossier.compensation = [dossier.row.release] := by
  obtain ⟨_, positive, credits, booked⟩ := held
  rw [if_neg pending, List.append_nil] at booked
  have credited : (List.replicate credits dossier.row.settle).filter
      (fun posting => decide posting.IsOriginalDebit) = [] := by
    apply List.filter_eq_nil_iff.mpr
    intro posting member
    rw [List.eq_of_mem_replicate member]
    exact fun selected => nomatch (of_decide_eq_true selected).1
  have reserved : dossier.row.reserve.IsOriginalDebit := ⟨rfl, rfl⟩
  unfold Dossier.compensation
  rw [booked, List.filter_cons_of_pos (by exact decide_eq_true reserved), credited]
  exact congrArg (fun posting => [posting]) (dossier.row.reversal_reserve (Int.le_of_lt positive))

theorem netOf_credits {row : Transaction} (differ : row.senderAccountId ≠ row.recipientAccountId)
    (credits : Nat) (rest : List Posting) :
    netOf (List.replicate credits row.settle ++ rest) row.senderAccountId =
      netOf rest row.senderAccountId := by
  have other : row.settle.accountId ≠ row.senderAccountId := Ne.symm differ
  induction credits with
  | zero => rfl
  | succ credits ih =>
      rw [List.replicate_succ, List.cons_append, netOf_cons, if_neg other, zero_add, ih]

theorem Compensated.net (held : dossier.Compensated) :
    netOf dossier.postings dossier.row.senderAccountId =
      if dossier.row.status.Returned then 0 else -dossier.row.sourceAmount := by
  obtain ⟨parties, _, credits, booked⟩ := held
  rw [booked, netOf_cons, if_pos (by rfl), netOf_credits parties]
  by_cases returned : dossier.row.status.Returned
  · rw [if_pos returned, if_pos returned, netOf_cons, if_pos (by rfl), netOf_nil]
    change -dossier.row.sourceAmount + (dossier.row.sourceAmount + 0) = 0
    omega
  · rw [if_neg returned, if_neg returned, netOf_nil]
    change -dossier.row.sourceAmount + 0 = _
    omega

theorem Compensated.markedTruly (held : dossier.Compensated) : dossier.MarkedTruly := by
  have net := held.net
  have positive := held.positive
  refine ⟨?_, ?_, held.marked_iff.mpr⟩
  · rw [held.marked_iff, net]
    by_cases returned : dossier.row.status.Returned
    · rw [if_pos returned]
      exact ⟨fun _ => rfl, fun _ => returned⟩
    · rw [if_neg returned]
      refine ⟨fun absurd => (returned absurd).elim, fun zero => ?_⟩
      omega
  · rw [net]
    by_cases returned : dossier.row.status.Returned
    · rw [if_pos returned]
      exact .inl rfl
    · rw [if_neg returned]
      exact .inr rfl

/-- A step that goes on from the same terms, by its postings. -/
theorem Compensated.continues {old new : Dossier} (held : old.Compensated)
    {patch : TransactionPatch} {postings : List Posting} {steps : List (Option String × String)}
    (continues : old.Continues new patch postings steps)
    (booked : ∃ credits, old.postings ++ postings = old.row.reserve ::
      (List.replicate credits old.row.settle ++
        if (patch.apply old.row).status.Returned then [old.row.release] else [])) :
    new.Compensated := by
  obtain ⟨row, added, _⟩ := continues
  obtain ⟨reserve, settle, release, _, _⟩ := Transaction.postings_congr (patch.terms_apply old.row)
  refine ⟨?_, ?_, ?_⟩
  · rw [row]
    exact held.parties
  · rw [row]
    exact held.positive
  · rw [row, added, reserve, settle, release]
    exact booked

theorem Compensated.stays {old new : Dossier} (held : old.Compensated) {patch : TransactionPatch}
    {steps : List (Option String × String)} (continues : old.Continues new patch [] steps)
    (status : (patch.apply old.row).status.Returned ↔ old.row.status.Returned) :
    new.Compensated := by
  refine held.continues continues ?_
  obtain ⟨credits, booked⟩ := held.booked
  refine ⟨credits, ?_⟩
  rw [List.append_nil, booked]
  by_cases returned : old.row.status.Returned
  · rw [if_pos returned, if_pos (status.mpr returned)]
  · rw [if_neg returned, if_neg fun absurd => returned (status.mp absurd)]

/-- A payment whose reserved funds are released. -/
theorem Compensated.releases {old new : Dossier} (held : old.Compensated)
    {patch : TransactionPatch} {steps : List (Option String × String)}
    (pending : ¬ old.row.status.Returned) (returned : (patch.apply old.row).status.Returned)
    (continues : old.Continues new patch [old.row.release] steps) : new.Compensated := by
  refine held.continues continues ?_
  obtain ⟨credits, booked⟩ := held.booked
  rw [if_neg pending, List.append_nil] at booked
  refine ⟨credits, ?_⟩
  rw [booked, if_pos returned, List.cons_append]

end Dossier

/-- The operation charges nobody back. -/
def Command.Compensates (world : World) : Command → Prop
  | .refundPayment id _ =>
      (world.db.transactions.get? id).map Transaction.status ≠ some .completed
  | .resolveDispute id dto => ¬ (dto.action = .reverse ∧
      ((world.db.transactions.get? id).map Transaction.status = some .completed ∨
        (world.db.transactions.get? id).map Transaction.status = some .disputed))
  | _ => True

instance (world : World) (command : Command) : Decidable (command.Compensates world) :=
  match command with
  | .refundPayment _ _ => inferInstanceAs (Decidable (_ ≠ _))
  | .resolveDispute _ _ => inferInstanceAs (Decidable (¬ _))
  | .createPayment _ _ | .process _ | .processWebhook _ _ _ | .onProviderJobExhausted _ _
  | .raiseDispute _ _ | .retryStuckPayments | .cleanupExpiredIdempotencyKeys
  | .cleanupOldProcessedWebhookEvents => .isTrue trivial

/-- Steps without chargebacks keep a payment compensated. -/
theorem Command.Transition.compensated {deployment : Deployment} {world : World}
    {command : Command} {old new : Dossier}
    (transition : command.Transition deployment old new) (compensates : command.Compensates world)
    (found : world.db.transactions.get? old.row.id = some old.row) (held : old.Compensated) :
    new.Compensated := by
  have marked := held.marked_iff
  cases transition with
  | submit data reference named eligible continues => exact held.stays continues .rfl
  | complete payload rawBody signature completedAt signed status referenced allowed continues =>
      have pending : ¬ old.row.status.Returned := by
        rcases allowed with processing | disputed
        · rw [processing]
          decide
        · rw [disputed]
          decide
      refine held.continues continues ?_
      obtain ⟨credits, booked⟩ := held.booked
      rw [if_neg pending, List.append_nil] at booked
      have settled : ¬ TransactionStatus.Returned .completed := by decide
      refine ⟨credits + 1, ?_⟩
      change _ = _ :: (_ ++ if TransactionStatus.Returned .completed then _ else _)
      rw [booked, if_neg settled, List.append_nil, List.replicate_succ', List.cons_append]
  | fail payload rawBody signature signed status referenced allowed continues =>
      have pending : ¬ old.row.status.Returned := by
        rcases allowed with initiated | processing
        · rw [initiated]
          decide
        · rw [processing]
          decide
      rw [held.compensation pending] at continues
      exact held.releases pending (.inl rfl) continues
  | note payload rawBody signature signed uncompleted unfailed allowed continues =>
      exact held.stays continues .rfl
  | exhaust jobId failedReason allowed continues =>
      have pending : ¬ old.row.status.Returned := by
        rw [allowed]
        decide
      unfold Dossier.returned at continues
      rw [if_neg fun absurd => pending (marked.mp absurd), held.compensation pending] at continues
      exact held.releases pending (.inl rfl) continues
  | refund dto allowed continues =>
      have uncompleted : old.row.status ≠ .completed := by
        intro completed
        refine compensates ?_
        rw [found, Option.map_some, completed]
      rw [if_neg uncompleted] at continues
      unfold Dossier.returned at continues
      by_cases pending : old.row.status.Returned
      · rw [if_pos (marked.mpr pending)] at continues
        exact held.stays continues ⟨fun _ => pending, fun _ => .inr rfl⟩
      · rw [if_neg fun absurd => pending (marked.mp absurd), held.compensation pending] at continues
        exact held.releases pending (.inr rfl) continues
  | dispute dto allowed continues =>
      refine held.stays continues ?_
      change TransactionStatus.Returned .disputed ↔ _
      rw [allowed]
      decide
  | reverse allowed continues =>
      have failed : old.row.status = .failed := by
        rcases allows_reversed allowed with failed | completed | disputed
        · exact failed
        · refine (compensates ⟨rfl, .inl ?_⟩).elim
          rw [found, Option.map_some, completed]
        · refine (compensates ⟨rfl, .inr ?_⟩).elim
          rw [found, Option.map_some, disputed]
      unfold Dossier.chargedBack at continues
      rw [if_pos (marked.mpr (.inl failed))] at continues
      exact held.stays continues ⟨fun _ => .inl failed, fun _ => .inr rfl⟩
  | reject allowed continues =>
      refine held.stays continues ?_
      change TransactionStatus.Returned .completed ↔ _
      rcases allowed with processing | disputed
      · rw [processing]
        decide
      · rw [disputed]
        decide

theorem Command.Performs.compensated {deployment : Deployment} {world : World} {command : Command}
    {last : Database} (performs : command.Performs deployment world last)
    (compensates : command.Compensates world) (each : world.db.Each Dossier.Compensated) :
    last.Each Dossier.Compensated := by
  cases performs with
  | rests same => exact each.sameBooks same
  | opens dto idempotencyKey row created first second creates checked entry opened reserved posting
      absent
      after others =>
      obtain ⟨parties, _⟩ := creates.parties
      refine each.of_changed after others ⟨parties, creates.positive, 0, ?_⟩
      change [entry.posting] = _
      rw [posting]
      rfl
  | continues id old new moves transition =>
      refine each.moves moves fun held => transition.compensated compensates ?_ held
      have found := (Database.get?_of_dossier moves.before).1
      rw [← Database.dossier_row_id moves.before] at found
      exact found

/-- `hasBeenReversed` reads the mark. -/
theorem hasBeenReversed_run {world : World} (rest : world.AtRest) (who : ProcessId)
    {id : TransactionId} {dossier : Dossier} (found : world.db.dossier id = some dossier) :
    (backend.run who (LedgerService.hasBeenReversed id) [] world).outcome = .ok dossier.marked := by
  have entries := (Database.get?_of_dossier found).2.1
  have counted : (0 < ((world.db.entriesOf id).filter LedgerEntry.isReversal).length) ↔
      dossier.marked = true := by
    rw [List.length_pos_iff_exists_mem, Dossier.marked_iff, entries]
    unfold Dossier.postings
    constructor
    · rintro ⟨entry, member⟩
      obtain ⟨posted, reversal⟩ := List.mem_filter.mp member
      exact ⟨entry.posting, List.mem_map_of_mem posted, reversal⟩
    · rintro ⟨posting, member, reversal⟩
      obtain ⟨entry, posted, rfl⟩ := List.mem_map.mp member
      exact ⟨entry, List.mem_filter.mpr ⟨posted, reversal⟩⟩
  change (Except.ok (decide (0 < (Query.reversalCount id).eval (world.view who))) :
    Except Failure Bool) = _
  rw [World.view_closed (rest.sessions who)]
  change Except.ok (decide (0 < ((world.db.entriesOf id).filter LedgerEntry.isReversal).length)) = _
  rw [Bool.eq_iff_iff.mpr ((decide_eq_true_iff).trans counted)]

/-- In every serial run without chargebacks the mark of a payment is truthful, and
`hasBeenReversed` returns it. -/
theorem marker_truthful (deployment : Deployment) {initial world : World} (rest : initial.AtRest)
    (empty : initial.db.transactions.rows = [])
    (run : SerialRun deployment (fun world command => command.Compensates world) initial world)
    {id : TransactionId} {dossier : Dossier} (found : world.db.dossier id = some dossier) :
    dossier.MarkedTruly ∧ ∀ who,
      (backend.run who (LedgerService.hasBeenReversed id) [] world).outcome =
        .ok dossier.marked := by
  have none : initial.db.Each Dossier.Compensated := by
    intro id dossier found
    have member := Table.mem_of_get? (Database.get?_of_dossier found).1
    rw [empty] at member
    cases member
  obtain ⟨rested, each⟩ := SerialRun.invariant (fun world => world.db.Each Dossier.Compensated)
    (fun first second passed each => by rw [passed.db]; exact each)
    (fun world who command choices _ compensates each performs =>
      performs.compensated compensates each) rest none run
  exact ⟨(each id dossier found).markedTruly, fun who => hasBeenReversed_run rested who found⟩

/-- A payment that the provider reports failed and that is then refunded. -/
def sampleFailedRefund : List (Command × List Delivery) :=
  [(.createPayment samplePayment "key", []), (.process sampleJob, []),
    (.processWebhook ⟨0, "failed"⟩ [] "secret", []), (.refundPayment 0 ⟨"failed"⟩, [])]

theorem marker_truthful_sample :
    ∃ dossier, (runAll sampleDeployment sampleFailedRefund sampleWorld).db.dossier 0 =
      some dossier ∧
      dossier.row.status = .reversed ∧ dossier.MarkedTruly := by
  have status : ((runAll sampleDeployment sampleFailedRefund sampleWorld).db.dossier 0).map
      (fun dossier => dossier.row.status) = some .reversed := by decide +kernel
  obtain ⟨dossier, found, reversed⟩ := Option.map_eq_some_iff.mp status
  exact ⟨dossier, found, reversed, (marker_truthful sampleDeployment sampleWorld_atRest rfl
    (runAll_run sampleFailedRefund (by decide +kernel)) found).1⟩

/-- A completed payment that is refunded. -/
def sampleCompletedRefund : List (Command × List Delivery) :=
  sampleCompletion ++ [(.refundPayment 0 ⟨"late"⟩, [])]

/-- A chargeback returns the sender's money and leaves the payment unmarked. -/
theorem chargeback_leaves_no_mark :
    ∃ (deployment : Deployment) (initial world : World) (dossier : Dossier), initial.AtRest ∧
      initial.db.transactions.rows = [] ∧ SerialRun deployment (fun _ _ => True) initial world ∧
      world.db.dossier dossier.row.id = some dossier ∧ dossier.row.status = .reversed ∧
      netOf dossier.postings dossier.row.senderAccountId = 0 ∧ dossier.marked = false ∧
      ¬ dossier.MarkedTruly := by
  let world := runAll sampleDeployment sampleCompletedRefund sampleWorld
  have shape : (world.db.dossier 0).map (fun dossier => (dossier.row.status,
      netOf dossier.postings dossier.row.senderAccountId, dossier.marked)) =
      some (.reversed, 0, false) := by decide +kernel
  obtain ⟨dossier, found, facts⟩ := Option.map_eq_some_iff.mp shape
  obtain ⟨reversed, rest⟩ := Prod.mk.inj facts
  obtain ⟨returned, unmarked⟩ := Prod.mk.inj rest
  refine ⟨sampleDeployment, sampleWorld, world, dossier, sampleWorld_atRest, rfl,
    runAll_run sampleCompletedRefund (by decide +kernel), ?_, reversed, returned, unmarked,
    fun truly => ?_⟩
  · rw [Database.dossier_row_id found]
    exact found
  · have marked := truly.ended (.inr reversed)
    rw [unmarked] at marked
    cases marked

end Payroute
