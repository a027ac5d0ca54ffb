import Payroute.Books.Balances
import Payroute.Commits.Refinement
import Payroute.Runs.Processes

/-! # Records only grow

Whatever the processes of a deployment do, ledger entries and history rows are only ever
appended, and a change of a payment's status is recorded together with it.
-/

namespace Payroute

open EffectSystem KeyedTable

/-- Rows are appended to the ledger and to the history. -/
structure Database.Grows (first second : Database) : Prop where
  entries : first.ledgerEntries <+: second.ledgerEntries
  history : first.stateHistory <+: second.stateHistory

namespace Database.Grows

variable {first second third : Database}

/-- Records grow by nothing. -/
theorem refl (db : Database) : db.Grows db := ⟨List.prefix_rfl, List.prefix_rfl⟩

/-- Growth composes. -/
theorem trans (left : first.Grows second) (right : second.Grows third) : first.Grows third :=
  ⟨left.entries.trans right.entries, left.history.trans right.history⟩

/-- The same books have the same records. -/
theorem of_same (same : first.SameBooks second) : first.Grows second :=
  ⟨same.ledgerEntries ▸ List.prefix_rfl, same.stateHistory ▸ List.prefix_rfl⟩

/-- The changes of a transaction add to the records. -/
theorem of_changes (changes : Changes) : first.Grows (changes.apply first) :=
  ⟨List.prefix_append _ _, List.prefix_append _ _⟩

/-- So the entries of each payment grow. -/
theorem entriesOf (grows : first.Grows second) (id : TransactionId) :
    first.entriesOf id <+: second.entriesOf id := grows.entries.filter _

/-- So does the history of each payment. -/
theorem historyOf (grows : first.Grows second) (id : TransactionId) :
    first.historyOf id <+: second.historyOf id := grows.history.filter _

end Database.Grows

/-! ## Payments with their records -/

/-- The records of the payment tell of the reservation of its funds and of how it came to
its status. -/
structure Dossier.Told (dossier : Dossier) : Prop where
  reserved : ∃ entry ∈ dossier.entries, entry.posting = dossier.row.reserve
  status : dossier.row.status.text ∈ dossier.history.map TransactionStateHistory.toState

/-- The settlement records each status it sets. -/
def Settlement.Records (settlement : Settlement) : Prop :=
  ∀ patch ∈ settlement.patches, ∀ status, patch.status = some status →
    status.text ∈ settlement.history.map TransactionStateHistory.toState

/-- Patches set the status to the old one or to one of theirs. -/
theorem status_of_patches (patches : List TransactionPatch) (row : Transaction) :
    let last := patches.foldl (fun row patch => patch.apply row) row
    last.status = row.status ∨ ∃ patch ∈ patches, patch.status = some last.status := by
  intro last
  induction patches using List.reverseRecOn with
  | nil => exact .inl rfl
  | append_singleton earlier patch ih =>
      have applied : last = patch.apply (earlier.foldl (fun row patch => patch.apply row) row) :=
        List.foldl_append ..
      cases given : patch.status with
      | none =>
          have kept : last.status =
              (earlier.foldl (fun row patch => patch.apply row) row).status := by
            rw [applied]
            change patch.status.getD _ = _
            rw [given, Option.getD_none]
          rw [kept]
          refine ih.imp_right fun known => ?_
          obtain ⟨other, member, same⟩ := known
          exact ⟨other, List.mem_append_left _ member, same⟩
      | some status =>
          refine .inr ⟨patch, List.mem_append_right _ List.mem_cons_self, ?_⟩
          rw [applied]
          change _ = some (patch.status.getD _)
          rw [given, Option.getD_some]

/-- Updates do not change what a payment reserves. -/
theorem reserve_of_patches (patches : List TransactionPatch) (row : Transaction) :
    (patches.foldl (fun row patch => patch.apply row) row).reserve = row.reserve := by
  induction patches generalizing row with
  | nil => rfl
  | cons patch rest ih => exact (ih (patch.apply row)).trans rfl

/-- A settlement that records its transition keeps every payment's story told. -/
theorem Settlement.Records.told {settlement : Settlement} {db : Database}
    (records : settlement.Records) (own : settlement.Own) (each : db.Each Dossier.Told) :
    (settlement.apply db).Each Dossier.Told := by
  refine Settlement.each own each fun old found => ?_
  obtain ⟨⟨entry, member, reserves⟩, status⟩ := each _ old found
  refine ⟨⟨entry, List.mem_append_left _ member, ?_⟩, ?_⟩
  · exact reserves.trans (reserve_of_patches settlement.patches old.row).symm
  · change _ ∈ List.map _ (old.history ++ settlement.history)
    rw [List.map_append, List.mem_append]
    rcases status_of_patches settlement.patches old.row with same | ⟨patch, patches, sets⟩
    · left
      change (settlement.patches.foldl (fun row patch => patch.apply row) old.row).status.text ∈ _
      rw [same]
      exact status
    · exact .inr (records patch patches _ sets)

/-- A settlement that sets one status and records it. -/
theorem Settlement.records_of_pair {id : TransactionId} {entries : List LedgerEntry}
    {patch : TransactionPatch} {fromState : Option String} {toState : String} {timestamp : Nat}
    {events : List WebhookEvent} (sets : patch.status.map TransactionStatus.text = some toState) :
    Settlement.Records
      { id := id, entries := entries, patches := [patch]
        history := [{ transactionId := id, fromState := fromState, toState := toState
                      timestamp := timestamp }]
        events := events } := by
  intro other member status given
  rw [List.mem_singleton.mp member] at given
  rw [given, Option.map_some] at sets
  rw [Option.some.inj sets]
  exact List.mem_cons_self

section Commits

variable {setting : Setting} {deployment : Deployment} {first second : Database}

/-- So does the creation of a payment. -/
theorem Creates.told {dto : CreatePaymentDto} {row : Transaction}
    (creates : Creates setting dto row first second) (each : first.Each Dossier.Told) :
    second.Each Dossier.Told := by
  obtain ⟨entry, opened, reserved, after, others, posting⟩ := creates.opens
  refine each.of_changed after others ⟨⟨entry, List.mem_cons_self, posting⟩, ?_⟩
  exact List.mem_cons_of_mem _ List.mem_cons_self

/-- So does the assignment of a reference. -/
theorem Assigns.told {id : TransactionId} (assigns : Assigns setting id first second)
    (each : first.Each Dossier.Told) : second.Each Dossier.Told := by
  obtain ⟨_, reference, _, _, _, rfl⟩ := assigns
  refine Settlement.Records.told ?_ Settlement.own_patches each
  intro patch member status given
  rw [List.mem_singleton.mp member] at given
  cases given

/-- So does a delivery. -/
theorem Delivers.told {payload : WebhookPayloadDto} {rawBody : List UInt8} {signature : String}
    (delivers : Delivers setting deployment payload rawBody signature first second)
    (each : first.Each Dossier.Told) : second.Each Dossier.Told := by
  obtain ⟨_, row, entries, patches, events, _, timestamp, _, _, _, _, settles, rfl⟩ := delivers
  unfold DeliverySettles at settles
  by_cases completed : payload.status = "completed"
  · rw [if_pos completed] at settles
    obtain ⟨currency, completedAt, _, terms, rfl⟩ := settles
    refine Settlement.Records.told (Settlement.records_of_pair ?_)
      ⟨credit_own terms, history_own⟩ each
    rw [completed]
    rfl
  · rw [if_neg completed] at settles
    by_cases failed : payload.status = "failed"
    · rw [if_pos failed] at settles
      obtain ⟨terms, rfl⟩ := settles
      refine Settlement.Records.told (Settlement.records_of_pair ?_)
        ⟨reversals_own terms, history_own⟩ each
      rw [failed]
      rfl
    · rw [if_neg failed] at settles
      obtain ⟨rfl, rfl⟩ := settles
      refine Settlement.Records.told ?_ ⟨no_entries, history_own⟩ each
      intro patch absurd
      cases absurd

/-- Every commit tells what it does. -/
theorem Command.Commits.told {command : Command}
    (commits : command.Commits setting deployment first second)
    (each : first.Each Dossier.Told) : second.Each Dossier.Told := by
  cases command with
  | createPayment dto idempotencyKey =>
      obtain ⟨row, creates, _⟩ := commits
      exact creates.told each
  | process data => exact Assigns.told commits each
  | processWebhook payload rawBody signature =>
      rcases commits with misses | delivers
      · exact each.sameBooks misses.books
      · exact delivers.told each
  | onProviderJobExhausted jobId failedReason =>
      obtain ⟨id, row, entries, timestamp, _, found, _, returns, rfl⟩ := commits
      exact Settlement.Records.told (Settlement.records_of_pair rfl) ⟨returns.own, history_own⟩ each
  | refundPayment id dto =>
      obtain ⟨row, entries, timestamp, _, found, _, posts, rfl⟩ := commits
      have named : row.id = id := Table.key_of_get? found
      subst named
      have own : ∀ entry ∈ entries, entry.transactionId = row.id := by
        by_cases completed : row.status = .completed
        · rw [if_pos completed] at posts
          exact posts.own
        · rw [if_neg completed] at posts
          exact posts.own
      exact Settlement.Records.told (Settlement.records_of_pair rfl) ⟨own, history_own⟩ each
  | raiseDispute id dto =>
      obtain ⟨_, _, timestamp, _, _, _, _, rfl⟩ := commits
      exact Settlement.Records.told (Settlement.records_of_pair rfl) ⟨no_entries, history_own⟩ each
  | resolveDispute id dto =>
      obtain ⟨action⟩ := dto
      cases action with
      | reverse =>
          obtain ⟨row, entries, timestamp, _, found, _, charges, rfl⟩ := commits
          have named : row.id = id := Table.key_of_get? found
          subst named
          exact Settlement.Records.told (Settlement.records_of_pair rfl)
            ⟨charges.own, history_own⟩ each
      | reject =>
          obtain ⟨_, _, timestamp, _, _, _, _, rfl⟩ := commits
          exact Settlement.Records.told (Settlement.records_of_pair rfl) ⟨no_entries, history_own⟩
            each
  | retryStuckPayments => exact commits.elim
  | cleanupExpiredIdempotencyKeys => exact commits.elim
  | cleanupOldProcessedWebhookEvents => exact commits.elim

end Commits

/-! ## Runs -/

section Runs

variable {deployment : Deployment} {before after : Pool ProcessId Failure Operation.Reply World}

/-- A step of a pool of processes leaves the books alone or commits an operation. -/
theorem Activity.step_commits
    (valid : concurrent.Valid (Activity.Commits deployment) (fun _ _ _ => True) before)
    (step : Pool.Step backend (surroundings fun _ => Activity deployment) before after) :
    before.shared.db.Beside after.shared.db ∨
      Activity.Commits deployment before.shared.db after.shared.db := by
  cases step with
  | call who choice op next current ready =>
      obtain ⟨_, granted, _⟩ := valid.running who _ current before.shared
        ((concurrent.regular _).refl who _) valid.inv choice ⟨ready, concurrent_unguarded _ _ _⟩
      exact granted.step
  | drift next moved =>
      have elapses : before.shared.Elapses next := moved
      change _ ∨ Activity.Commits deployment before.shared.db next.db
      rw [elapses.db]
      exact .inl (.refl _)
  | _ => exact .inl (.refl _)

/-- Whatever happens, records stay and payments are told of. -/
theorem Activity.steps_grow
    (valid : concurrent.Valid (Activity.Commits deployment) (fun _ _ _ => True) before)
    (steps : Pool.Steps backend (surroundings fun _ => Activity deployment) before after) :
    concurrent.Valid (Activity.Commits deployment) (fun _ _ _ => True) after ∧
      before.shared.db.Grows after.shared.db ∧
      (before.shared.db.Each Dossier.Told → after.shared.db.Each Dossier.Told) := by
  induction steps with
  | refl => exact ⟨valid, .refl _, id⟩
  | tail _ step ih =>
      obtain ⟨middle, grows, told⟩ := ih
      refine ⟨Activity.valid_step middle step, ?_, fun each => ?_⟩
      · rcases Activity.step_commits middle step with beside | ⟨command, _, commits⟩
        · exact grows.trans (.of_same beside.books)
        · obtain ⟨changes, _, same⟩ := commits.posts
          rw [same]
          exact grows.trans (.of_changes changes)
      · rcases Activity.step_commits middle step with beside | ⟨command, _, commits⟩
        · exact (told each).sameBooks beside.books
        · exact commits.told (told each)

end Runs

end Payroute
