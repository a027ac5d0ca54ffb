import Payroute.Commits.Refinement
import Payroute.Runs.Serial

/-! # Redelivered webhooks change nothing

In serial runs an event that has been processed is not applied again, even after
the retention period, unless it completes a disputed payment.
-/

namespace Payroute

open EffectSystem KeyedTable

/-- A status a payment may have once an event of the given type was applied. -/
def Past (status : String) (current : TransactionStatus) : Prop :=
  (status = "completed" → current = .completed ∨ current = .disputed ∨ current = .reversed) ∧
    (status = "failed" → current = .failed ∨ current = .reversed)

/-- The payment with the reference has been through the event. -/
def Database.Applied (db : Database) (reference : ProviderReference) (status : String) : Prop :=
  ∃ row ∈ db.transactions.rows, row.providerReference = some reference ∧ Past status row.status

/-- The invariant of serial runs: references are distinct and every processed
event has been applied. -/
structure Database.Recorded (db : Database) : Prop where
  opened : ∀ row ∈ db.transactions.rows, row.status ≠ .initiated
  distinct : ∀ first ∈ db.transactions.rows, ∀ second ∈ db.transactions.rows, ∀ reference,
    first.providerReference = some reference → second.providerReference = some reference →
    first = second
  applied : ∀ event ∈ db.webhookEvents.rows, event.processed = true →
    db.Applied event.providerReference event.eventType

/-- One transaction is written anew. References it did not have before are taken
from those at or above the floor. -/
structure Database.Rewrites (floor : Nat) (first second : Database) (new : Transaction) : Prop where
  after : ∀ id, second.transactions.get? id =
    if id = new.id then some new else first.transactions.get? id
  opened : new.status ≠ .initiated
  reference : ∀ reference, new.providerReference = some reference →
    (∃ old, first.transactions.get? new.id = some old ∧ old.providerReference = some reference) ∨
      floor ≤ reference
  onward : ∀ old, first.transactions.get? new.id = some old →
    (∀ reference, old.providerReference = some reference → new.providerReference = some reference) ∧
      ∀ status, Past status old.status → Past status new.status

namespace Database.Rewrites

variable {floor : Nat} {first second : Database} {new : Transaction}

theorem mem_iff (rewrites : first.Rewrites floor second new) (row : Transaction) :
    row ∈ second.transactions.rows ↔ row = new ∨ row ∈ first.transactions.rows ∧
      row.id ≠ new.id := by
  have member : ∀ (db : Database), row ∈ db.transactions.rows ↔
      db.transactions.get? row.id = some row := fun db =>
    ⟨Table.get?_of_mem, Table.mem_of_get?⟩
  rw [member second, member first, rewrites.after]
  by_cases same : row.id = new.id
  · rw [if_pos same]
    constructor
    · exact fun found => .inl (Option.some.inj found).symm
    · rintro (rfl | ⟨_, differs⟩)
      · rfl
      · exact (differs same).elim
  · rw [if_neg same]
    constructor
    · exact fun found => .inr ⟨found, same⟩
    · rintro (rfl | ⟨found, _⟩)
      · exact (same rfl).elim
      · exact found

theorem applied (rewrites : first.Rewrites floor second new) {reference : ProviderReference}
    {status : String} (applied : first.Applied reference status) :
    second.Applied reference status := by
  obtain ⟨row, member, named, past⟩ := applied
  by_cases same : row.id = new.id
  · have found : first.transactions.get? new.id = some row := by
      rw [← same]
      exact Table.get?_of_mem member
    obtain ⟨references, statuses⟩ := rewrites.onward row found
    exact ⟨new, (rewrites.mem_iff new).mpr (.inl rfl), references reference named,
      statuses status past⟩
  · exact ⟨row, (rewrites.mem_iff row).mpr (.inr ⟨member, same⟩), named, past⟩

/-- The transactions stay recorded. -/
theorem recorded (rewrites : first.Rewrites floor second new)
    (below : ∀ row ∈ first.transactions.rows, ∀ reference,
      row.providerReference = some reference → reference < floor)
    (recorded : first.Recorded)
    (events : ∀ event ∈ second.webhookEvents.rows, event.processed = true →
      second.Applied event.providerReference event.eventType) : second.Recorded where
  opened := by
    intro row member
    rcases (rewrites.mem_iff row).mp member with rfl | ⟨old, _⟩
    · exact rewrites.opened
    · exact recorded.opened row old
  distinct := by
    -- A row that has the new one's reference was there before under its identifier.
    have unique : ∀ row ∈ first.transactions.rows, row.id ≠ new.id → ∀ reference,
        new.providerReference = some reference → row.providerReference ≠ some reference := by
      intro row member differs reference named same
      rcases rewrites.reference reference named with ⟨old, found, before⟩ | beyond
      · have equal := recorded.distinct row member old
          (Table.mem_of_get? found) reference same before
        rw [equal] at differs
        exact differs (Table.key_of_get? found)
      · exact absurd (below row member reference same) (Nat.not_lt.mpr beyond)
    intro left leftMember right rightMember reference leftNamed rightNamed
    rcases (rewrites.mem_iff left).mp leftMember with rfl | ⟨leftOld, leftDiffers⟩
    · rcases (rewrites.mem_iff right).mp rightMember with rfl | ⟨rightOld, rightDiffers⟩
      · rfl
      · exact (unique right rightOld rightDiffers reference leftNamed rightNamed).elim
    · rcases (rewrites.mem_iff right).mp rightMember with rfl | ⟨rightOld, rightDiffers⟩
      · exact (unique left leftOld leftDiffers reference rightNamed leftNamed).elim
      · exact recorded.distinct left leftOld right rightOld reference leftNamed rightNamed
  applied := events

end Database.Rewrites

/-- What a commit of a serial run does to the transactions. -/
def Database.Progresses (floor : Nat) (first second : Database) : Prop :=
  second.transactions = first.transactions ∨ ∃ new, first.Rewrites floor second new

theorem Database.Progresses.applied {floor : Nat} {first second : Database}
    (progresses : first.Progresses floor second) {reference : ProviderReference} {status : String}
    (applied : first.Applied reference status) : second.Applied reference status := by
  rcases progresses with same | ⟨new, rewrites⟩
  · unfold Database.Applied
    rw [same]
    exact applied
  · exact rewrites.applied applied

/-- A settlement that keeps references and follows the table. -/
theorem Settlement.rewrites {settlement : Settlement} {first : Database} {row : Transaction}
    {floor : Nat} (found : first.transactions.get? settlement.id = some row)
    (reference : (settlement.patches.foldl
      (fun row patch => patch.apply row) row).providerReference =
      row.providerReference)
    (opened : (settlement.patches.foldl (fun row patch => patch.apply row) row).status ≠ .initiated)
    (onward : ∀ status, Past status row.status →
      Past status (settlement.patches.foldl (fun row patch => patch.apply row) row).status) :
    first.Progresses floor (settlement.apply first) := by
  have named : row.id = settlement.id := Table.key_of_get? found
  have kept : ∀ patches : List TransactionPatch,
      (patches.foldl (fun row patch => patch.apply row) row).id = row.id := by
    intro patches
    generalize row = start
    induction patches generalizing start with
    | nil => rfl
    | cons patch rest ih => exact ih _
  refine .inr ⟨_, ⟨fun id => ?_, opened, fun wanted same => ?_, fun old before => ?_⟩⟩
  · rw [Settlement.get?_apply, kept, named]
    by_cases same : id = settlement.id
    · rw [if_pos same, if_pos same, same, found, Option.map_some]
    · rw [if_neg same, if_neg same]
  · rw [kept, named]
    exact .inl ⟨row, found, reference ▸ same⟩
  · rw [kept, named, found] at before
    cases before
    exact ⟨fun wanted same => reference.trans same, onward⟩

theorem past_onward {old new : TransactionStatus}
    (completed : old = .completed ∨ old = .disputed ∨ old = .reversed →
      new = .completed ∨ new = .disputed ∨ new = .reversed)
    (failed : old = .failed ∨ old = .reversed → new = .failed ∨ new = .reversed) (status : String)
    (past : Past status old) : Past status new :=
  ⟨fun named => completed (past.1 named), fun named => failed (past.2 named)⟩

section Commits

variable {world : World} {floor : Nat} {first second : Database} {id : TransactionId}

theorem Refunds.progresses {setting : Setting} (refunds : Refunds setting id first second) :
    first.Progresses floor second := by
  obtain ⟨row, _, _, _, found, _, _, rfl⟩ := refunds
  exact Settlement.rewrites found rfl (by simp [TransactionPatch.apply])
    (past_onward (fun _ => .inr (.inr rfl)) fun _ => .inr rfl)

theorem Reverses.progresses {setting : Setting} (reverses : Reverses setting id first second) :
    first.Progresses floor second := by
  obtain ⟨row, _, _, _, found, _, _, rfl⟩ := reverses
  exact Settlement.rewrites found rfl (by simp [TransactionPatch.apply])
    (past_onward (fun _ => .inr (.inr rfl)) fun _ => .inr rfl)

theorem Raises.progresses (raises : Raises (serial world) id first second) :
    first.Progresses floor second := by
  obtain ⟨row, checked, _, found, read, allowed, _, rfl⟩ := raises
  have same : checked = row := Option.some.inj ((serial_read read).1.symm.trans found)
  subst same
  refine Settlement.rewrites found rfl (by simp [TransactionPatch.apply])
    (past_onward (fun _ => .inr (.inl rfl)) fun failed => ?_)
  rw [allows_disputed allowed] at failed
  rcases failed with absurd | absurd <;> cases absurd

theorem Rejects.progresses (rejects : Rejects (serial world) id first second) :
    first.Progresses floor second := by
  obtain ⟨row, checked, _, found, read, allowed, _, rfl⟩ := rejects
  have same : checked = row := Option.some.inj ((serial_read read).1.symm.trans found)
  subst same
  refine Settlement.rewrites found rfl (by simp [TransactionPatch.apply])
    (past_onward (fun _ => .inl rfl) fun failed => ?_)
  rcases allows_completed allowed with processing | disputed
  · rw [processing] at failed
    rcases failed with absurd | absurd <;> cases absurd
  · rw [disputed] at failed
    rcases failed with absurd | absurd <;> cases absurd

theorem Exhausts.progresses {setting : Setting} (exhausts : Exhausts setting id first second) :
    first.Progresses floor second := by
  obtain ⟨row, _, _, _, found, processing, _, rfl⟩ := exhausts
  refine Settlement.rewrites found rfl (by simp [TransactionPatch.apply])
    (past_onward (fun completed => ?_) fun _ => .inl rfl)
  rw [processing] at completed
  rcases completed with absurd | absurd | absurd <;> cases absurd

theorem Assigns.progresses (assigns : Assigns (serial world) id first second)
    (opened : ∀ row ∈ first.transactions.rows, row.status ≠ .initiated) :
    first.Progresses (world.next .reference) second := by
  obtain ⟨row, reference, read, eligible, floor, rfl⟩ := assigns
  have found := (serial_read read).1
  have named : row.id = id := Table.key_of_get? found
  refine .inr ⟨{ row with providerReference := some reference }, ⟨fun other => ?_,
    opened row (Table.mem_of_get? found), fun wanted same => ?_, fun old before => ?_⟩⟩
  · rw [Settlement.get?_apply]
    change _ = if other = row.id then _ else _
    rw [named]
    by_cases same : other = id
    · rw [if_pos same, if_pos same, same, found, Option.map_some, ← named]
      rfl
    · rw [if_neg same, if_neg same]
  · cases same
    exact .inr floor
  · change first.transactions.get? row.id = some old at before
    rw [named, found] at before
    cases before
    refine ⟨fun wanted same => ?_, fun status past => past⟩
    rw [eligible.2] at same
    cases same

theorem Creates.progresses {setting : Setting} {dto : CreatePaymentDto} {row : Transaction}
    (creates : Creates setting dto row first second) : first.Progresses floor second := by
  obtain ⟨quote, entry, opened, reserved, _, absent, _, _, _, _, _, _, _, _, _, unreferenced, _, _,
    rfl⟩ := creates
  refine .inr ⟨{ row with status := .processing }, ⟨get?_opening first quote row entry opened
    reserved, by simp, fun wanted same => ?_, fun old before => ?_⟩⟩
  · change row.providerReference = some wanted at same
    rw [unreferenced] at same
    cases same
  · change first.transactions.get? row.id = some old at before
    rw [absent] at before
    cases before

theorem Delivers.progresses {setting : Setting} {deployment : Deployment}
    {payload : WebhookPayloadDto} {rawBody : List UInt8} {signature : String}
    (delivers : Delivers setting deployment payload rawBody signature first second)
    (opened : ∀ row ∈ first.transactions.rows, row.status ≠ .initiated) :
    first.Progresses floor second := by
  obtain ⟨_, row, entries, patches, events, _, _, _, _, found, allowed, settles, rfl⟩ := delivers
  unfold DeliverySettles at settles
  by_cases completed : payload.status = "completed"
  · rw [if_pos completed] at settles
    obtain ⟨_, _, _, _, rfl⟩ := settles
    refine Settlement.rewrites found rfl (by simp [TransactionPatch.apply])
      (past_onward (fun _ => .inl rfl) fun failed => ?_)
    rcases allows_completed (completed ▸ allowed) with processing | disputed
    · rw [processing] at failed
      rcases failed with absurd | absurd <;> cases absurd
    · rw [disputed] at failed
      rcases failed with absurd | absurd <;> cases absurd
  · rw [if_neg completed] at settles
    by_cases failed : payload.status = "failed"
    · rw [if_pos failed] at settles
      obtain ⟨_, rfl⟩ := settles
      refine Settlement.rewrites found rfl (by simp [TransactionPatch.apply])
        (past_onward (fun credited => ?_) fun _ => .inl rfl)
      rcases allows_failed (failed ▸ allowed) with initiated | processing
      · rw [initiated] at credited
        rcases credited with absurd | absurd | absurd <;> cases absurd
      · rw [processing] at credited
        rcases credited with absurd | absurd | absurd <;> cases absurd
    · rw [if_neg failed] at settles
      obtain ⟨_, rfl⟩ := settles
      exact Settlement.rewrites found rfl (opened row (Table.mem_of_get? found)) fun _ past => past

/-- A delivery that runs alone patches the event it inserted. -/
theorem serial_events {payload : WebhookPayloadDto} {patch : WebhookEventPatch}
    {events : List WebhookEvent}
    (marks : (serial world).Marks payload patch first events) :
    ∃ event : WebhookEvent, event.providerReference = payload.reference ∧
      event.eventType = payload.status ∧ event.processed = false ∧
      events = [patch.apply event] := by
  obtain ⟨event, seen, ⟨origin, rfl, absent, reference, status, unprocessed, unused, same⟩, drift,
    rfl⟩ := marks
  cases same
  cases drift
  refine ⟨event, reference, status, unprocessed, ?_⟩
  have fresh : world.db.webhookEvents.get? (key event) = none := by
    change world.db.webhookEvents.get? (event.providerReference, event.eventType) = none
    rw [reference, status]
    exact absent
  have unseen : world.db.webhookEvents.rows.find? (fun old => decide (old.id = event.id)) =
    none := by
    apply List.find?_eq_none.mpr
    intro old member
    simpa using unused old member
  have found : (world.db.write (.event event)).eventById event.id = some event := by
    change List.find? _ (world.db.webhookEvents.put event).rows = _
    rw [Table.rows_put_of_fresh _ fresh, List.find?_append, unseen, Option.none_or]
    exact List.find?_cons_of_pos (by exact decide_eq_true rfl)
  rw [found]
  rfl

/-- The references of a program's start are below the floor. -/
theorem serial_below (rest : world.AtRest) (same : world.db.SameBooks first) :
    ∀ row ∈ first.transactions.rows, ∀ reference, row.providerReference = some reference →
      reference < world.next .reference := by
  rw [same.transactions]
  exact rest.below.references

/-- A commit that leaves the events alone. -/
theorem Database.Progresses.recorded (progresses : first.Progresses floor second)
    (below : ∀ row ∈ first.transactions.rows, ∀ reference,
      row.providerReference = some reference → reference < floor)
    (recorded : first.Recorded)
    (events : ∀ event ∈ second.webhookEvents.rows, event.processed = true →
      event ∈ first.webhookEvents.rows ∨ second.Applied event.providerReference event.eventType) :
    second.Recorded := by
  have applied : ∀ event ∈ second.webhookEvents.rows, event.processed = true →
      second.Applied event.providerReference event.eventType := by
    intro event member processed
    rcases events event member processed with old | done
    · exact progresses.applied (recorded.applied event old processed)
    · exact done
  rcases progresses with same | ⟨new, rewrites⟩
  · refine ⟨?_, ?_, applied⟩
    · rw [same]
      exact recorded.opened
    · rw [same]
      exact recorded.distinct
  · exact rewrites.recorded below recorded applied

/-- The event rows after a commit that patched one of them. -/
theorem mem_events {event row : WebhookEvent} {db : Database}
    (member : row ∈ ([event].foldl Table.put db.webhookEvents).rows) :
    row = event ∨ row ∈ db.webhookEvents.rows := by
  rcases (Table.mem_put_iff _ _ _).mp member with same | ⟨old, _⟩
  · exact .inl same
  · exact .inr old

theorem Misses.recorded {payload : WebhookPayloadDto} (rest : world.AtRest)
    (misses : Misses (serial world) payload first second) (recorded : first.Recorded) :
    second.Recorded := by
  obtain ⟨events, error, marks, _, rfl⟩ := misses
  obtain ⟨event, _, _, unprocessed, rfl⟩ := serial_events marks
  have progresses : first.Progresses (world.next .reference)
    (Changes.apply { events := [WebhookEventPatch.apply { error := some error } event] } first) :=
    .inl rfl
  refine progresses.recorded (serial_below rest (serial_marks marks).2) recorded
    fun row member processed => ?_
  rcases mem_events member with rfl | old
  · change event.processed = true at processed
    rw [unprocessed] at processed
    cases processed
  · exact .inl old

/-- What a delivery leaves of its payment. -/
theorem DeliverySettles.past {row : Transaction} {status : String} {entries : List LedgerEntry}
    {patches : List TransactionPatch} (settles : DeliverySettles first row status entries patches) :
    let new := patches.foldl (fun row patch => patch.apply row) row
    new.providerReference = row.providerReference ∧ Past status new.status := by
  intro new
  unfold DeliverySettles at settles
  by_cases completed : status = "completed"
  · rw [if_pos completed] at settles
    obtain ⟨_, _, _, _, rfl⟩ := settles
    subst completed
    exact ⟨rfl, fun _ => .inl rfl, fun absurd => by simp at absurd⟩
  · rw [if_neg completed] at settles
    by_cases failed : status = "failed"
    · rw [if_pos failed] at settles
      obtain ⟨_, rfl⟩ := settles
      exact ⟨rfl, fun absurd => (completed absurd).elim, fun _ => .inl rfl⟩
    · rw [if_neg failed] at settles
      obtain ⟨_, rfl⟩ := settles
      exact ⟨rfl, fun absurd => (completed absurd).elim, fun absurd => (failed absurd).elim⟩

theorem Delivers.recorded {deployment : Deployment} {payload : WebhookPayloadDto}
    {rawBody : List UInt8} {signature : String} (rest : world.AtRest)
    (delivers : Delivers (serial world) deployment payload rawBody signature first second)
    (recorded : first.Recorded) : second.Recorded := by
  have progresses : first.Progresses (world.next .reference) _ :=
    delivers.progresses recorded.opened
  obtain ⟨_, row, entries, patches, events, processedAt, timestamp, marks, looks, found, allowed,
    settles, rfl⟩ := delivers
  obtain ⟨event, reference, status, unprocessed, rfl⟩ := serial_events marks
  refine progresses.recorded (serial_below rest (serial_marks marks).2) recorded
    fun other member processed => ?_
  rcases mem_events member with rfl | old
  · refine .inr ?_
    change Database.Applied _ event.providerReference event.eventType
    rw [reference, status]
    have looked := serial_looksUp (serial_marks marks).2 looks
    have named : row.providerReference = some payload.reference :=
      of_decide_eq_true (List.find?_some looked :)
    obtain ⟨kept, past⟩ := settles.past
    have after := Settlement.get?_apply
      { id := row.id
        entries := entries
        patches := patches
        history := [{ transactionId := row.id, fromState := some row.status.text
                      toState := payload.status, timestamp := timestamp }]
        events := [WebhookEventPatch.apply { processedAt := some processedAt } event] } first row.id
    rw [if_pos rfl, found, Option.map_some] at after
    exact ⟨_, Table.mem_of_get? after, kept.trans named, past⟩
  · exact .inl old

/-- The commits of serial runs keep the tables recorded. -/
theorem Command.Commits.recorded {deployment : Deployment} {command : Command}
    (rest : world.AtRest)
    (commits : command.Commits (serial world) deployment first second) (recorded : first.Recorded) :
    second.Recorded ∧ first.Progresses (world.next .reference) second := by
  have kept : (serial world).Since first → second.webhookEvents = first.webhookEvents →
      first.Progresses (world.next .reference) second →
      second.Recorded ∧ first.Progresses (world.next .reference) second := by
    intro since same progresses
    refine ⟨progresses.recorded (serial_below rest (serial_since since)) recorded
      fun event member _ => .inl ?_, progresses⟩
    rw [← same]
    exact member
  cases command with
  | createPayment dto idempotencyKey =>
      obtain ⟨row, creates, _⟩ := commits
      have progresses : first.Progresses (world.next .reference) _ := creates.progresses
      obtain ⟨_, _, _, _, since, _, _, _, _, _, _, _, _, _, _, _, _, _, rfl⟩ := creates
      exact kept since rfl progresses
  | process data =>
      have assigns : Assigns (serial world) data.transactionId first second := commits
      have progresses := assigns.progresses recorded.opened
      obtain ⟨_, _, read, _, _, rfl⟩ := assigns
      exact kept read.since rfl progresses
  | processWebhook payload rawBody signature =>
      rcases commits with misses | delivers
      · refine ⟨misses.recorded rest recorded, ?_⟩
        exact .inl misses.books.transactions
      · exact ⟨delivers.recorded rest recorded, delivers.progresses recorded.opened⟩
  | onProviderJobExhausted jobId failedReason =>
      obtain ⟨id, exhausts⟩ := commits
      have progresses : first.Progresses (world.next .reference) _ := exhausts.progresses
      obtain ⟨_, _, _, since, _, _, _, rfl⟩ := exhausts
      exact kept since rfl progresses
  | refundPayment id dto =>
      have refunds : Refunds (serial world) id first second := commits
      have progresses : first.Progresses (world.next .reference) _ := refunds.progresses
      obtain ⟨_, _, _, since, _, _, _, rfl⟩ := refunds
      exact kept since rfl progresses
  | raiseDispute id dto =>
      have raises : Raises (serial world) id first second := commits
      have progresses : first.Progresses (world.next .reference) _ := raises.progresses
      obtain ⟨_, _, _, _, read, _, _, rfl⟩ := raises
      exact kept read.since rfl progresses
  | resolveDispute id dto =>
      obtain ⟨action⟩ := dto
      cases action with
      | reverse =>
          have reverses : Reverses (serial world) id first second := commits
          have progresses : first.Progresses (world.next .reference) _ := reverses.progresses
          obtain ⟨_, _, _, since, _, _, _, rfl⟩ := reverses
          exact kept since rfl progresses
      | reject =>
          have rejects : Rejects (serial world) id first second := commits
          have progresses : first.Progresses (world.next .reference) _ := rejects.progresses
          obtain ⟨_, _, _, _, read, _, _, rfl⟩ := rejects
          exact kept read.since rfl progresses
  | retryStuckPayments => exact commits.elim
  | cleanupExpiredIdempotencyKeys => exact commits.elim
  | cleanupOldProcessedWebhookEvents => exact commits.elim

end Commits

/-! ## Redelivery -/

/-- The delivery completes a disputed payment whose event row is gone. -/
def Reopens (db : Database) (payload : WebhookPayloadDto) : Prop :=
  payload.status = "completed" ∧
    db.webhookEvents.get? (payload.reference, payload.status) = none ∧
    (db.byReference payload.reference).map Transaction.status = some .disputed

instance (db : Database) (payload : WebhookPayloadDto) : Decidable (Reopens db payload) :=
  inferInstanceAs (Decidable (_ ∧ _))

/-- An applied event is refused wherever it does not reopen its payment. -/
theorem Delivers.impossible {world : World} {deployment : Deployment} {payload : WebhookPayloadDto}
    {rawBody : List UInt8} {signature : String} {first second : Database}
    (delivers : Delivers (serial world) deployment payload rawBody signature first second)
    (recorded : world.db.Recorded) (applied : world.db.Applied payload.reference payload.status)
    (admitted : payload.Admitted) (refused : ¬ Reopens world.db payload) : False := by
  obtain ⟨_, row, _, _, _, _, _, marks, looks, _, allowed, _, _⟩ := delivers
  obtain ⟨absent, same⟩ := serial_marks marks
  have looked := serial_looksUp same looks
  have member : row ∈ world.db.transactions.rows := List.mem_of_find?_eq_some looked
  have named : row.providerReference = some payload.reference :=
    of_decide_eq_true (List.find?_some looked :)
  obtain ⟨other, there, reference, completed, failed⟩ := applied
  have equal := recorded.distinct other there row member _ reference named
  subst equal
  rcases List.mem_cons.mp admitted with status | rest
  · rcases allows_completed (status ▸ allowed) with processing | disputed
    · rw [processing] at completed
      rcases completed status with absurd | absurd | absurd <;> cases absurd
    · refine refused ⟨status, absent, ?_⟩
      rw [looked, Option.map_some, disputed]
  · rcases List.mem_cons.mp rest with status | last
    · rcases allows_failed (status ▸ allowed) with initiated | processing
      · exact recorded.opened other there initiated
      · rw [processing] at failed
        rcases failed status with absurd | absurd <;> cases absurd
    · have status := List.mem_singleton.mp last
      exact recorded.opened other there (allows_processing (status ▸ allowed))

section Runs

variable {deployment : Deployment} {admits : World → Command → Prop} {initial last : World}

/-- Serial runs keep the tables recorded, and events that were applied. -/
theorem SerialRun.recorded (run : SerialRun deployment admits initial last) (rest : initial.AtRest)
    (recorded : initial.db.Recorded) :
    last.AtRest ∧ last.db.Recorded ∧ ∀ reference status,
      initial.db.Applied reference status → last.db.Applied reference status := by
  refine SerialRun.keeps
    (fun db => db.Recorded ∧ ∀ reference status,
      initial.db.Applied reference status → db.Applied reference status)
    ?_ ?_ rest ⟨recorded, fun _ _ applied => applied⟩ run
  · rintro first second beside ⟨recorded, applied⟩
    have same := beside.books.transactions
    refine ⟨⟨?_, ?_, fun event member processed => ?_⟩, fun reference status held => ?_⟩
    · rw [same]
      exact recorded.opened
    · rw [same]
      exact recorded.distinct
    · obtain ⟨old, before, named, done⟩ := beside.events event member processed
      obtain ⟨reference, status⟩ := Prod.mk.inj named
      unfold Database.Applied
      rw [same, ← reference, ← status]
      exact recorded.applied old before done
    · unfold Database.Applied
      rw [same]
      exact applied reference status held
  · rintro world command first second rest _ commits ⟨recorded, applied⟩
    obtain ⟨still, progresses⟩ := commits.recorded rest recorded
    exact ⟨still, fun reference status held => progresses.applied (applied reference status held)⟩

end Runs

/-- Delivering a processed event again, at any later point of a serial run, leaves
the books alone unless it reopens a disputed payment. -/
theorem redelivery_unchanged (deployment : Deployment) {initial processed world : World}
    (rest : initial.AtRest)
    (empty : initial.db.transactions.rows = [])
    (unprocessed : ∀ event ∈ initial.db.webhookEvents.rows, event.processed = false)
    (earlier : SerialRun deployment (fun _ _ => True) initial processed)
    (payload : WebhookPayloadDto) (admitted : payload.Admitted)
    (done : (processed.db.webhookEvents.get? (payload.reference, payload.status)).map
      WebhookEvent.processed = some true)
    (later : SerialRun deployment (fun _ _ => True) processed world)
    (refused : ¬ Reopens world.db payload) (who : ProcessId) (rawBody : List UInt8)
    (signature : String) (choices : List Delivery) :
    world.db.SameBooks (backend.run who
      (WebhooksService.processWebhook deployment payload rawBody signature) choices
        world).state.db := by
  have blank : initial.db.Recorded := by
    refine ⟨?_, ?_, ?_⟩
    · rw [empty]
      exact fun _ member => (List.not_mem_nil member).elim
    · rw [empty]
      exact fun _ member => (List.not_mem_nil member).elim
    · intro event member processed
      rw [unprocessed event member] at processed
      cases processed
  obtain ⟨restMiddle, recordedMiddle, _⟩ := earlier.recorded rest blank
  obtain ⟨restLast, recorded, applied⟩ := later.recorded restMiddle recordedMiddle
  obtain ⟨event, found, marked⟩ := Option.map_eq_some_iff.mp done
  have reference : event.providerReference = payload.reference :=
    congrArg Prod.fst (Table.key_of_get? found)
  have status : event.eventType = payload.status := congrArg Prod.snd (Table.key_of_get? found)
  have before := recordedMiddle.applied event (Table.mem_of_get? found) marked
  rw [reference, status] at before
  have held := applied _ _ before
  obtain ⟨_, _, path⟩ := Command.run_alone deployment restLast who
    (.processWebhook payload rawBody signature) choices
  change Relation.ReflTransGen _ world.db (backend.run who
    (WebhooksService.processWebhook deployment payload rawBody signature) choices world).state.db
    at path
  generalize (backend.run who (WebhooksService.processWebhook deployment payload rawBody signature)
    choices world).state.db = final at path
  induction path with
  | refl => exact .refl _
  | tail _ change ih =>
      rcases change with beside | misses | delivers
      · exact ih.trans beside.books
      · exact ih.trans misses.books
      · exact (delivers.impossible recorded held admitted refused).elim

/-- The cleanup after the retention period. -/
def World.purged (world : World) : World :=
  runAll sampleDeployment [(.cleanupOldProcessedWebhookEvents, [])]
    { world with clock := 31 * RetentionScheduler.day }

theorem World.purged_run {world : World} (early : world.clock ≤ 31 * RetentionScheduler.day) :
    SerialRun sampleDeployment (fun _ _ => True) world world.purged :=
  .head (.elapse (.pass world early)) (runAll_run _ (by trivial))

/-- The event of the completed payment is purged and delivered again. -/
theorem redelivery_unchanged_sample :
    (completedWorld.db.webhookEvents.get? (0, "completed") ≠ none ∧
      completedWorld.purged.db.webhookEvents.get? (0, "completed") = none) ∧
    completedWorld.purged.db.SameBooks (backend.run 0
      (WebhooksService.processWebhook sampleDeployment ⟨0, "completed"⟩ [] "secret") []
      completedWorld.purged).state.db :=
  ⟨by decide +kernel, redelivery_unchanged sampleDeployment sampleWorld_atRest rfl
    (fun _ member => (List.not_mem_nil member).elim) (runAll_run _ (by decide +kernel))
    ⟨0, "completed"⟩ (by simp [WebhookPayloadDto.Admitted]) (by decide +kernel)
    (World.purged_run (by decide +kernel)) (by decide +kernel) 0 [] "secret" []⟩

/-- The completed payment is disputed. -/
def sampleDispute : World :=
  runAll sampleDeployment (sampleCompletion ++ [(.raiseDispute 0 ⟨"fraud"⟩, [])]) sampleWorld

theorem sampleDispute_run :
    SerialRun sampleDeployment (fun _ _ => True) sampleWorld sampleDispute :=
  runAll_run _ (by decide +kernel)

/-- After the cleanup a redelivery credits the recipient of a disputed payment again. -/
theorem redelivery_credits_again :
    ¬ ∀ (deployment : Deployment) (initial processed world : World), initial.AtRest →
      initial.db.transactions.rows = [] →
      (∀ event ∈ initial.db.webhookEvents.rows, event.processed = false) →
      SerialRun deployment (fun _ _ => True) initial processed →
      ∀ payload : WebhookPayloadDto, payload.Admitted →
      (processed.db.webhookEvents.get? (payload.reference, payload.status)).map
        WebhookEvent.processed = some true →
      SerialRun deployment (fun _ _ => True) processed world →
      ∀ (who : ProcessId) (rawBody : List UInt8) (signature : String) (choices : List Delivery),
      WebhooksService.verifySignature deployment rawBody signature = true →
      world.db.SameBooks (backend.run who
        (WebhooksService.processWebhook deployment payload rawBody signature) choices
        world).state.db := by
  intro claimed
  have same := claimed sampleDeployment sampleWorld sampleDispute sampleDispute.purged
    sampleWorld_atRest rfl (fun _ member => (List.not_mem_nil member).elim) sampleDispute_run
    ⟨0, "completed"⟩ (by simp [WebhookPayloadDto.Admitted])
      (by decide +kernel) (World.purged_run (by decide +kernel)) 0 [] "secret" []
    (by decide +kernel)
  have balance := congrArg (fun accounts : Table Account => (accounts.get? 1).map Account.balance)
    same.accounts
  exact absurd balance (by decide +kernel)

end Payroute
