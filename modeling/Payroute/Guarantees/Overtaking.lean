import Payroute.Commits.Refinement
import Payroute.Runs.Serial

/-! # Callbacks that overtake their submission

The provider's callback is scheduled before the reference of a payment is
stored. Deliveries that come late enough complete the payment; one that looks
its reference up too early takes the place of all later ones.
-/

namespace Payroute

open EffectSystem KeyedTable

/-- A delivery looks its reference up once it is stored, and meets the row of its
event once the event is processed. -/
def InTime (view : Database) : Operation → Prop
  | .sql (.lockTransactionByReference reference) => (view.byReference reference).isSome = true
  | .sql (.insertEvent draft) =>
      ∀ event ∈ view.webhookEvents.get? (draft.providerReference, draft.eventType),
        event.processed = true
  | _ => True

instance (view : Database) : (op : Operation) → Decidable (InTime view op)
  | .sql (.lockTransactionByReference _) => inferInstanceAs (Decidable (_ = true))
  | .sql (.insertEvent draft) => inferInstanceAs (Decidable
      (∀ event ∈ view.webhookEvents.get? (draft.providerReference, draft.eventType),
        event.processed = true))
  | .sql (.select _) | .sql (.lockAccount _) | .sql (.lockTransaction _ _)
  | .sql (.updateBalance _ _ _) | .sql (.updateTransaction _ _) | .sql (.updateEvent _ _)
  | .sql (.insertEntry _) | .sql (.insertTransaction _) | .sql (.insertQuote _)
  | .sql (.insertHistory _ _ _) | .sql (.purgeEvents _) | .sql (.insertKey _ _)
  | .sql (.updateKey _ _ _) | .sql (.purgeKeys _) => .isTrue trivial
  | .begin _ | .commit | .rollback | .acquireLock _ _ | .releaseLock _ _ | .cacheGet _
  | .cacheSet _ _ _ | .cacheDelete _ | .cacheDeleteLists | .queueAdd _ _ _ | .queueGet _
  | .queueRemove _ | .scheduleCallback _ _ | .emit _ | .now | .sleep _ | .observe _ =>
      .isTrue trivial

/-- The report that the payment with the reference is completed. -/
def completion (reference : ProviderReference) : WebhookPayloadDto where
  reference := reference
  status := "completed"

/-- Process 0 submits a payment, the others deliver the report of its completion. -/
def Submits (deployment : Deployment) (data : ProviderJobData) (reference : ProviderReference)
    (who : ProcessId) (body : Service Unit) : Prop :=
  who = 0 ∧ body = ProviderProcessor.process data ∨
    who ≠ 0 ∧ ∃ rawBody signature,
      WebhooksService.verifySignature deployment rawBody signature = true ∧
      body = WebhooksService.processWebhook deployment (completion reference) rawBody signature

/-- What they commit. -/
def SubmissionCommits (setting : Setting) (deployment : Deployment) (data : ProviderJobData)
    (reference : ProviderReference) (first second : Database) : Prop :=
  Assigns setting data.transactionId first second ∨
    ∃ rawBody signature, Misses setting (completion reference) first second ∨
      Delivers setting deployment (completion reference) rawBody signature first second

/-- The payment was completed and its recipient credited once. -/
def Dossier.Settled (dossier : Dossier) : Prop :=
  dossier.stage = (.completed, [dossier.row.reserve, dossier.row.settle])

instance (dossier : Dossier) : Decidable dossier.Settled := inferInstanceAs (Decidable (_ = _))

namespace Database

/-- The status of the payment is `COMPLETED`. -/
def Completed (db : Database) (id : TransactionId) : Prop :=
  (db.transactions.get? id).map Transaction.status = some .completed

/-- What is known of the tables while a payment awaits its completion: only it may
have the reference, and a processed report has completed it. -/
structure Awaits (db : Database) (id : TransactionId) (reference : ProviderReference) : Prop where
  only : ∀ row ∈ db.transactions.rows, row.providerReference = some reference → row.id = id
  processed : ∀ event ∈ db.webhookEvents.rows, key event = (reference, "completed") →
    event.processed = true → db.Completed id

/-- The payment is lawful and either processing or completed. -/
def Open (db : Database) (id : TransactionId) : Prop :=
  ∃ dossier, db.dossier id = some dossier ∧ dossier.Lawful ∧
    (dossier.row.status = .processing ∨ dossier.row.status = .completed)

theorem Open.settled {db : Database} {id : TransactionId} (opened : db.Open id)
    (completed : db.Completed id) : ∃ dossier, db.dossier id = some dossier ∧ dossier.Settled := by
  obtain ⟨dossier, found, lawful, _⟩ := opened
  have status : dossier.row.status = .completed := by
    unfold Completed at completed
    rw [(get?_of_dossier found).1] at completed
    exact Option.some.inj completed
  refine ⟨dossier, found, ?_⟩
  have booked := lawful.booked
  unfold Dossier.Settled Dossier.stage
  rw [status] at booked ⊢
  generalize dossier.postings = postings at booked ⊢
  cases booked
  rfl

theorem SameBooks.completed {first second : Database} (same : first.SameBooks second)
    {id : TransactionId} (completed : first.Completed id) : second.Completed id := by
  unfold Completed
  rw [same.transactions]
  exact completed

theorem SameBooks.opened {first second : Database} (same : first.SameBooks second)
    {id : TransactionId} (opened : first.Open id) : second.Open id := by
  obtain ⟨dossier, found, holds⟩ := opened
  exact ⟨dossier, (same.dossier id).trans found, holds⟩

theorem Beside.awaits {first second : Database} (beside : first.Beside second)
    {id : TransactionId} {reference : ProviderReference} (awaits : first.Awaits id reference) :
    second.Awaits id reference where
  only := by
    rw [beside.books.transactions]
    exact awaits.only
  processed := by
    intro event member named processed
    obtain ⟨old, before, same, done⟩ := beside.events event member processed
    exact beside.books.completed (awaits.processed old before (same.trans named) done)

/-- The row a looked-up reference belongs to. -/
theorem Awaits.of_byReference {db : Database} {id : TransactionId} {reference : ProviderReference}
    (awaits : db.Awaits id reference) {row : Transaction}
    (found : db.byReference reference = some row) : row.id = id :=
  awaits.only row (List.mem_of_find?_eq_some found) (of_decide_eq_true (List.find?_some found :))

end Database

section Commits

variable {setting : Setting} {deployment : Deployment} {data : ProviderJobData}
  {reference : ProviderReference} {first second : Database} {id : TransactionId}
  {rawBody : List UInt8} {signature : String}

/-- The settlement of a completed payment. -/
structure Settlement.Completes (settlement : Settlement) (row : Transaction) : Prop where
  id : settlement.id = row.id
  own : settlement.Own
  posted : settlement.entries.map LedgerEntry.posting = [row.settle]
  patched : ∃ completedAt, settlement.patches =
    [{ status := some .completed, completedAt := some completedAt }]

/-- A delivery of the completion settles the payment it found. -/
theorem Delivers.completes
    (delivers : Delivers setting deployment (completion reference) rawBody signature first second) :
    ∃ (row : Transaction) (settlement : Settlement), setting.LooksUp reference (some row) first ∧
      first.transactions.get? row.id = some row ∧
      (row.status = .processing ∨ row.status = .disputed) ∧ settlement.Completes row ∧
      second = settlement.apply first := by
  obtain ⟨_, row, entries, patches, events, _, timestamp, _, looks, found, allowed, settles, rfl⟩ :=
    delivers
  unfold DeliverySettles at settles
  rw [if_pos (by rfl)] at settles
  obtain ⟨currency, completedAt, _, terms, rfl⟩ := settles
  exact ⟨row, _, looks, found, allows_completed allowed,
    ⟨rfl, ⟨credit_own terms, history_own⟩, postings_of_terms terms, completedAt, rfl⟩, rfl⟩

theorem Settlement.Completes.completed {settlement : Settlement} {row : Transaction}
    (completes : settlement.Completes row) (found : first.transactions.get? row.id = some row) :
    (settlement.apply first).Completed row.id ∧ ∀ other, other ≠ row.id →
      (settlement.apply first).transactions.get? other = first.transactions.get? other := by
  obtain ⟨named, _, _, completedAt, patched⟩ := completes
  constructor
  · unfold Database.Completed
    rw [Settlement.get?_apply, if_pos named.symm, found, patched]
    rfl
  · intro other differs
    rw [Settlement.get?_apply, if_neg (named ▸ differs)]

/-- Completing a processing payment keeps it lawful. -/
theorem Settlement.Completes.lawful {settlement : Settlement} {old : Dossier}
    (completes : settlement.Completes old.row) (lawful : old.Lawful)
    (processing : old.row.status = .processing) :
    (settlement.advance old).Lawful ∧ (settlement.advance old).row.status = .completed := by
  obtain ⟨_, _, posted, completedAt, patched⟩ := completes
  have row : (settlement.advance old).row =
      TransactionPatch.apply { status := some .completed, completedAt := some completedAt }
        old.row := by
    unfold Settlement.advance
    rw [patched]
    rfl
  have stage : (settlement.advance old).stage = (.completed, old.postings ++ [old.row.settle]) := by
    unfold Dossier.stage
    rw [row, ← posted]
    exact congrArg (Prod.mk _) List.map_append
  have terms : (settlement.advance old).row.terms = old.row.terms := by
    rw [row]
    rfl
  refine ⟨lawful.advances terms ?_, congrArg Prod.fst stage⟩
  rw [stage]
  unfold Dossier.stage
  rw [processing]
  exact .settle _

/-- Completed payments stay completed. -/
theorem SubmissionCommits.completed
    (commits : SubmissionCommits setting deployment data reference first second)
    (completed : first.Completed id) : second.Completed id := by
  rcases commits with assigns | ⟨rawBody, signature, misses | delivers⟩
  · exact (assigns.statusOf id).trans completed
  · exact misses.books.completed completed
  · obtain ⟨row, settlement, _, found, _, completes, rfl⟩ := delivers.completes
    obtain ⟨done, others⟩ := completes.completed found
    by_cases same : id = row.id
    · rw [same]
      exact done
    · unfold Database.Completed
      rw [others id same]
      exact completed

/-- In time, a delivery finds the payment. -/
theorem not_misses (misses : Misses (guarded InTime) (completion reference) first second) :
    False := by
  obtain ⟨_, _, _, ⟨seen, read, permitted, _⟩, _⟩ := misses
  change (seen.byReference (completion reference).reference).isSome = true at permitted
  rw [read] at permitted
  cases permitted

theorem Assigns.awaits (assigns : Assigns setting id first second)
    (awaits : first.Awaits id reference) (opened : first.Open id) :
    second.Awaits id reference ∧ second.Open id := by
  have status := assigns.statusOf id
  obtain ⟨dossier, found, lawful, stage⟩ := opened
  obtain ⟨checked, stored, _, _, _, rfl⟩ := assigns
  have own : Settlement.Own { id := id, patches := [{ providerReference := some stored }] } :=
    Settlement.own_patches
  have moved := (Settlement.moves own found).after
  refine ⟨⟨fun row member named => ?_, fun event member same processed => ?_⟩,
    ⟨_, moved, lawful.stays rfl ?_, stage⟩⟩
  · have there := Table.get?_of_mem member
    change (Settlement.apply { id := id, patches := [{ providerReference := some stored }] }
      first).transactions.get? row.id = some row at there
    rw [Settlement.get?_apply] at there
    by_cases same : row.id = id
    · exact same
    · rw [if_neg same] at there
      exact awaits.only row (Table.mem_of_get? there) named
  · exact status.trans (awaits.processed event member same processed)
  · change (_, List.map _ (dossier.entries ++ [])) = _
    rw [List.append_nil]
    rfl

theorem Delivers.awaits
    (delivers : Delivers setting deployment (completion reference) rawBody signature first second)
    (awaits : first.Awaits id reference) (opened : first.Open id) :
    second.Awaits id reference ∧ second.Open id := by
  obtain ⟨row, settlement, looks, found, stage, completes, rfl⟩ := delivers.completes
  have named : row.id = id := by
    obtain ⟨seen, read, _⟩ := looks
    exact awaits.only row (Table.mem_of_get? found) (of_decide_eq_true (List.find?_some read :))
  subst named
  obtain ⟨dossier, there, lawful, status⟩ := opened
  have same : dossier.row = row :=
    Option.some.inj ((Database.get?_of_dossier there).1.symm.trans found)
  subst same
  have processing : dossier.row.status = .processing := by
    rcases stage with processing | disputed
    · exact processing
    · rcases status with processing | completed
      · exact processing
      · rw [completed] at disputed
        cases disputed
  obtain ⟨done, others⟩ := completes.completed found
  obtain ⟨kept, completed⟩ := completes.lawful lawful processing
  refine ⟨⟨fun other member reported => ?_, fun _ _ _ _ => done⟩, ?_⟩
  · by_cases same : other.id = dossier.row.id
    · exact same
    · have current := Table.get?_of_mem member
      change (settlement.apply first).transactions.get? other.id = some other at current
      rw [others _ same] at current
      exact awaits.only other (Table.mem_of_get? current) reported
  · have moved := (Settlement.moves completes.own (completes.id.symm ▸ there)).after
    rw [completes.id] at moved
    exact ⟨_, moved, kept, .inr completed⟩

theorem SubmissionCommits.awaits
    (commits : SubmissionCommits (guarded InTime) deployment data reference first second)
    (awaits : first.Awaits data.transactionId reference) (opened : first.Open data.transactionId) :
    second.Awaits data.transactionId reference ∧ second.Open data.transactionId := by
  rcases commits with assigns | ⟨rawBody, signature, misses | delivers⟩
  · exact assigns.awaits awaits opened
  · exact (not_misses misses).elim
  · exact delivers.awaits awaits opened

end Commits

/-- The setting in which the tables are known to await the completion. -/
def awaiting (id : TransactionId) (reference : ProviderReference) : Setting where
  origin := fun _ => True
  drift := fun first second => first.Completed id → second.Completed id
  later := fun _ _ => True
  floor := 0
  permits := InTime
  holds := fun db => db.Awaits id reference
  drift_refl := fun _ completed => completed
  drift_trans := fun _ _ _ left right completed => right (left completed)
  origin_drift := fun _ _ _ _ => trivial
  later_drift := fun _ _ _ => trivial
  later_side := fun _ _ _ => trivial
  later_trans := fun _ _ _ _ _ => trivial

section Pool

variable {deployment : Deployment} {data : ProviderJobData} {reference : ProviderReference}

theorem awaiting_shared :
    (awaiting data.transactionId reference).Shared (SubmissionCommits
      (awaiting data.transactionId reference) deployment data reference) where
  origin := fun _ => trivial
  floor := rfl
  drifts := by
    rintro first second (beside | commits) completed
    · exact beside.books.completed completed
    · exact commits.completed completed

/-- The submission and the deliveries keep the contract. -/
theorem Submits.outside {setting : Setting}
    (shared : setting.Shared (SubmissionCommits setting deployment data reference))
    (who : ProcessId) (body : Service Unit) (submits : Submits deployment data reference who body)
    (world : World) :
    setting.Outside (SubmissionCommits setting deployment data reference) who
      (fun outcome last => who ≠ 0 → outcome = .ok () → ∃ rawBody signature,
        WebhooksService.verifySignature deployment rawBody signature = true ∧
        setting.Answered deployment (completion reference) rawBody signature last.db)
      body world := by
  rcases submits with ⟨zero, rfl⟩ | ⟨_, rawBody, signature, valid, rfl⟩
  · refine (Setting.Outside.process (shared.origin _) ?_ data fun _ _ assigns => .inl assigns).mono
      fun _ _ _ other => (other zero).elim
    rw [shared.floor]
    exact Nat.zero_le _
  · refine (Setting.Outside.processWebhook (shared.origin _) fun _ _ commits => ?_).mono
      fun outcome last answered _ returned => ⟨rawBody, signature, valid, answered returned⟩
    exact .inr ⟨rawBody, signature, commits⟩

/-- A delivery that returned has seen the payment completed. -/
theorem Answered.completed {rawBody : List UInt8} {signature : String} {db : Database}
    (valid : WebhooksService.verifySignature deployment rawBody signature = true)
    (answered : (awaiting data.transactionId reference).Answered deployment (completion reference)
      rawBody signature db) : db.Completed data.transactionId := by
  cases answered with
  | forged invalid =>
      rw [valid] at invalid
      cases invalid
  | known seen event found permitted holds since =>
      have member := Table.mem_of_get? found
      exact since (holds.processed event member (Table.key_of_get? found) (permitted event found))
  | missed looked looks =>
      obtain ⟨seen, read, permitted, _⟩ := looks
      change (seen.byReference (completion reference).reference).isSome = true at permitted
      rw [read] at permitted
      cases permitted
  | applied first second delivers since =>
      obtain ⟨row, settlement, looks, found, _, completes, rfl⟩ := delivers.completes
      obtain ⟨seen, read, _, holds, _⟩ := looks
      have named := holds.of_byReference read
      have completed := (completes.completed found).1
      rw [named] at completed
      exact since completed

end Pool

/-- Where every delivery comes in time, a delivery that has been processed to its end
leaves the payment completed and its recipient credited once, from then on. -/
theorem delivery_in_time_settles (deployment : Deployment) (data : ProviderJobData)
    (reference : ProviderReference) {initial : World} (rest : initial.AtRest) {opened : Dossier}
    (found : initial.db.dossier data.transactionId = some opened) (lawful : opened.Lawful)
    (processing : opened.row.status = .processing)
    (unreferenced : ∀ row ∈ initial.db.transactions.rows, row.providerReference ≠ some reference)
    (unseen : initial.db.webhookEvents.get? (reference, "completed") = none)
    {pool last : Pool ProcessId Failure Operation.Reply World}
    (reached : Pool.Reachable (guarded InTime).machine
      (surroundings (Submits deployment data reference)) initial pool)
    {who : ProcessId} (delivery : who ≠ 0) (ended : pool.running who = some (.ret ()))
    (later : Pool.Steps (guarded InTime).machine
      (surroundings (Submits deployment data reference)) pool last) :
    ∃ dossier, last.shared.db.dossier data.transactionId = some dossier ∧ dossier.Settled := by
  have shared := guarded_shared InTime
    (SubmissionCommits (guarded InTime) deployment data reference)
  have safe := Submits.outside shared
  have awaits : initial.db.Awaits data.transactionId reference := by
    refine ⟨fun row member named => (unreferenced row member named).elim, ?_⟩
    intro event member named
    exact ((Table.get?_eq_none_iff _ _).mp unseen event member named).elim
  have inProgress : initial.db.Open data.transactionId := ⟨opened, found, lawful, .inl processing⟩
  have keeps : ∀ next : Pool ProcessId Failure Operation.Reply World,
      Pool.Reachable (guarded InTime).machine (surroundings (Submits deployment data reference))
        initial next →
      next.shared.db.Awaits data.transactionId reference ∧
        next.shared.db.Open data.transactionId := by
    intro next steps
    refine shared.keeps safe (fun db =>
      db.Awaits data.transactionId reference ∧ db.Open data.transactionId) ?_ ?_
      (Setting.valid_quiet rest) ⟨awaits, inProgress⟩ steps
    · exact fun first second beside held => ⟨beside.awaits held.1, beside.books.opened held.2⟩
    · exact fun first second commits _ held => commits.awaits held.1 held.2
  -- The delivery ran where the tables were known to await the completion.
  have watched : Pool.Steps (awaiting data.transactionId reference).machine
      (surroundings (Submits deployment data reference)) (Pool.quiet initial) pool :=
    Setting.steps_of_guarded (fun next steps _ => ⟨(keeps next steps).1, trivial⟩) reached
  have valid := (Pool.Valid.steps (awaiting_shared.compatible (Submits.outside awaiting_shared))
    (Setting.valid_quiet rest) watched).1
  obtain ⟨_, middle, _, _, answered, rely⟩ := valid.running who _ ended pool.shared
    ((Setting.regular _ _).refl who pool.shared) valid.inv
  obtain ⟨rawBody, signature, signed, answered⟩ := answered delivery rfl
  have completed : pool.shared.db.Completed data.transactionId :=
    rely.drift (Answered.completed signed answered)
  have before := (Pool.Valid.steps (shared.compatible safe) (Setting.valid_quiet rest) reached).1
  have after : last.shared.db.Completed data.transactionId := by
    refine shared.keeps safe (fun db => db.Completed data.transactionId) ?_ ?_ before
      completed later
    · exact fun first second beside held => beside.books.completed held
    · exact fun first second commits _ held => commits.completed held
  exact (keeps last (reached.trans later)).2.settled after

/-! ## In time and too early -/

/-- A payment has been created. -/
def sampleCreated : World :=
  runAll sampleDeployment [(.createPayment samplePayment "key", [])] sampleWorld

theorem sampleCreated_atRest : sampleCreated.AtRest :=
  (Command.run_alone sampleDeployment sampleWorld_atRest 0
    (.createPayment samplePayment "key") []).1

theorem sampleCreated_lawful :
    ∃ opened, sampleCreated.db.dossier sampleJob.transactionId = some opened ∧
    opened.Lawful ∧ opened.row.status = .processing := by
  have shape : (sampleCreated.db.dossier 0).map (fun dossier =>
      (decide (dossier.row.senderAccountId ≠ dossier.row.recipientAccountId),
        decide (0 ≤ dossier.row.sourceAmount),
        decide (dossier.stage = (.processing, [dossier.row.reserve])))) =
      some (true, true, true) := by decide +kernel
  obtain ⟨opened, found, facts⟩ := Option.map_eq_some_iff.mp shape
  obtain ⟨parties, rest⟩ := Prod.mk.inj facts
  obtain ⟨nonneg, stage⟩ := Prod.mk.inj rest
  have stage := of_decide_eq_true stage
  have status : opened.row.status = .processing := congrArg Prod.fst stage
  have postings : opened.postings = [opened.row.reserve] := congrArg Prod.snd stage
  refine ⟨opened, found, ⟨of_decide_eq_true parties, of_decide_eq_true nonneg, ?_⟩, status⟩
  rw [status, postings]
  exact .processing

/-- The payment is submitted and its completion is delivered. -/
def sampleCallback : List Turn :=
  [{ who := 0, starts := some (.process sampleJob) },
    { who := 1, starts := some (.processWebhook (completion 0) [] "secret") }]

/-- Another delivery of the same report. -/
def sampleRedelivery : List Turn :=
  [{ who := 2, starts := some (.processWebhook (completion 0) [] "secret") }]

theorem sampleCallback_submits : ∀ turn ∈ sampleCallback, ∀ command ∈ turn.starts,
    Submits sampleDeployment sampleJob 0 turn.who (command.program sampleDeployment) := by
  intro turn taken command started
  rcases List.mem_cons.mp taken with rfl | rest
  · cases started
    exact .inl ⟨rfl, rfl⟩
  · rw [List.mem_singleton.mp rest] at started ⊢
    cases started
    exact .inr ⟨by decide, [], "secret", by decide +kernel, rfl⟩

theorem sampleRedelivery_submits : ∀ turn ∈ sampleRedelivery, ∀ command ∈ turn.starts,
    Submits sampleDeployment sampleJob 0 turn.who (command.program sampleDeployment) := by
  intro turn taken command started
  rw [List.mem_singleton.mp taken] at started ⊢
  cases started
  exact .inr ⟨by decide, [], "secret", by decide +kernel, rfl⟩

theorem delivery_in_time_settles_sample :
    let pool := takeTurns (guarded InTime).machine sampleDeployment sampleCallback
      (Pool.quiet sampleCreated)
    let last := takeTurns (guarded InTime).machine sampleDeployment sampleRedelivery pool
    ∃ dossier, last.shared.db.dossier 0 = some dossier ∧ dossier.Settled := by
  obtain ⟨opened, found, lawful, processing⟩ := sampleCreated_lawful
  refine delivery_in_time_settles sampleDeployment sampleJob 0 sampleCreated_atRest found lawful
    processing (by decide +kernel) (by decide +kernel)
    (takeTurns_steps (by decide +kernel) sampleCallback_submits) (by decide : (1 : ProcessId) ≠ 0)
    (Pool.running_of_hasReturned (by decide +kernel))
    (takeTurns_steps (by decide +kernel) sampleRedelivery_submits)

/-- The machine on which no call fails. -/
def faultless : Machine ProcessId Delivery Failure Operation.Reply World :=
  backend.restrict fun _ delivery _ _ => delivery = .delivered

instance (who : ProcessId) (choice : Delivery) (op : Operation) (world : World) :
    Decidable (faultless.ready who choice op world) :=
  inferInstanceAs (Decidable (world.Ready who op ∧ choice = .delivered))

/-- The report is delivered between the submission and the update that stores the
reference. -/
def sampleOvertaking : List Turn :=
  [{ who := 0, starts := some (.process sampleJob), calls := 3 },
    { who := 1, starts := some (.processWebhook (completion 0) [] "secret") },
    { who := 0 }]

theorem sampleOvertaking_submits : ∀ turn ∈ sampleOvertaking, ∀ command ∈ turn.starts,
    Submits sampleDeployment sampleJob 0 turn.who (command.program sampleDeployment) := by
  intro turn taken command started
  rcases List.mem_cons.mp taken with rfl | rest
  · cases started
    exact .inl ⟨rfl, rfl⟩
  · rcases List.mem_cons.mp rest with rfl | last
    · cases started
      exact .inr ⟨by decide, [], "secret", by decide +kernel, rfl⟩
    · rw [List.mem_singleton.mp last] at started
      cases started

/-- A delivery that overtakes the reference makes the next one, which comes after it
was stored, a duplicate; the payment is not completed. -/
theorem overtaking_delivery_is_lost :
    ∃ (deployment : Deployment) (data : ProviderJobData) (reference : ProviderReference)
      (initial : World) (pool last : Pool ProcessId Failure Operation.Reply World)
      (who : ProcessId),
      initial.AtRest ∧ (∃ opened, initial.db.dossier data.transactionId = some opened ∧
        opened.Lawful ∧ opened.row.status = .processing) ∧
      (∀ row ∈ initial.db.transactions.rows, row.providerReference ≠ some reference) ∧
      initial.db.webhookEvents.get? (reference, "completed") = none ∧
      Pool.Reachable faultless (surroundings (Submits deployment data reference)) initial pool ∧
      (pool.shared.db.byReference reference).map Transaction.id = some data.transactionId ∧
      pool.running who = none ∧ who ≠ 0 ∧
      Pool.Steps faultless (surroundings (Submits deployment data reference)) pool last ∧
      last.running who = some (.ret ()) ∧
      ¬ ∃ dossier, last.shared.db.dossier data.transactionId = some dossier ∧ dossier.Settled := by
  let pool := takeTurns faultless sampleDeployment sampleOvertaking (Pool.quiet sampleCreated)
  let last := takeTurns faultless sampleDeployment sampleRedelivery pool
  refine ⟨sampleDeployment, sampleJob, 0, sampleCreated, pool, last, 2, sampleCreated_atRest,
    sampleCreated_lawful, by decide +kernel, by decide +kernel,
    takeTurns_steps (by decide +kernel) sampleOvertaking_submits, by decide +kernel,
    Option.isNone_iff_eq_none.mp (by decide +kernel), by decide,
    takeTurns_steps (by decide +kernel) sampleRedelivery_submits,
    Pool.running_of_hasReturned (by decide +kernel), ?_⟩
  rintro ⟨dossier, found, settled⟩
  have processing : (last.shared.db.dossier 0).map (fun dossier => decide dossier.Settled) =
      some false := by decide +kernel
  change last.shared.db.dossier 0 = some dossier at found
  rw [found, Option.map_some, decide_eq_true settled] at processing
  cases processing

end Payroute
