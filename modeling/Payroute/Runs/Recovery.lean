import Payroute.Runs.Delivery
import Payroute.Runs.Processes

/-! # Stuck payments are tried again

A payment whose job was lost is found by the sweep, which puts another job into the queue.
The worker of that job submits the payment and stores its reference. The rules say what
each of the two leaves when its calls get through.
-/

namespace Payroute

open EffectSystem KeyedTable Program

/-! ## Tables -/

theorem Database.mem_stuck {db : Database} {row : Transaction} {cutoff : Nat} :
    row ∈ db.stuck cutoff ↔ row ∈ db.transactions.rows ∧ row.status = .processing ∧
      row.providerReference = none ∧ row.createdAt < cutoff := by
  unfold Database.stuck
  rw [List.mem_insertionSort, List.mem_filter, decide_eq_true_iff]

/-- Outside of a transaction a query finds the committed tables. -/
theorem World.perform_query {who : ProcessId} {world : World} (closed : world.sessions who = none)
    (query : Query) :
    world.perform who (.sql (.select query)) = (.ok (query.eval world.db), world) := by
  rw [← view_closed closed]
  rfl

theorem succeeds_read {who : ProcessId} {world : World} (closed : world.sessions who = none)
    (query : Query) :
    Succeeds who (fun reply last => reply = query.eval world.db ∧ last = world)
      (sql (.select query)) world :=
  succeeds_call (World.perform_query closed query) ⟨rfl, rfl⟩

/-- Where nothing is open every row is free. -/
theorem World.AtRest.free {world : World} (rest : world.AtRest) (who : ProcessId) (row : RowId) :
    world.Free who row := by
  refine ⟨rest.sound.unblocked (rest.alone who) row, ?_⟩
  unfold World.Stale World.base
  rw [rest.sessions who]
  exact fun stale => stale rfl

/-! ## The sweep -/

namespace StuckPaymentScheduler

/-- The job still has to run, and it submits the payment. -/
def Retries (row : Transaction) (world : World) : Prop :=
  ∃ job, world.jobs.get? (.retry row.id) = some job ∧ job.data = retryJob row ∧
    pending job.state = true

/-- No job of the sweep for the payment still has to run. -/
def Idle (row : Transaction) (world : World) : Prop :=
  ∀ job ∈ world.jobs.get? (.retry row.id), pending job.state = false

/-- The tables and the references are as they were. -/
structure Spares (first second : World) : Prop where
  db : second.db = first.db
  references : second.next .reference = first.next .reference

variable {who : ProcessId} {world first second third : World} {row txn : Transaction} {cutoff : Nat}

theorem Spares.refl (world : World) : Spares world world := ⟨rfl, rfl⟩

theorem Spares.trans (left : Spares first second) (right : Spares second third) :
    Spares first third :=
  ⟨right.db.trans left.db, right.references.trans left.references⟩

/-- A payment has one kind of job at a time. -/
theorem retries_of_jobs (same : second.jobs.get? (.retry row.id) = first.jobs.get? (.retry row.id))
    (retries : Retries row first) : Retries row second := by
  obtain ⟨job, found, waits⟩ := retries
  exact ⟨job, same.trans found, waits⟩

theorem idle_of_jobs (same : second.jobs.get? (.retry row.id) = first.jobs.get? (.retry row.id))
    (idle : Idle row first) : Idle row second := fun job found => idle job (same ▸ found)

/-- The queue takes a job whose identifier is free. -/
theorem succeeds_enqueue (free : world.jobs.get? (.retry txn.id) = none) :
    Succeeds who (fun _ last => Spares world last ∧ Retries txn last ∧
      ∀ id, id ≠ .retry txn.id → last.jobs.get? id = world.jobs.get? id) (enqueue txn) world := by
  let job : ProviderJob :=
    { id := .retry txn.id, data := retryJob txn, attempts := PaymentsService.providerJobAttempts
      attemptsMade := 0, state := .waiting }
  let later : World := { (world.draw .job) with jobs := world.jobs.put job }
  have done : world.perform who (.queueAdd (retryJob txn) PaymentsService.providerJobAttempts
      (some (.retry txn.id))) = (.ok (), later) := by
    change (_, World.queueAdd _ _ _ _) = _
    simp only [World.queueAdd, Option.getD_some, free]
    rfl
  have references : (world.draw .job).next .reference = world.next .reference := by
    have differs : Supply.reference ≠ .job := by decide
    exact Function.update_of_ne differs (world.next .job + 1) world.next
  refine succeeds_call done ⟨⟨rfl, references⟩, ⟨job, Table.get?_put_self world.jobs job, rfl, rfl⟩,
    fun id differs => ?_⟩
  exact Table.get?_put_of_ne world.jobs differs

/-- A job that is not being worked on is removed. -/
theorem succeeds_queueRemove {id : JobId} {job : ProviderJob}
    (found : world.jobs.get? id = some job) (idle : job.state ≠ .active) :
    Succeeds who (fun _ last => Spares world last ∧ last.jobs.get? id = none ∧
      ∀ other, other ≠ id → last.jobs.get? other = world.jobs.get? other)
      (call (.queueRemove id)) world := by
  have done : world.perform who (.queueRemove id) = (.ok (), world.queueRemove id) := rfl
  refine succeeds_call done ⟨⟨rfl, rfl⟩, ?_, fun other differs => ?_⟩
  · change (world.jobs.filter _).get? id = none
    have named : job.id = id := Table.key_of_get? found
    rw [Table.get?_filter, found, Option.filter_eq_none_iff]
    rintro removed ⟨⟩
    simp [named, idle]
  · change (world.jobs.filter _).get? other = _
    rw [Table.get?_filter]
    cases kept : world.jobs.get? other with
    | none => rfl
    | some stays =>
        have named : stays.id = other := Table.key_of_get? kept
        simp [named, differs]

/-- The round of one payment leaves the jobs of the others. -/
theorem succeeds_retry (txn : Transaction) :
    Succeeds who (fun _ last => Spares world last ∧
      (Idle txn world ∨ Retries txn world → Retries txn last) ∧
      ∀ id, id ≠ .retry txn.id → last.jobs.get? id = world.jobs.get? id) (retry txn) world := by
  have answered : world.perform who (.queueGet (.retry txn.id)) =
      (.ok (world.jobs.get? (.retry txn.id)), world) := rfl
  have reads : Succeeds who (fun found last => found = world.jobs.get? (.retry txn.id) ∧
      last = world) (call (.queueGet (.retry txn.id))) world :=
    succeeds_call answered ⟨rfl, rfl⟩
  apply reads.bind
  intro found _ read
  rw [read.1, read.2]
  cases existing : world.jobs.get? (.retry txn.id) with
  | none =>
      exact (succeeds_enqueue existing).mono fun _ last added =>
        ⟨added.1, fun _ => added.2.1, added.2.2⟩
  | some job =>
      apply reads.bind
      intro current _ read
      rw [read.1, read.2]
      change Succeeds who _
        (if (world.jobs.get? (.retry txn.id)).any _ = true then .ret () else _) _
      rw [existing, Option.any_some]
      by_cases waits : pending job.state = true
      · rw [if_pos waits]
        refine Completes.ret ⟨.refl world, fun known => ?_, fun _ _ => rfl⟩
        rcases known with idle | retries
        · rw [idle job existing] at waits
          cases waits
        · exact retries
      · rw [if_neg waits]
        have inactive : job.state ≠ .active := by
          intro active
          rw [active] at waits
          exact waits rfl
        have removes : Succeeds who (fun (_ : Unit) last => Spares world last ∧
            last.jobs.get? (.retry txn.id) = none ∧
            ∀ other, other ≠ .retry txn.id → last.jobs.get? other = world.jobs.get? other)
            (swallow (call (.queueRemove (.retry txn.id)))) world :=
          .swallow (succeeds_queueRemove existing inactive)
        apply removes.bind
        intro _ middle removed
        obtain ⟨spares, gone, others⟩ := removed
        apply (succeeds_enqueue gone).mono
        intro _ last added
        exact ⟨spares.trans added.1, fun _ => added.2.1, fun id differs =>
          (added.2.2 id differs).trans (others id differs)⟩

/-- One round of the loop, for the payment itself or for another one. -/
theorem succeeds_evaluate (txn : Transaction) (own : txn.id = row.id → txn = row) :
    Succeeds who (fun _ last => Spares world last ∧ (Retries row world → Retries row last) ∧
      (Idle row world → txn ≠ row → Idle row last) ∧
      (Idle row world → txn = row → cutoff ≤ row.createdAt / 1000 * 1000 → Retries row last))
      (evaluate cutoff txn) world := by
  unfold evaluate
  by_cases old : txn.createdAt / 1000 * 1000 < cutoff
  · rw [if_pos old]
    refine Completes.ret ⟨.refl world, id, fun idle _ => idle, fun _ same young => ?_⟩
    subst same
    omega
  · rw [if_neg old]
    apply (succeeds_retry txn).mono
    intro _ last tried
    obtain ⟨spares, retries, others⟩ := tried
    by_cases same : txn = row
    · subst same
      exact ⟨spares, fun known => retries (.inr known), fun _ differs => (differs rfl).elim,
        fun idle _ _ => retries (.inl idle)⟩
    · have apart : JobId.retry row.id ≠ .retry txn.id := by
        intro equal
        exact same (own (JobId.retry.inj equal).symm)
      have jobs := others _ apart
      exact ⟨spares, retries_of_jobs jobs, fun idle _ => idle_of_jobs jobs idle,
        fun _ equal => (same equal).elim⟩

/-- The loop tries every payment of the list that is young enough. -/
theorem succeeds_evaluateAll (young : cutoff ≤ row.createdAt / 1000 * 1000)
    (stuck : List Transaction) (own : ∀ txn ∈ stuck, txn.id = row.id → txn = row) :
    Succeeds who (fun _ last => Spares world last ∧ (Retries row world → Retries row last) ∧
      (Idle row world → row ∈ stuck → Retries row last)) (evaluateAll cutoff stuck) world := by
  induction stuck generalizing world with
  | nil => exact Completes.ret ⟨.refl world, id, fun _ absurd => by cases absurd⟩
  | cons txn rest ih =>
      apply (succeeds_evaluate txn (own txn List.mem_cons_self)).bind
      intro _ middle evaluated
      obtain ⟨spares, keeps, stays, tries⟩ := evaluated
      apply (ih fun later member => own later (List.mem_cons_of_mem _ member)).mono
      intro _ last finished
      obtain ⟨further, holds, reaches⟩ := finished
      refine ⟨spares.trans further, fun known => holds (keeps known), fun idle member => ?_⟩
      by_cases same : txn = row
      · exact holds (tries idle same young)
      · rcases List.mem_cons.mp member with equal | later
        · exact (same equal.symm).elim
        · exact reaches (stays idle same) later

/-- The sweep finds the payment: it is in progress without a reference, and neither too
young nor too old. -/
structure Finds (row : Transaction) (world : World) : Prop where
  stored : row ∈ world.db.transactions.rows
  processing : row.status = .processing
  unreferenced : row.providerReference = none
  stuck : row.createdAt < world.clock / 1000 * 1000 - stuckThreshold
  young : world.clock / 1000 * 1000 - maxRetryAge ≤ row.createdAt / 1000 * 1000

/-- The sweep leaves a job for each payment it finds. -/
theorem succeeds_retryStuckPayments (closed : world.sessions who = none) (finds : Finds row world)
    (idle : Idle row world) :
    Succeeds who (fun _ last => Spares world last ∧ Retries row last) retryStuckPayments world := by
  have answered : world.perform who .now = (.ok (world.clock / 1000 * 1000), world) := rfl
  have clock : Succeeds who (fun now last => now = world.clock / 1000 * 1000 ∧ last = world)
      newDate world := succeeds_call answered ⟨rfl, rfl⟩
  have selected : Succeeds who (fun found last =>
      found = world.db.stuck (world.clock / 1000 * 1000 - stuckThreshold) ∧ last = world)
      findStuck world := by
    apply clock.bind
    intro now _ read
    rw [read.1, read.2]
    exact succeeds_read closed (.stuck (world.clock / 1000 * 1000 - stuckThreshold))
  apply selected.bind
  intro stuckPayments _ found
  rw [found.1, found.2]
  have member : row ∈ world.db.stuck (world.clock / 1000 * 1000 - stuckThreshold) :=
    Database.mem_stuck.mpr ⟨finds.stored, finds.processing, finds.unreferenced, finds.stuck⟩
  rw [if_neg (List.length_pos_of_mem member).ne']
  apply clock.bind
  intro now _ read
  rw [read.1, read.2]
  apply (succeeds_evaluateAll finds.young _ fun txn there same => ?_).mono
  · intro _ last swept
    exact ⟨swept.1, swept.2.2 idle member⟩
  · exact world.db.transactions.eq_of_key_eq (Database.mem_stuck.mp there).1 finds.stored same

end StuckPaymentScheduler

/-! ## The worker -/

namespace ProviderProcessor

variable {who : ProcessId} {world : World} {row : Transaction} {data : ProviderJobData}

/-- What the worker leaves: the payment has the reference the provider has just handed
out, and its callback is scheduled. -/
structure Submitted (data : ProviderJobData) (row : Transaction) (first last : World) : Prop where
  db : last.db = first.db.write (.transaction
    ({ providerReference := some (first.next .reference) : TransactionPatch }.apply row))
  scheduled : { reference := first.next .reference, amount := data.sourceAmount
                currency := data.sourceCurrency } ∈ last.callbacks

theorem succeeds_submit (rest : world.AtRest)
    (found : world.db.transactions.get? data.transactionId = some row) :
    Succeeds who (fun _ last => Submitted data row world last) (submit data) world := by
  have slept : world.perform who (.sleep 50) = (.ok (), world) := rfl
  let called : World := (world.perform who
    (.scheduleCallback data.sourceAmount data.sourceCurrency)).2
  have submitted : world.perform who (.scheduleCallback data.sourceAmount data.sourceCurrency) =
      (.ok (world.next .reference), called) := rfl
  have submits : Succeeds who (fun reference last => reference = world.next .reference ∧
      last = called) (ProviderService.submitPayment data.transactionId data.sourceAmount
        data.sourceCurrency) world := by
    have waits : Succeeds who (fun _ last => last = world) (call (.sleep 50)) world :=
      succeeds_call slept rfl
    apply waits.bind
    intro _ _ same
    rw [same]
    exact succeeds_call submitted ⟨rfl, rfl⟩
  apply submits.bind
  intro _ _ given
  rw [given.1, given.2]
  have rested : called.AtRest := rest.aside (World.perform_neutral trivial)
  have closed := rested.sessions who
  have stores : Succeeds who (fun _ last => last.db = world.db.write (.transaction
      ({ providerReference := some (world.next .reference) : TransactionPatch }.apply row)) ∧
      last.callbacks = called.callbacks)
      (sql (.updateTransaction data.transactionId
        { providerReference := some (world.next .reference) })) called := by
    have done : (Statement.updateTransaction data.transactionId
        { providerReference := some (world.next .reference) }).eval (called.view who)
        (called.session who) = .ok
        { reply := (), locks := some (.transaction data.transactionId),
          writes := some (.transaction
            ({ providerReference := some (world.next .reference) : TransactionPatch }.apply
              row)) } := by
      have there : called.db.transactions.get? data.transactionId = some row := found
      simp only [Statement.eval, Database.updateTransaction, World.view_closed closed, there]
    refine succeeds_statement done (fun wanted _ => rested.free who wanted) ⟨?_, ?_⟩
    · exact World.apply_closed_db closed
    · simp only [World.apply_closed _ closed]
  apply stores.bind
  intro _ last stored
  have emitted : last.perform who (.emit (.initiated data.transactionId data.senderAccountId
      data.sourceAmount data.sourceCurrency data.destinationCurrency data.idempotencyKey)) =
      (.ok (), _) := rfl
  refine succeeds_call emitted ⟨stored.1, ?_⟩
  change _ ∈ last.callbacks
  rw [stored.2]
  exact List.mem_append.mpr (.inr List.mem_cons_self)

theorem succeeds_process (rest : world.AtRest)
    (found : world.db.transactions.get? data.transactionId = some row) (unsent : eligible row) :
    Succeeds who (fun _ last => Submitted data row world last) (process data) world := by
  apply (succeeds_read (rest.sessions who) (.transaction data.transactionId)).bind
  intro _ _ read
  have shown : Query.eval world.db (.transaction data.transactionId) = some row := found
  rw [read.1, read.2, shown]
  change Succeeds who _ (if eligible row then submit data else .ret ()) world
  rw [if_pos unsent]
  exact succeeds_submit rest found

/-- The worker of a job does what the job asks for. -/
theorem succeeds_work {id : JobId} {job : ProviderJob} {post : Unit → World → Prop}
    (queued : world.jobs.get? id = some job)
    (processes : Succeeds who post (process job.data) world) :
    Succeeds who post (work id) world := by
  have answered : world.perform who (.queueGet id) = (.ok (world.jobs.get? id), world) := rfl
  have takes : Succeeds who (fun reply last => reply = world.jobs.get? id ∧ last = world)
      (call (.queueGet id)) world := succeeds_call answered ⟨rfl, rfl⟩
  apply takes.bind
  intro _ _ taken
  rw [taken.1, taken.2, queued]
  exact processes

end ProviderProcessor

end Payroute
