import Mathlib.Data.List.Chain
import Payroute.Runs.Transitions

/-! # The audit trail is faithful

In serial runs the state history of a payment is a chain along the transition
table from its opening to its status, and every change of the status adds one
row, unless a dispute is rejected for a payment in progress.
-/

namespace Payroute

open EffectSystem KeyedTable

/-- The state history of a payment leads from its opening to its status. -/
structure Dossier.Faithful (dossier : Dossier) : Prop where
  starts : dossier.trace.head? = some (none, TransactionStatus.initiated.text)
  linked : dossier.trace.IsChain fun earlier later => later.1 = some earlier.2
  allowed : ∀ step ∈ dossier.trace.tail, ∃ current : TransactionStatus,
    step.1 = some current.text ∧ current.Allows step.2
  ends : dossier.trace.getLast?.map Prod.snd = some dossier.row.status.text

/-- Every change of a status adds one row to the history, from the old status to the
new one, and the opening of a payment adds its first two rows. -/
def Database.Records (first second : Database) : Prop :=
  ∀ id new, second.dossier id = some new →
    match first.dossier id with
    | none => new.row.status = .processing ∧ new.trace =
        [(none, TransactionStatus.initiated.text),
          (some TransactionStatus.initiated.text, TransactionStatus.processing.text)]
    | some old => new.row.status = old.row.status ∧ new.trace = old.trace ∨
        new.row.status ≠ old.row.status ∧
          new.trace = old.trace ++ [(some old.row.status.text, new.row.status.text)]

/-- The operation rejects no dispute of a payment in progress, and a webhook's status
is one the endpoint lets through. -/
def Command.Recording (world : World) : Command → Prop
  | .resolveDispute id dto => ¬ (dto.action = .reject ∧
      (world.db.transactions.get? id).map Transaction.status = some .processing)
  | .processWebhook payload _ _ => payload.Admitted
  | _ => True

instance (world : World) (command : Command) : Decidable (command.Recording world) :=
  match command with
  | .resolveDispute _ _ => inferInstanceAs (Decidable (¬ _))
  | .processWebhook payload _ _ => inferInstanceAs (Decidable (payload.status ∈ _))
  | .createPayment _ _ | .process _ | .onProviderJobExhausted _ _ | .refundPayment _ _
  | .raiseDispute _ _ | .retryStuckPayments | .cleanupExpiredIdempotencyKeys
  | .cleanupOldProcessedWebhookEvents => .isTrue trivial

theorem Traced.not_initiated {trace : List (Option String × String)} {status : TransactionStatus}
    (traced : Traced trace status) : status ≠ .initiated := by
  cases traced with
  | opened => decide
  | @step trace current next traced allowed =>
      intro initiated
      rw [initiated, TransactionStatus.allows_text_iff] at allowed
      cases current <;> simp [TransactionStatus.validTransitions] at allowed

theorem Traced.starts {trace : List (Option String × String)} {status : TransactionStatus}
    (traced : Traced trace status) :
    trace.head? = some (none, TransactionStatus.initiated.text) := by
  induction traced with
  | opened => rfl
  | step traced allowed ih =>
      rw [List.head?_append, ih]
      rfl

theorem Traced.ends {trace : List (Option String × String)} {status : TransactionStatus}
    (traced : Traced trace status) : trace.getLast?.map Prod.snd = some status.text := by
  cases traced with
  | opened => rfl
  | step traced allowed => rw [List.getLast?_append_of_ne_nil _ (List.cons_ne_nil _ _)]; rfl

theorem Traced.linked {trace : List (Option String × String)} {status : TransactionStatus}
    (traced : Traced trace status) :
    trace.IsChain fun earlier later => later.1 = some earlier.2 := by
  induction traced with
  | opened => exact .cons_cons rfl (.singleton _)
  | step traced allowed ih =>
      refine ih.append (.singleton _) fun last final next first => ?_
      have reached := traced.ends
      rw [Option.mem_def.mp final, Option.map_some] at reached
      cases first
      exact reached.symm

theorem Traced.allowed {trace : List (Option String × String)} {status : TransactionStatus}
    (traced : Traced trace status) :
    ∀ step ∈ trace.tail, ∃ current : TransactionStatus,
      step.1 = some current.text ∧ current.Allows step.2 := by
  induction traced with
  | opened =>
      intro step member
      rw [List.mem_singleton.mp member]
      exact ⟨.initiated, rfl, by decide⟩
  | @step trace current next traced allowed ih =>
      intro step member
      have nonempty : trace ≠ [] := by
        intro empty
        have starts := traced.starts
        rw [empty] at starts
        cases starts
      rw [List.tail_append_of_ne_nil nonempty] at member
      rcases List.mem_append.mp member with earlier | last
      · exact ih step earlier
      · rw [List.mem_singleton.mp last]
        exact ⟨current, rfl, allowed⟩

/-- A history that was traced is a chain along the transition table. -/
theorem Traced.faithful {dossier : Dossier} (traced : Traced dossier.trace dossier.row.status) :
    dossier.Faithful := ⟨traced.starts, traced.linked, traced.allowed, traced.ends⟩

/-- A dossier that changes its status records it. -/
theorem Dossier.Continues.turns {old new : Dossier} {patch : TransactionPatch}
    {postings : List Posting} (next : TransactionStatus)
    (continues : old.Continues new patch postings [stepOf old.row.status next.text])
    (patched : patch.status = some next) (allowed : old.row.status.Allows next.text) :
    old.row.status.Allows new.row.status.text ∧
      new.trace = old.trace ++ [(some old.row.status.text, new.row.status.text)] := by
  have status : new.row.status = next := by
    rw [continues.row]
    change patch.status.getD old.row.status = next
    rw [patched]
    rfl
  rw [status]
  exact ⟨allowed, continues.trace⟩

/-- A recording step of a traced payment adds one row for a change of its status. -/
theorem Command.Transition.records {deployment : Deployment} {world : World} {command : Command}
    {old new : Dossier} (transition : command.Transition deployment old new)
    (recording : command.Recording world)
    (found : world.db.transactions.get? old.row.id = some old.row)
    (unopened : old.row.status ≠ .initiated) :
    new.row.status = old.row.status ∧ new.trace = old.trace ∨
      old.row.status.Allows new.row.status.text ∧
        new.trace = old.trace ++ [(some old.row.status.text, new.row.status.text)] := by
  cases transition with
  | submit data reference named eligible continues =>
      obtain ⟨row, _, trace⟩ := continues
      rw [row, trace, List.append_nil]
      exact .inl ⟨rfl, rfl⟩
  | complete payload rawBody signature completedAt signed status referenced allowed continues =>
      rw [status] at continues
      have step : old.row.status.Allows TransactionStatus.completed.text := by
        rcases allowed with processing | disputed
        · rw [processing]
          decide
        · rw [disputed]
          decide
      exact .inr (Dossier.Continues.turns .completed continues rfl step)
  | fail payload rawBody signature signed status referenced allowed continues =>
      rw [status] at continues
      have step : old.row.status.Allows TransactionStatus.failed.text := by
        rcases allowed with initiated | processing
        · exact (unopened initiated).elim
        · rw [processing]
          decide
      exact .inr (Dossier.Continues.turns .failed continues rfl step)
  | note payload rawBody signature signed uncompleted unfailed allowed continues =>
      have processing : payload.status = "processing" := by
        rcases List.mem_cons.mp recording with absurd | rest
        · exact (uncompleted absurd).elim
        · rcases List.mem_cons.mp rest with absurd | last
          · exact (unfailed absurd).elim
          · exact List.mem_singleton.mp last
      exact (unopened (allows_processing (processing ▸ allowed))).elim
  | exhaust jobId failedReason allowed continues =>
      rw [← allowed] at continues
      have step : old.row.status.Allows TransactionStatus.failed.text := by
        rw [allowed]
        decide
      exact .inr (continues.turns _ rfl step)
  | refund dto allowed continues => exact .inr (continues.turns _ rfl allowed)
  | dispute dto allowed continues =>
      have step : old.row.status.Allows TransactionStatus.disputed.text := by
        rw [allowed]
        decide
      exact .inr (continues.turns _ rfl step)
  | reverse allowed continues => exact .inr (continues.turns _ rfl allowed)
  | reject allowed continues =>
      have disputed : old.row.status = .disputed := by
        rcases allowed with processing | disputed
        · refine (recording ⟨rfl, ?_⟩).elim
          rw [found, Option.map_some, processing]
        · exact disputed
      rw [← disputed] at continues
      have step : old.row.status.Allows TransactionStatus.completed.text := by
        rw [disputed]
        decide
      exact .inr (continues.turns _ rfl step)

section Performs

variable {deployment : Deployment} {world : World} {command : Command} {last : Database}

/-- What a recording operation does keeps the histories traced and records it. -/
theorem Command.Performs.records (performs : command.Performs deployment world last)
    (recording : command.Recording world)
    (traced : world.db.Each fun dossier => Traced dossier.trace dossier.row.status) :
    (last.Each fun dossier => Traced dossier.trace dossier.row.status) ∧ world.db.Records last := by
  cases performs with
  | rests same =>
      refine ⟨traced.sameBooks same, fun id new found => ?_⟩
      rw [same.dossier] at found
      rw [found]
      exact .inl ⟨rfl, rfl⟩
  | opens dto idempotencyKey row created first second creates checked entry opened reserved posting
      absent
      after others =>
      refine ⟨traced.of_changed after others .opened, fun id new found => ?_⟩
      by_cases same : id = row.id
      · subst same
        have unknown : world.db.dossier row.id = none := by
          unfold Database.dossier
          rw [absent, Option.map_none]
        rw [unknown]
        rw [after] at found
        cases found
        exact ⟨rfl, rfl⟩
      · rw [others id same] at found
        rw [found]
        exact .inl ⟨rfl, rfl⟩
  | continues id old new moves transition =>
      have held := traced id old moves.before
      have found := (Database.get?_of_dossier moves.before).1
      rw [← Database.dossier_row_id moves.before] at found
      have recorded := transition.records recording found held.not_initiated
      constructor
      · refine traced.moves moves fun _ => ?_
        rcases recorded with ⟨status, trace⟩ | ⟨allowed, trace⟩
        · rw [status, trace]
          exact held
        · rw [trace]
          exact held.step allowed
      · intro other dossier there
        by_cases same : other = id
        · subst same
          rw [moves.after] at there
          cases there
          rw [moves.before]
          rcases recorded with unchanged | ⟨allowed, trace⟩
          · exact .inl unchanged
          · exact .inr ⟨allows_changes allowed, trace⟩
        · rw [moves.others other same] at there
          rw [there]
          exact .inl ⟨rfl, rfl⟩

end Performs

/-- In every recording serial run the state history of each payment is faithful, and
the next operation adds one row for each status it changes. -/
theorem trail_faithful (deployment : Deployment) {initial world : World} (rest : initial.AtRest)
    (empty : initial.db.transactions.rows = [])
    (run : SerialRun deployment (fun world command => command.Recording world) initial world) :
    world.db.Each Dossier.Faithful ∧
      ∀ (who : ProcessId) (command : Command) (choices : List Delivery), command.Recording world →
        world.db.Records (backend.run who (command.program deployment) choices world).state.db := by
  have none : initial.db.Each fun dossier => Traced dossier.trace dossier.row.status := by
    intro id dossier found
    have member := Table.mem_of_get? (Database.get?_of_dossier found).1
    rw [empty] at member
    cases member
  obtain ⟨rested, traced⟩ := SerialRun.invariant
    (fun world => world.db.Each fun dossier => Traced dossier.trace dossier.row.status)
    (fun first second passed each => by rw [passed.db]; exact each)
    (fun world who command choices _ recording each performs =>
      (performs.records recording each).1) rest none run
  refine ⟨fun id dossier found => (traced id dossier found).faithful, ?_⟩
  intro who command choices recording
  exact ((Command.run_performs deployment rested who command choices).records recording traced).2

theorem trail_faithful_sample :
    let world := runAll sampleDeployment sampleCompletion sampleWorld
    world.db.Each Dossier.Faithful ∧
      ∀ (who : ProcessId) (command : Command) (choices : List Delivery), command.Recording world →
        world.db.Records
          (backend.run who (command.program sampleDeployment) choices world).state.db :=
  trail_faithful sampleDeployment sampleWorld_atRest rfl
    (runAll_run sampleCompletion (by decide +kernel))

/-- A payment in progress whose dispute is rejected. -/
def sampleRejection : List (Command × List Delivery) :=
  [(.createPayment samplePayment "key", []), (.resolveDispute 0 ⟨.reject⟩, [])]

/-- Rejecting a dispute of a payment in progress records that it was disputed. -/
theorem rejection_of_processing_breaks_trail :
    ¬ ∀ (deployment : Deployment) (initial world : World), initial.AtRest →
      initial.db.transactions.rows = [] →
      SerialRun deployment (fun _ _ => True) initial world → world.db.Each Dossier.Faithful := by
  intro claimed
  have run : SerialRun sampleDeployment (fun _ _ => True) sampleWorld
      (runAll sampleDeployment sampleRejection sampleWorld) :=
    runAll_run sampleRejection (by decide +kernel)
  have each := claimed sampleDeployment sampleWorld _ sampleWorld_atRest rfl run
  have trace : ((runAll sampleDeployment sampleRejection sampleWorld).db.dossier 0).map
      Dossier.trace = some [(none, "initiated"), (some "initiated", "processing"),
        (some "disputed", "completed")] := by decide +kernel
  obtain ⟨dossier, found, same⟩ := Option.map_eq_some_iff.mp trace
  have linked := (each 0 dossier found).linked
  rw [same] at linked
  exact absurd linked (by decide)

end Payroute
