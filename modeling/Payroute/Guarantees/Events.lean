import Payroute.Runs.Emissions

/-! # Events match committed transitions

In serial runs in which operations fail only before their commit, each payment has as
many final events as it has transitions to the final statuses, as long as no job is
given up for a payment that is not in progress, no dispute is rejected for one that
is, and no disputed payment is reported completed.
-/

namespace Payroute

open EffectSystem KeyedTable

/-- The statuses that are announced. -/
def announcedStatuses : List TransactionStatus := [.completed, .failed, .reversed]

theorem unannounced_processing : TransactionStatus.processing ∉ announcedStatuses := by decide

/-- The payment goes from `processing` to the status, or from any other to `reversed`. -/
def Database.Transits (first second : Database) (id : TransactionId) (target : TransactionStatus) :
    Prop :=
  second.statusOf id = some target ∧
    if target = .reversed then first.statusOf id ≠ some .reversed
    else first.statusOf id = some .processing

instance (first second : Database) (id : TransactionId) (target : TransactionStatus) :
    Decidable (first.Transits second id target) := inferInstanceAs (Decidable (_ ∧ _))

/-- How many events announce the status for the payment. -/
def announcements (events : List PaymentEvent) (id : TransactionId) (target : TransactionStatus) :
    Nat :=
  events.countP fun event => decide (event.announces = some (id, target))

/-- One step of a serial run in which the answers to commits are not lost. -/
inductive AnsweredStep (deployment : Deployment) (admits : World → Command → Prop) :
    World → World → Prop
  | command {world : World} (who : ProcessId) (command : Command) (choices : List Delivery)
      (admitted : admits world command)
      (answered : ∀ entry ∈ backend.calls who (command.program deployment) choices world,
        Acknowledged entry.1 entry.2) :
      AnsweredStep deployment admits world
        (backend.run who (command.program deployment) choices world).state
  | elapse {world next : World} (elapses : world.Elapses next) :
      AnsweredStep deployment admits world next

/-- A serial run with the number of transitions each payment made in it. -/
inductive AnsweredRun (deployment : Deployment) (admits : World → Command → Prop) :
    World → World → (TransactionId → TransactionStatus → Nat) → Prop
  | refl (world : World) : AnsweredRun deployment admits world world fun _ _ => 0
  | tail {first middle last : World} {transitions : TransactionId → TransactionStatus → Nat}
      (run : AnsweredRun deployment admits first middle transitions)
      (step : AnsweredStep deployment admits middle last) :
      AnsweredRun deployment admits first last fun id target =>
        transitions id target + if middle.db.Transits last.db id target then 1 else 0

/-- What the operation does is what it announces: an exhausted job is one of a payment in
progress, a dispute is not rejected for one in progress, and a webhook does not report
a disputed payment completed. -/
def Command.Matched (deployment : Deployment) (world : World) (command : Command) : Prop :=
  command.Exhausted world ∧ match command with
    | .resolveDispute id dto => ¬ (dto.action = .reject ∧ world.db.statusOf id = some .processing)
    | .processWebhook payload rawBody signature => ¬ (payload.status = "completed" ∧
        WebhooksService.verifySignature deployment rawBody signature = true ∧
        world.db.webhookEvents.get? (payload.reference, payload.status) = none ∧
        (world.db.byReference payload.reference).map Transaction.status = some .disputed)
    | _ => True

instance (world : World) (command : Command) : Decidable (command.Exhausted world) :=
  match command with
  | .onProviderJobExhausted jobId _ =>
      inferInstanceAs (Decidable (∀ job ∈ world.jobs.get? jobId, _))
  | .createPayment _ _ | .process _ | .processWebhook _ _ _ | .refundPayment _ _
  | .raiseDispute _ _ | .resolveDispute _ _ | .retryStuckPayments | .cleanupExpiredIdempotencyKeys
  | .cleanupOldProcessedWebhookEvents => .isTrue trivial

instance (deployment : Deployment) (world : World) (command : Command) :
    Decidable (command.Matched deployment world) :=
  match command with
  | .resolveDispute _ _ | .processWebhook _ _ _ | .createPayment _ _ | .process _
  | .onProviderJobExhausted _ _ | .refundPayment _ _ | .raiseDispute _ _
  | .retryStuckPayments | .cleanupExpiredIdempotencyKeys
  | .cleanupOldProcessedWebhookEvents =>
      inferInstanceAs (Decidable (_ ∧ _))

namespace Database

variable {first second : Database} {id other : TransactionId} {old new : Dossier}
  {target : TransactionStatus}

/-- A status that stays is no transition. -/
theorem not_transits (announced : target ∈ announcedStatuses)
    (same : second.statusOf id = first.statusOf id) : ¬ first.Transits second id target := by
  rintro ⟨reached, before⟩
  rw [same] at reached
  by_cases reversed : target = .reversed
  · rw [if_pos reversed, reached, reversed] at before
    exact before rfl
  · rw [if_neg reversed, reached] at before
    exact unannounced_processing (Option.some.inj before ▸ announced)

end Database

/-- An event more. -/
theorem announcements_concat (events : List PaymentEvent) (event : PaymentEvent)
    (id : TransactionId) (target : TransactionStatus) :
    announcements (events ++ [event]) id target = announcements events id target +
      if event.announces = some (id, target) then 1 else 0 := by
  unfold announcements
  rw [List.countP_append, List.countP_singleton]
  simp only [decide_eq_true_eq]

section Steps

variable {deployment : Deployment} {world last : World} {command : Command} {id : TransactionId}
  {target : TransactionStatus}

/-- A payment that moved made one transition, if any did. -/
theorem Database.Moves.transits {first second : Database} {old new : Dossier}
    (moves : first.Moves second id old new) (announced : target ∈ announcedStatuses)
    (other : TransactionId) : first.Transits second other target ↔
      other = id ∧ new.row.status = target ∧
        if target = .reversed then old.row.status ≠ .reversed
        else old.row.status = .processing := by
  by_cases same : other = id
  · subst same
    unfold Database.Transits
    rw [Database.statusOf_of_dossier moves.before, Database.statusOf_of_dossier moves.after]
    simp
  · have unchanged := Database.statusOf_congr (moves.others other same)
    constructor
    · exact fun transits => (Database.not_transits announced unchanged transits).elim
    · exact fun holds => (same holds.1).elim

theorem Dossier.Continues.status {old new : Dossier} {patch : TransactionPatch}
    {postings : List Posting} {steps : List (Option String × String)}
    (continues : old.Continues new patch postings steps) :
    new.row.status = (patch.apply old.row).status := congrArg Transaction.status continues.row

/-- Every step changes the dossier. -/
theorem Command.Transition.changes {old new : Dossier}
    (transition : command.Transition deployment old new) : new ≠ old := by
  intro same
  have extended : ∀ {patch : TransactionPatch} {postings : List Posting}
      {step : Option String × String}, ¬ old.Continues new patch postings [step] := by
    intro patch postings step continues
    have trace := continues.trace
    rw [same] at trace
    exact List.cons_ne_nil _ _ (List.append_right_eq_self.mp trace.symm)
  cases transition with
  | submit data reference named eligible continues =>
      have row := continues.row
      rw [same] at row
      have reference := congrArg Transaction.providerReference row
      rw [eligible.2] at reference
      cases reference
  | complete _ _ _ _ _ _ _ _ continues => exact extended continues
  | fail _ _ _ _ _ _ _ continues => exact extended continues
  | note _ _ _ _ _ _ _ continues => exact extended continues
  | exhaust _ _ _ continues => exact extended continues
  | refund _ _ continues => exact extended continues
  | dispute _ _ continues => exact extended continues
  | reverse _ continues => exact extended continues
  | reject _ continues => exact extended continues

theorem Command.Proceeds.changes (proceeds : command.Proceeds deployment world id last.db) :
    ¬ world.db.SameBooks last.db := by
  intro same
  obtain ⟨old, new, moves, transition⟩ := proceeds
  have unchanged := same.dossier id
  rw [moves.before, moves.after] at unchanged
  exact transition.changes (Option.some.inj unchanged)

/-- A mute operation makes no transition that is announced. -/
theorem Command.Performs.mute (performs : command.Performs deployment world last.db)
    (mute : command.Mute) (matched : command.Matched deployment world)
    (announced : target ∈ announcedStatuses) : ¬ world.db.Transits last.db id target := by
  cases performs with
  | rests same => exact Database.not_transits announced (same.statusOf id)
  | opens dto idempotencyKey row created first second creates checked entry opened reserved posting
      absent after others =>
      by_cases same : id = row.id
      · rintro ⟨reached, _⟩
        rw [same, Database.statusOf_of_dossier after] at reached
        have processing : TransactionStatus.processing = target := Option.some.inj reached
        exact unannounced_processing (processing ▸ announced)
      · exact Database.not_transits announced (Database.statusOf_congr (others id same))
  | continues moved old new moves transition =>
      rw [moves.transits announced]
      rintro ⟨rfl, reached, left⟩
      have stays : new.row.status ≠ old.row.status := by
        intro same
        rw [same] at reached
        by_cases reversed : target = .reversed
        · rw [if_pos reversed, reached] at left
          exact left reversed
        · rw [if_neg reversed, reached] at left
          exact unannounced_processing (left ▸ announced)
      cases transition with
      | submit data reference named eligible continues => exact stays continues.status
      | complete payload rawBody signature completedAt signed status _ _ _ => exact mute.1 status
      | fail payload rawBody signature signed status _ _ _ => exact mute.2 status
      | note payload rawBody signature _ _ _ _ continues => exact stays continues.status
      | exhaust _ _ _ _ => exact mute.elim
      | refund _ _ _ => exact mute.elim
      | dispute dto allowed continues =>
          have disputed : TransactionStatus.disputed = target := continues.status.symm.trans reached
          rw [← disputed] at announced
          exact absurd announced (by decide)
      | reverse _ _ => cases mute
      | reject allowed continues =>
          have completed : TransactionStatus.completed = target :=
            continues.status.symm.trans reached
          rw [← completed, if_neg (by decide)] at left
          have before := Database.statusOf_of_dossier moves.before
          rw [← Database.dossier_row_id moves.before, left] at before
          exact matched.2 ⟨rfl, before⟩

/-- An operation emits the events of the transition it makes. -/
theorem Command.Emits.counts (emits : command.Emits deployment world last)
    (performs : command.Performs deployment world last.db)
    (matched : command.Matched deployment world)
    (begun : world.db.Each fun dossier => dossier.row.status ≠ .initiated)
    (announced : target ∈ announcedStatuses) :
    announcements last.emitted id target = announcements world.emitted id target +
      if world.db.Transits last.db id target then 1 else 0 := by
  rcases emits with ⟨same, books | mute⟩ |
    ⟨moved, event, emitted, announces, old, new, moves, transition⟩
  · rw [same, if_neg (Database.not_transits announced (books.statusOf id)), Nat.add_zero]
  · rw [same, if_neg (performs.mute mute matched announced), Nat.add_zero]
  · have found := Database.statusOf_of_dossier moves.before
    rw [emitted, announcements_concat]
    congr 1
    have matches' : event.announces = some (id, target) ↔ world.db.Transits last.db id target := by
      rw [moves.transits announced]
      have final : ∀ reached : TransactionStatus, event.announces = some (moved, reached) →
          new.row.status = reached →
          (if reached = .reversed then old.row.status ≠ .reversed
            else old.row.status = .processing) →
          (event.announces = some (id, target) ↔ id = moved ∧ new.row.status = target ∧
            if target = .reversed then old.row.status ≠ .reversed
            else old.row.status = .processing) := by
        intro reached about status left
        rw [about, status]
        constructor
        · intro same
          cases same
          exact ⟨rfl, rfl, left⟩
        · rintro ⟨rfl, rfl, _⟩
          rfl
      have held := begun moved old moves.before
      have named := Database.dossier_row_id moves.before
      cases transition with
      | submit data reference _ eligible continues =>
          have none : event.announces = none := announces
          rw [none]
          constructor
          · exact fun absurd => by cases absurd
          · rintro ⟨_, reached, left⟩
            have processing : TransactionStatus.processing = target :=
              (continues.status.trans eligible.1).symm.trans reached
            exact (unannounced_processing (processing ▸ announced)).elim
      | complete payload rawBody signature completedAt signed status referenced allowed continues =>
          obtain ⟨absent, looked, ⟨_, about⟩ | ⟨failed, _⟩⟩ := announces
          · refine final .completed about continues.status ?_
            rw [if_neg (by decide)]
            rcases allowed with processing | disputed
            · exact processing
            · refine (matched.2 ⟨status, signed, absent, ?_⟩).elim
              obtain ⟨row, read, same⟩ := Option.map_eq_some_iff.mp looked
              have there := Database.byReference_get? read
              have before := (Database.get?_of_dossier moves.before).1
              rw [same, before] at there
              rw [read, Option.map_some, ← Option.some.inj there, disputed]
          · rw [status] at failed
            exact absurd failed (by decide)
      | fail payload rawBody signature signed status referenced allowed continues =>
          obtain ⟨absent, looked, ⟨completed, _⟩ | ⟨_, about⟩⟩ := announces
          · rw [status] at completed
            exact absurd completed (by decide)
          · refine final .failed about continues.status ?_
            rw [if_neg (by decide)]
            exact allowed.resolve_left held
      | note payload rawBody signature signed uncompleted unfailed allowed continues =>
          obtain ⟨_, _, ⟨completed, _⟩ | ⟨failed, _⟩⟩ := announces
          · exact (uncompleted completed).elim
          · exact (unfailed failed).elim
      | exhaust jobId failedReason allowed continues =>
          refine final .failed announces continues.status ?_
          rw [if_neg (by decide)]
          exact allowed
      | refund dto allowed continues =>
          refine final .reversed announces continues.status ?_
          rw [if_pos rfl]
          exact Ne.symm (allows_changes allowed)
      | dispute dto allowed continues => exact announces.elim
      | reverse allowed continues =>
          refine final .reversed announces.2 continues.status ?_
          rw [if_pos rfl]
          exact Ne.symm (allows_changes allowed)
      | reject allowed continues => cases announces.1
    simp only [matches']

end Steps

/-- No operation leaves a payment initiated. -/
theorem Command.Performs.begun {deployment : Deployment} {world : World} {command : Command}
    {last : Database} (performs : command.Performs deployment world last)
    (begun : world.db.Each fun dossier => dossier.row.status ≠ .initiated) :
    last.Each fun dossier => dossier.row.status ≠ .initiated := by
  cases performs with
  | rests same => exact begun.sameBooks same
  | opens dto idempotencyKey row created first second creates checked entry opened reserved posting
      absent after others =>
      exact begun.of_changed after others TransactionStatus.noConfusion
  | continues id old new moves transition =>
      refine begun.moves moves fun held => ?_
      cases transition with
      | submit _ _ _ _ continues =>
          rw [continues.status]
          exact held
      | note _ _ _ _ _ _ _ continues =>
          rw [continues.status]
          exact held
      | complete _ _ _ _ _ _ _ _ continues | fail _ _ _ _ _ _ _ continues
      | exhaust _ _ _ continues | refund _ _ continues | dispute _ _ continues
      | reverse _ continues | reject _ continues =>
          rw [continues.status]
          exact TransactionStatus.noConfusion

section Runs

variable {deployment : Deployment} {initial last next : World}
  {transitions : TransactionId → TransactionStatus → Nat}

/-- What one step adds. -/
theorem AnsweredStep.counts
    (step : AnsweredStep deployment (fun world command => command.Matched deployment world) last
      next) (rest : last.AtRest)
        (begun : last.db.Each fun dossier => dossier.row.status ≠ .initiated) :
    next.AtRest ∧ (next.db.Each fun dossier => dossier.row.status ≠ .initiated) ∧
      (∀ id, ∀ target ∈ announcedStatuses, announcements next.emitted id target =
        announcements last.emitted id target +
          if last.db.Transits next.db id target then 1 else 0) ∧
      (last.db.SameBooks next.db → next.emitted = last.emitted) := by
  cases step with
  | command who command choices matched answered =>
      have performs := Command.run_performs deployment rest who command choices
      have emits := Command.run_emits rest command matched.1 choices answered
      refine ⟨(Command.run_alone deployment rest who command choices).1, performs.begun begun,
        fun id target announced => emits.counts performs matched begun announced, fun same => ?_⟩
      rcases emits with ⟨quiet, _⟩ | ⟨_, _, _, _, proceeds⟩
      · exact quiet
      · exact (proceeds.changes same).elim
  | elapse elapses =>
      have aside := World.Elapses.aside elapses
      have emitted := World.Elapses.emitted elapses
      refine ⟨rest.aside aside, ?_, fun id target announced => ?_, fun _ => emitted⟩
      · rw [aside.db]
        exact begun
      · have unchanged : next.db.statusOf id = last.db.statusOf id := by rw [aside.db]
        rw [emitted, if_neg (Database.not_transits announced unchanged), Nat.add_zero]

end Runs

/-- In every serial run whose operations do what they announce and whose commits are
answered, each payment has as many final events as transitions, and what leaves the books
alone emits nothing. -/
theorem events_match (deployment : Deployment) {initial last : World}
    {transitions : TransactionId → TransactionStatus → Nat} (rest : initial.AtRest)
    (empty : initial.db.transactions.rows = []) (quiet : initial.emitted = [])
    (run : AnsweredRun deployment (fun world command => command.Matched deployment world) initial
      last transitions) :
    (∀ id, ∀ target ∈ announcedStatuses,
      announcements last.emitted id target = transitions id target) ∧
    ∀ next, AnsweredStep deployment (fun world command => command.Matched deployment world) last
      next → last.db.SameBooks next.db → next.emitted = last.emitted := by
  have kept : last.AtRest ∧ (last.db.Each fun dossier => dossier.row.status ≠ .initiated) ∧
      ∀ id, ∀ target ∈ announcedStatuses,
        announcements last.emitted id target = transitions id target := by
    induction run with
    | refl =>
        refine ⟨rest, fun id dossier found => ?_, fun id target _ => ?_⟩
        · have member := Table.mem_of_get? (Database.get?_of_dossier found).1
          rw [empty] at member
          cases member
        · rw [quiet]
          rfl
    | tail earlier step ih =>
        obtain ⟨rested, begun, counted⟩ := ih
        obtain ⟨rests, remains, counts, _⟩ := step.counts rested begun
        refine ⟨rests, remains, fun id target announced => ?_⟩
        rw [counts id target announced, counted id target announced]
  obtain ⟨rested, begun, counted⟩ := kept
  exact ⟨counted, fun next step => (step.counts rested begun).2.2.2⟩

/-! ## Concrete runs -/

/-- The answers to all commits arrive. -/
def AnsweredAll (deployment : Deployment) : List (Command × List Delivery) → World → Prop
  | [], _ => True
  | (command, choices) :: rest, world =>
      (∀ entry ∈ backend.calls 0 (command.program deployment) choices world,
        Acknowledged entry.1 entry.2) ∧
      AnsweredAll deployment rest (backend.run 0 (command.program deployment) choices world).state

instance AnsweredAll.decidable (deployment : Deployment) :
    (commands : List (Command × List Delivery)) → (world : World) →
      Decidable (AnsweredAll deployment commands world)
  | [], _ => .isTrue trivial
  | (command, choices) :: rest, world =>
      have := AnsweredAll.decidable deployment rest
        (backend.run 0 (command.program deployment) choices world).state
      inferInstanceAs (Decidable (_ ∧ _))

/-- The transitions of a concrete run. -/
def tally (deployment : Deployment) (id : TransactionId) (target : TransactionStatus) :
    List (Command × List Delivery) → World → Nat
  | [], _ => 0
  | (command, choices) :: rest, world =>
      let next := (backend.run 0 (command.program deployment) choices world).state
      (if world.db.Transits next.db id target then 1 else 0) + tally deployment id target rest next

theorem runAll_answered {deployment : Deployment} {admits : World → Command → Prop}
    (commands : List (Command × List Delivery)) {first world : World}
    {transitions : TransactionId → TransactionStatus → Nat}
    (run : AnsweredRun deployment admits first world transitions)
    (admitted : AdmittedAll deployment admits commands world)
    (answered : AnsweredAll deployment commands world) :
    AnsweredRun deployment admits first (runAll deployment commands world) fun id target =>
      transitions id target + tally deployment id target commands world := by
  induction commands generalizing world transitions with
  | nil => exact run
  | cons entry rest ih =>
      obtain ⟨command, choices⟩ := entry
      have step := run.tail (.command 0 command choices admitted.1 answered.1)
      have onward := ih step admitted.2 answered.2
      simp only [Nat.add_assoc] at onward
      exact onward

/-- Each event of a completed payment is that of a transition. -/
theorem events_match_sample :
    let last := runAll sampleDeployment sampleCompletion sampleWorld
    announcements last.emitted 0 .completed = 1 ∧
      ∀ id, ∀ target ∈ announcedStatuses, announcements last.emitted id target =
        0 + tally sampleDeployment id target sampleCompletion sampleWorld := by
  intro last
  have run : AnsweredRun sampleDeployment
      (fun world command => command.Matched sampleDeployment world) sampleWorld last
      fun id target => 0 + tally sampleDeployment id target sampleCompletion sampleWorld :=
    runAll_answered sampleCompletion (.refl sampleWorld) (by decide +kernel) (by decide +kernel)
  exact ⟨by decide +kernel, (events_match sampleDeployment sampleWorld_atRest rfl rfl run).1⟩

/-- A job that is given up twice, by two instances of the backend. -/
def sampleExhaustion : List (Command × List Delivery) :=
  [(.onProviderJobExhausted (.serial 0) "failed", []),
    (.onProviderJobExhausted (.serial 0) "failed", [])]

/-- The second instance announces a failure of a payment that has failed already. -/
theorem second_exhaustion_announces_failure :
    ¬ ∀ (deployment : Deployment) (initial last : World)
      (transitions : TransactionId → TransactionStatus → Nat), initial.AtRest →
      initial.db.transactions.rows = [] → initial.emitted = [] →
      AnsweredRun deployment (fun _ _ => True) initial last transitions →
      ∀ id, ∀ target ∈ announcedStatuses,
        announcements last.emitted id target = transitions id target := by
  intro claimed
  let creation : List (Command × List Delivery) := [(.createPayment samplePayment "key", [])]
  let created := runAll sampleDeployment creation sampleWorld
  have opened : AnsweredRun sampleDeployment (fun _ _ => True) sampleWorld created
      fun id target => 0 + tally sampleDeployment id target creation sampleWorld :=
    runAll_answered creation (.refl sampleWorld) (by decide +kernel) (by decide +kernel)
  have run := runAll_answered sampleExhaustion (opened.tail (.elapse created.giveUp_elapses))
    (by decide +kernel) (by decide +kernel)
  have same := claimed sampleDeployment sampleWorld _ _ sampleWorld_atRest rfl rfl run 0 .failed
    (by decide)
  exact absurd same (by decide +kernel)

end Payroute
