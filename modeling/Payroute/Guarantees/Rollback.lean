import Payroute.Guarantees.Agreement
import Payroute.Guarantees.Trail
import Payroute.Model.Migrations

/-! # Rolling back the disputed status

The rollback fails on every database that was migrated: the default of the status
column stays of the old type. Without the default it would remove history rows by what
they mention and cast the statuses on their own, and what is left is the history of the
payments whose disputes were rejected.
-/

namespace Payroute

open EffectSystem KeyedTable

/-- Every row goes on from the one before it, and the last one ends in the status. -/
structure Dossier.Chained (dossier : Dossier) : Prop where
  linked : dossier.trace.IsChain fun earlier later => later.1 = some earlier.2
  ends : dossier.trace.getLast?.map Prod.snd = some dossier.row.status.text

instance (dossier : Dossier) : Decidable dossier.Chained :=
  decidable_of_iff (dossier.trace.IsChain (fun earlier later => later.1 = some earlier.2) ∧
      dossier.trace.getLast?.map Prod.snd = some dossier.row.status.text)
    ⟨fun ⟨linked, ends⟩ => ⟨linked, ends⟩, fun ⟨linked, ends⟩ => ⟨linked, ends⟩⟩

/-- The rollback succeeds, every payment is still there, and each history is a chain
that ends in the status. -/
def RollbackPreserves (first : Catalog) : Prop :=
  ∃ last, AddDisputedStatus.down first = .ok last ∧
    (∀ id, first.tables.transactions.get? id ≠ none → last.tables.transactions.get? id ≠ none) ∧
    last.tables.Each Dossier.Chained

/-! ## Histories without the disputes -/

/-- The steps of a history that do not mention the disputed status. -/
def undisputedSteps (trace : List (Option String × String)) : List (Option String × String) :=
  trace.filter fun step => decide (step.2 ≠ "disputed" ∧ step.1 ≠ some "disputed")

/-- A dispute that was granted. -/
def chargebackStep : Option String × String := stepOf .disputed TransactionStatus.reversed.text

theorem undisputedSteps_append (first second : List (Option String × String)) :
    undisputedSteps (first ++ second) = undisputedSteps first ++ undisputedSteps second :=
  List.filter_append ..

/-- The status a payment had before its dispute. -/
def TransactionStatus.undisputed : TransactionStatus → TransactionStatus
  | .disputed => .completed
  | status => status

section Traced

variable {trace : List (Option String × String)} {current next status : TransactionStatus}

theorem undisputedSteps_step (current next : TransactionStatus) :
    undisputedSteps [(some current.text, next.text)] =
      if current = .disputed ∨ next = .disputed then []
      else [(some current.text, next.text)] := by
  cases current <;> cases next <;> rfl

/-- What a step along the transition table leaves, unless it grants a dispute. -/
theorem TransactionStatus.undisputed_step (allowed : current.Allows next.text)
    (rejected : ¬ (current = .disputed ∧ next = .reversed)) :
    if current = .disputed ∨ next = .disputed then next.undisputed = current.undisputed
    else current.undisputed = current ∧ next.undisputed = next := by
  rw [TransactionStatus.allows_text_iff] at allowed
  revert allowed rejected
  cases current <;> cases next <;> decide

/-- Without a granted dispute, the remaining rows are a chain. -/
theorem Traced.undisputed (traced : Traced trace status) (rejected : chargebackStep ∉ trace) :
    (undisputedSteps trace).IsChain (fun earlier later => later.1 = some earlier.2) ∧
      (undisputedSteps trace).getLast?.map Prod.snd = some status.undisputed.text := by
  induction traced with
  | opened => exact ⟨.cons_cons rfl (.singleton _), rfl⟩
  | @step trace current next traced allowed ih =>
      rw [List.mem_append, not_or, List.mem_singleton] at rejected
      obtain ⟨before, now⟩ := rejected
      obtain ⟨linked, ends⟩ := ih before
      have uncharged : ¬ (current = .disputed ∧ next = .reversed) := by
        rintro ⟨rfl, rfl⟩
        exact now rfl
      have leaves := TransactionStatus.undisputed_step allowed uncharged
      rw [undisputedSteps_append, undisputedSteps_step]
      by_cases mentions : current = .disputed ∨ next = .disputed
      · rw [if_pos mentions] at leaves ⊢
        rw [List.append_nil, leaves]
        exact ⟨linked, ends⟩
      · rw [if_neg mentions] at leaves ⊢
        rw [leaves.1] at ends
        rw [leaves.2]
        refine ⟨linked.append (.singleton _) fun last final step first => ?_, ?_⟩
        · rw [Option.mem_def.mp final, Option.map_some] at ends
          rw [List.head?_cons, Option.mem_some] at first
          rw [← first, ← Option.some.inj ends]
        · rw [List.getLast?_append_of_ne_nil _ (List.cons_ne_nil _ _)]
          rfl

/-- A granted dispute was the last step. -/
theorem Traced.granted (traced : Traced trace status) (granted : chargebackStep ∈ trace) :
    status = .reversed ∧ ∃ before, trace = before ++ [chargebackStep] ∧
      Traced before .disputed ∧ chargebackStep ∉ before := by
  induction traced with
  | opened => exact absurd granted (by decide)
  | @step trace current next traced allowed ih =>
      by_cases earlier : chargebackStep ∈ trace
      · obtain ⟨rfl, _⟩ := ih earlier
        exact absurd allowed (by cases next <;> decide)
      · have last : chargebackStep = (some current.text, next.text) := by
          rcases List.mem_append.mp granted with absurd | member
          · exact (earlier absurd).elim
          · exact List.mem_singleton.mp member
        have disputed : current = .disputed :=
          TransactionStatus.text_injective (Option.some.inj (congrArg Prod.fst last)).symm
        have reversed : next = .reversed :=
          TransactionStatus.text_injective (congrArg Prod.snd last).symm
        subst disputed reversed
        exact ⟨rfl, trace, rfl, traced, earlier⟩

end Traced

/-! ## Histories of serial runs -/

/-- The history does not end in the status, or breaks off somewhere. -/
def Dossier.Astray (dossier : Dossier) : Prop :=
  ¬ dossier.trace.IsChain (fun earlier later => later.1 = some earlier.2) ∨
    dossier.row.status ≠ .processing ∧
      ∃ step ∈ dossier.trace.getLast?, step.2 ≠ dossier.row.status.text

theorem Dossier.Chained.not_astray {dossier : Dossier} (chained : dossier.Chained) :
    ¬ dossier.Astray := by
  rintro (broken | ⟨_, step, last, differs⟩)
  · exact broken chained.linked
  · have ends := chained.ends
    rw [Option.mem_def.mp last] at ends
    exact differs (Option.some.inj ends)

/-- The payment has left its first status, and its history is traced or has gone
astray. -/
structure Dossier.Recorded (dossier : Dossier) : Prop where
  opened : dossier.row.status ≠ .initiated
  history : Traced dossier.trace dossier.row.status ∨ dossier.Astray

/-- No status leads back to the first one. -/
theorem TransactionStatus.Allows.opened {current next : TransactionStatus}
    (allowed : current.Allows next.text) : next ≠ .initiated := by
  rw [TransactionStatus.allows_text_iff] at allowed
  rintro rfl
  revert allowed
  cases current <;> decide

section Recorded

variable {old new : Dossier} {patch : TransactionPatch} {postings : List Posting}
  {step : Option String × String}

/-- A step that does not go on from the last one breaks the history. -/
theorem Dossier.Continues.breaks (continues : old.Continues new patch postings [step])
    (last : ∃ earlier ∈ old.trace.getLast?, step.1 ≠ some earlier.2) : new.Astray := by
  left
  rw [continues.trace]
  intro linked
  obtain ⟨earlier, ends, differs⟩ := last
  exact differs ((List.isChain_append.mp linked).2.2 earlier ends step rfl)

/-- A history that has gone astray does not come back. -/
theorem Dossier.Astray.continues (astray : old.Astray)
    (continues : old.Continues new patch postings [step])
    (source : old.row.status ≠ .processing → step.1 = some old.row.status.text) : new.Astray := by
  rcases astray with broken | ⟨left, last, ends, differs⟩
  · left
    rw [continues.trace]
    intro linked
    exact broken (List.isChain_append.mp linked).1
  · refine continues.breaks ⟨last, ends, ?_⟩
    rw [source left]
    intro same
    exact differs (Option.some.inj same).symm

/-- A recorded change of the status. -/
theorem Dossier.Recorded.turns {next : TransactionStatus} (recorded : old.Recorded)
    (continues : old.Continues new patch postings [stepOf old.row.status next.text])
    (patched : patch.status = some next) (allowed : old.row.status.Allows next.text) :
    new.Recorded := by
  have turned := continues.turns next patched allowed
  refine ⟨turned.1.opened, ?_⟩
  rcases recorded.history with traced | astray
  · left
    rw [turned.2]
    exact traced.step turned.1
  · exact .inr (astray.continues continues fun _ => rfl)

/-- A row about a status the payment does not take. -/
theorem Dossier.Recorded.notes {next : TransactionStatus} (recorded : old.Recorded)
    (continues : old.Continues new {} [] [stepOf old.row.status next.text])
    (allowed : old.row.status.Allows next.text) (unprocessed : old.row.status ≠ .processing) :
    new.Recorded := by
  have row : new.row = old.row := continues.row
  refine ⟨row ▸ recorded.opened, .inr ?_⟩
  right
  refine ⟨row ▸ unprocessed, stepOf old.row.status next.text, ?_, ?_⟩
  · rw [continues.trace, List.getLast?_append_of_ne_nil _ (List.cons_ne_nil _ _)]
    rfl
  · rw [row]
    exact fun same => allows_changes allowed (TransactionStatus.text_injective same)

/-- Rejecting a dispute of a payment in progress breaks its history. -/
theorem Dossier.Recorded.misread (recorded : old.Recorded)
    (processing : old.row.status = .processing)
    (continues : old.Continues new { status := some .completed } []
      [stepOf .disputed TransactionStatus.completed.text]) : new.Recorded := by
  have status : new.row.status = .completed := by
    rw [continues.row]
    rfl
  refine ⟨by rw [status]; decide, .inr ?_⟩
  rcases recorded.history with traced | astray
  · have ends := traced.ends
    obtain ⟨last, reached, text⟩ := Option.map_eq_some_iff.mp ends
    refine continues.breaks ⟨last, reached, ?_⟩
    rw [text, processing]
    decide
  · exact astray.continues continues fun unprocessed => (unprocessed processing).elim

end Recorded

/-- Every step of a payment keeps its history traced or astray. -/
theorem Command.Transition.recorded {deployment : Deployment} {command : Command}
    {old new : Dossier} (transition : command.Transition deployment old new)
    (recorded : old.Recorded) : new.Recorded := by
  cases transition with
  | submit data reference named eligible continues =>
      obtain ⟨row, _, trace⟩ := continues
      obtain ⟨opened, history⟩ := recorded
      unfold Dossier.Astray at history
      refine ⟨?_, ?_⟩
      · rw [row]
        exact opened
      · unfold Dossier.Astray
        rw [row, trace, List.append_nil]
        exact history
  | complete payload rawBody signature completedAt signed status referenced allowed continues =>
      have step : old.row.status.Allows TransactionStatus.completed.text := by
        rcases allowed with processing | disputed
        · rw [processing]
          decide
        · rw [disputed]
          decide
      have named : payload.status = TransactionStatus.completed.text := status
      rw [named] at continues
      exact recorded.turns continues rfl step
  | fail payload rawBody signature signed status referenced allowed continues =>
      have step : old.row.status.Allows TransactionStatus.failed.text := by
        rw [allowed.resolve_left recorded.opened]
        decide
      have named : payload.status = TransactionStatus.failed.text := status
      rw [named] at continues
      exact recorded.turns continues rfl step
  | note payload rawBody signature signed uncompleted unfailed allowed continues =>
      obtain ⟨next, listed, text⟩ := List.mem_map.mp allowed
      rw [← text] at allowed continues uncompleted unfailed
      refine recorded.notes continues allowed fun processing => ?_
      rw [processing] at listed
      rcases List.mem_cons.mp listed with rfl | last
      · exact uncompleted rfl
      · rw [List.mem_singleton.mp last] at unfailed
        exact unfailed rfl
  | exhaust jobId failedReason allowed continues =>
      have step : old.row.status.Allows TransactionStatus.failed.text := by
        rw [allowed]
        decide
      rw [← allowed] at continues
      exact recorded.turns continues rfl step
  | refund dto allowed continues => exact recorded.turns continues rfl allowed
  | dispute dto allowed continues =>
      have step : old.row.status.Allows TransactionStatus.disputed.text := by
        rw [allowed]
        decide
      exact recorded.turns continues rfl step
  | reverse allowed continues => exact recorded.turns continues rfl allowed
  | reject allowed continues =>
      rcases allowed with processing | disputed
      · exact recorded.misread processing continues
      · have step : old.row.status.Allows TransactionStatus.completed.text := by
          rw [disputed]
          decide
        rw [← disputed] at continues
        exact recorded.turns continues rfl step

section Runs

variable {deployment : Deployment} {initial world : World}

theorem Command.Performs.recorded {command : Command} {last : Database}
    (performs : command.Performs deployment world last)
    (recorded : world.db.Each Dossier.Recorded) : last.Each Dossier.Recorded := by
  cases performs with
  | rests same => exact recorded.sameBooks same
  | opens dto key row created first second creates checked entry opened reserved posting absent
      after others =>
      refine recorded.of_changed after others ⟨?_, .inl .opened⟩
      exact fun absurd => by cases absurd
  | continues id old new moves transition =>
      exact recorded.moves moves fun held => transition.recorded held

/-- The histories that serial runs leave. -/
theorem SerialRun.histories {admits : World → Command → Prop} (rest : initial.AtRest)
    (empty : initial.db.transactions.rows = [])
    (run : SerialRun deployment admits initial world) : world.db.Each Dossier.Recorded := by
  have none : initial.db.Each Dossier.Recorded := by
    intro id dossier found
    have member := Table.mem_of_get? (Database.get?_of_dossier found).1
    rw [empty] at member
    cases member
  exact (SerialRun.invariant (fun world => world.db.Each Dossier.Recorded)
    (fun first second passed each => by rw [passed.db]; exact each)
    (fun world who command choices _ _ each performs => performs.recorded each) rest none run).2

end Runs

/-! ## The rollback -/

/-- What the rollback leaves of a history. -/
theorem trace_filter (history : List TransactionStateHistory) :
    (history.filter fun row => !decide row.MentionsDispute).map
        (fun row => (row.fromState, row.toState)) =
      undisputedSteps (history.map fun row => (row.fromState, row.toState)) := by
  unfold undisputedSteps
  rw [List.filter_map]
  congr 1
  apply List.filter_congr
  intro row _
  have same : ¬ row.MentionsDispute ↔ row.toState ≠ "disputed" ∧ row.fromState ≠ some "disputed" :=
    not_or
  rw [← decide_not]
  exact decide_eq_decide.mpr same

/-- What the rollback leaves of a payment. -/
theorem dossier_deleteDisputeHistory (db : Database) (id : TransactionId) :
    (AddDisputedStatus.deleteDisputeHistory db).dossier id = (db.dossier id).map fun dossier =>
      { dossier with
        history := dossier.history.filter fun row => !decide row.MentionsDispute } := by
  unfold Database.dossier
  rw [Option.map_map]
  have history : (AddDisputedStatus.deleteDisputeHistory db).historyOf id =
      (db.historyOf id).filter fun row => !decide row.MentionsDispute := by
    unfold AddDisputedStatus.deleteDisputeHistory Database.historyOf
    rw [List.filter_filter, List.filter_filter]
    congr 1
    funext row
    exact Bool.and_comm _ _
  rw [history]
  rfl

/-- The history of a payment survives the rollback where the payment is not disputed and
no dispute of it was granted. -/
theorem Traced.survives {trace : List (Option String × String)} {status : TransactionStatus}
    (traced : Traced trace status) (undisputed : status ≠ .disputed) :
    (undisputedSteps trace).IsChain (fun earlier later => later.1 = some earlier.2) ∧
        (undisputedSteps trace).getLast?.map Prod.snd = some status.text ↔
      chargebackStep ∉ trace := by
  constructor
  · rintro ⟨_, ends⟩ granted
    obtain ⟨rfl, before, rfl, disputed, rejected⟩ := traced.granted granted
    have nothing : undisputedSteps [chargebackStep] = [] := rfl
    have left := (disputed.undisputed rejected).2
    rw [undisputedSteps_append, nothing, List.append_nil, left] at ends
    exact absurd (Option.some.inj ends) (by decide)
  · intro rejected
    have chain := traced.undisputed rejected
    have same : status.undisputed = status := by
      cases status with
      | disputed => exact (undisputed rfl).elim
      | _ => rfl
    rw [same] at chain
    exact chain

/-- If the default were dropped first, the rollback after a serial run whose histories are
chains would preserve what the data say exactly where no payment is disputed and no
dispute was granted. -/
theorem rollback_without_default_iff {deployment : Deployment}
    {admits : World → Command → Prop} {initial last : World} (rest : initial.AtRest)
    (empty : initial.db.transactions.rows = [])
    (run : SerialRun deployment admits initial last) (chained : last.db.Each Dossier.Chained) :
    RollbackPreserves { AddDisputedStatus.migrated last.db with statusDefault := none } ↔
      last.db.Each fun dossier => dossier.row.status ≠ .disputed ∧
        chargebackStep ∉ dossier.trace := by
  have recorded := SerialRun.histories rest empty run
  have traced : last.db.Each fun dossier => Traced dossier.trace dossier.row.status := by
    intro id dossier found
    have astray := (chained id dossier found).not_astray
    exact (recorded id dossier found).history.resolve_right astray
  constructor
  · rintro ⟨catalog, down, _, after⟩
    obtain ⟨rfl, _, undisputed⟩ := AddDisputedStatus.down_eq_ok.mp down
    intro id dossier found
    have status := undisputed dossier.row (Table.mem_of_get? (Database.get?_of_dossier found).1)
    refine ⟨status, ((traced id dossier found).survives status).mp ?_⟩
    have there := dossier_deleteDisputeHistory last.db id
    rw [found, Option.map_some] at there
    obtain ⟨linked, ends⟩ := after id _ there
    have left := trace_filter dossier.history
    unfold Dossier.trace at linked ends ⊢
    rw [left] at linked ends
    exact ⟨linked, ends⟩
  · intro each
    have undisputed : ∀ row ∈ last.db.transactions.rows, row.status ≠ .disputed :=
      fun row member =>
        (each row.id _ (Database.dossier_of_get? (Table.get?_of_mem member))).1
    refine ⟨_, AddDisputedStatus.down_eq_ok.mpr ⟨rfl, rfl, undisputed⟩, fun _ kept => kept, ?_⟩
    intro id dossier found
    change (AddDisputedStatus.deleteDisputeHistory last.db).dossier id = some dossier at found
    rw [dossier_deleteDisputeHistory] at found
    obtain ⟨before, there, rfl⟩ := Option.map_eq_some_iff.mp found
    obtain ⟨status, rejected⟩ := each id before there
    obtain ⟨linked, ends⟩ := ((traced id before there).survives status).mpr rejected
    have left := trace_filter before.history
    refine ⟨?_, ?_⟩
    · unfold Dossier.trace at linked ⊢
      rw [left]
      exact linked
    · unfold Dossier.trace at ends ⊢
      rw [left]
      exact ends

/-- Whatever the tables hold after the migrations, the rollback does not succeed. -/
theorem rollback_never_preserves (tables : Database) :
    ¬ RollbackPreserves (AddDisputedStatus.migrated tables) := by
  rintro ⟨last, down, _⟩
  obtain ⟨_, dropped, _⟩ := AddDisputedStatus.down_eq_ok.mp down
  rw [AddDisputedStatus.migrated_statusDefault] at dropped
  cases dropped

/-- The rollback fails after a payment was completed, though its history is a chain and
nothing was disputed. -/
theorem completion_fails_rollback :
    ¬ ∀ (deployment : Deployment) (initial last : World), initial.AtRest →
      initial.db.transactions.rows = [] →
      SerialRun deployment (fun _ _ => True) initial last → last.db.Each Dossier.Chained →
      RollbackPreserves (AddDisputedStatus.migrated last.db) := by
  intro claimed
  have run : SerialRun sampleDeployment (fun _ _ => True) sampleWorld
      (runAll sampleDeployment sampleCompletion sampleWorld) :=
    runAll_run sampleCompletion (by decide +kernel)
  have chained : (runAll sampleDeployment sampleCompletion sampleWorld).db.Each Dossier.Chained :=
    Database.each_of_rows (by decide +kernel)
  obtain ⟨last, down, _⟩ :=
    claimed sampleDeployment sampleWorld _ sampleWorld_atRest rfl run chained
  obtain ⟨_, dropped, _⟩ := AddDisputedStatus.down_eq_ok.mp down
  cases dropped

end Payroute
