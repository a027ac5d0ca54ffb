import Payroute.Runs.Publications
import Payroute.Runs.References
import Payroute.Runs.Steady

/-! # Whose submission a reference names

The provider hands out a reference for every submission and later calls back under it.
Only the worker stores references, each time the one it was just given, for the payment
of the job it took from the queue. So a stored reference leads from the payment to the
one callback that states its amount and currency, and back to no other payment.
-/

namespace Payroute

open EffectSystem KeyedTable Program

/-- The callback of a submission of the payment was scheduled under the reference. -/
def World.Answers (world : World) (reference : ProviderReference) (row : Transaction) : Prop :=
  ∃ callback ∈ world.callbacks, callback.reference = reference ∧
    (Publication.callback callback.amount callback.currency).About row

/-- References are handed out once and stored for one payment, whose callback they name. -/
structure World.Attributed (world : World) : Prop where
  fresh : ∀ callback ∈ world.callbacks, callback.reference < world.next .reference
  distinct : (world.callbacks.map ProviderCallback.reference).Nodup
  answers : ∀ row ∈ world.db.transactions.rows, ∀ reference,
    row.providerReference = some reference → world.Answers reference row
  unique : ∀ first second reference, world.db.referenceOf first = some reference →
    world.db.referenceOf second = some reference → first = second
  logs : ∀ id, world.Referenced id

/-- What is known of a call: it finds the locks in order and the jobs about committed
payments, and leaves the payments and the numbers that were handed out. -/
structure World.Upheld (first second : World) : Prop where
  sound : first.Sound
  jobs : ∀ job ∈ first.jobs.rows, first.db.Backs (.job job.data)
  persists : first.db.Persists second.db
  supplies : ∀ supply, first.next supply ≤ second.next supply

/-! ## The stages of a worker -/

/-- Where a process stands with the job it has taken. -/
inductive SubmissionPhase where
  /-- Outside every transaction. -/
  | outside
  | inside
  /-- Outside every transaction, with a job of the queue. -/
  | working (data : ProviderJobData)
  /-- The provider has returned a reference for the job. -/
  | submitted (data : ProviderJobData) (reference : ProviderReference)

namespace SubmissionPhase

def taking (phase : SubmissionPhase) (data : ProviderJobData) : SubmissionPhase :=
  match phase with
  | .inside => .inside
  | _ => .working data

def submitting (phase : SubmissionPhase) (reference : ProviderReference) : SubmissionPhase :=
  match phase with
  | .working data => .submitted data reference
  | _ => phase

/-- What the phase of a process stands for. -/
def Fits (who : ProcessId) (phase : SubmissionPhase) (world : World) : Prop :=
  match phase with
  | .outside => world.sessions who = none
  | .inside => True
  | .working data => world.sessions who = none ∧ world.db.Backs (.job data)
  | .submitted data reference => world.sessions who = none ∧ world.db.Backs (.job data) ∧
      { reference, amount := data.sourceAmount, currency := data.sourceCurrency } ∈
        world.callbacks ∧
      ∀ id, world.db.referenceOf id ≠ some reference

end SubmissionPhase

namespace Operation

/-- The call submits the job that was taken, or stores the reference it was given. -/
def Attributes (phase : SubmissionPhase) : Operation → Prop
  | .scheduleCallback amount currency => ∃ data, phase = .working data ∧
      amount = data.sourceAmount ∧ currency = data.sourceCurrency
  | .sql (.updateTransaction id patch) => patch.providerReference = none ∨
      ∃ data reference, phase = .submitted data reference ∧ id = data.transactionId ∧
        patch = { providerReference := some reference }
  | _ => True

/-- Where a call and its reply take a process. -/
def submissionPhase (phase : SubmissionPhase) :
    (op : Operation) → Except Failure op.Reply → SubmissionPhase
  | .begin _, _ => .inside
  | .commit, .ok _ => .outside
  | .commit, .error _ => .inside
  | .rollback, _ => .outside
  | .queueGet _, .ok (some job) => phase.taking job.data
  | .scheduleCallback _ _, .ok reference => phase.submitting reference
  | .sql (.updateTransaction _ patch), _ =>
      if patch.providerReference = none then phase else .outside
  | _, _ => phase

theorem Unattached.attributes {op : Operation} (unattached : op.Unattached)
    (phase : SubmissionPhase) : op.Attributes phase := by
  cases op with
  | sql statement =>
      cases statement with
      | updateTransaction id patch => exact .inl unattached
      | _ => trivial
  | scheduleCallback _ _ => exact unattached.elim
  | _ => trivial

end Operation

/-- Programs that submit the job they took and store the reference they were given. -/
def attribution : Protocol Failure Operation.Reply SubmissionPhase := fun phase op reply later =>
  op.Attributes phase ∧ later = op.submissionPhase phase reply

theorem attribution_allows {phase : SubmissionPhase} {op : Operation}
    (attributes : op.Attributes phase) : attribution.Allows phase op :=
  ⟨.error .unavailable, _, attributes, rfl⟩

/-! ## Calls -/

namespace SubmissionPhase

variable {who : ProcessId} {phase : SubmissionPhase} {world next : World}

/-- The phase after a step that leaves the process outside every transaction. -/
theorem Fits.keep (fits : phase.Fits who world)
    (sessions : world.sessions who = none → next.sessions who = none)
    (persists : world.db.Persists next.db)
    (callbacks : ∀ callback ∈ world.callbacks, callback ∈ next.callbacks)
    (unused : ∀ data reference, phase = .submitted data reference →
      ∀ id, next.db.referenceOf id ≠ some reference) : phase.Fits who next := by
  cases phase with
  | outside => exact sessions fits
  | inside => trivial
  | working data => exact ⟨sessions fits.1, fits.2.persists persists⟩
  | submitted data reference =>
      obtain ⟨closed, backs, scheduled, _⟩ := fits
      exact ⟨sessions closed, backs.persists persists, callbacks _ scheduled,
        unused data reference rfl⟩

theorem Fits.unused {data : ProviderJobData} {reference : ProviderReference}
    (fits : (SubmissionPhase.submitted data reference).Fits who world) (id : TransactionId) :
    world.db.referenceOf id ≠ some reference := fits.2.2.2 id

theorem Fits.scheduled {data : ProviderJobData} {reference : ProviderReference}
    (fits : (SubmissionPhase.submitted data reference).Fits who world) :
    { reference, amount := data.sourceAmount, currency := data.sourceCurrency } ∈
      world.callbacks := fits.2.2.1

/-- A call that submits nothing hands out no reference. -/
theorem submissionPhase_submitted {op : Operation} (unattached : op.Unattached)
    {reply : Except Failure op.Reply} {data : ProviderJobData} {reference : ProviderReference}
    (submitted : op.submissionPhase phase reply = .submitted data reference) :
    phase = .submitted data reference := by
  cases op with
  | begin _ | rollback => cases submitted
  | commit =>
      cases reply with
      | _ => cases submitted
  | queueGet id =>
      cases reply with
      | error error => exact submitted
      | ok found =>
          cases found with
          | none => exact submitted
          | some job =>
              cases phase with
              | _ => cases submitted
  | scheduleCallback _ _ => exact unattached.elim
  | sql statement =>
      cases statement with
      | updateTransaction id patch =>
          have without : patch.providerReference = none := unattached
          have same : (if patch.providerReference = none then phase else .outside) =
            .submitted data reference := submitted
          rwa [if_pos without] at same
      | _ => exact submitted
  | _ => exact submitted

end SubmissionPhase

namespace World

variable {world next : World} {who : ProcessId} {reference : ProviderReference}
  {row : Transaction}

theorem Answers.mono (answers : world.Answers reference row)
    (callbacks : ∀ callback ∈ world.callbacks, callback ∈ next.callbacks) :
    next.Answers reference row := by
  obtain ⟨callback, scheduled, same, about⟩ := answers
  exact ⟨callback, callbacks callback scheduled, same, about⟩

theorem referenceOf_of_mem (member : row ∈ world.db.transactions.rows) :
    world.db.referenceOf row.id = row.providerReference := by
  have found : world.db.transactions.get? row.id = some row := Table.get?_of_mem member
  unfold Database.referenceOf
  rw [found]
  rfl

/-- A reference that was stored before the step. -/
theorem Attributed.answers_later (attributed : world.Attributed)
    (persists : world.db.Persists next.db)
    (callbacks : ∀ callback ∈ world.callbacks, callback ∈ next.callbacks)
    (member : row ∈ next.db.transactions.rows)
    (stored : world.db.referenceOf row.id = some reference) : next.Answers reference row := by
  unfold Database.referenceOf at stored
  cases found : world.db.transactions.get? row.id with
  | none =>
      rw [found] at stored
      cases stored
  | some old =>
      rw [found] at stored
      have answered := attributed.answers old (Table.mem_of_get? found) reference stored
      obtain ⟨callback, scheduled, same, about⟩ := answered.mono callbacks
      obtain ⟨later, there, terms⟩ := persists.transaction row.id old found
      have current : next.db.transactions.get? row.id = some row := Table.get?_of_mem member
      obtain rfl : row = later := Option.some.inj (current.symm.trans there)
      exact ⟨callback, scheduled, same, about.of_terms terms⟩

/-- A step that stores no reference and schedules no callback. -/
theorem Attributed.step (attributed : world.Attributed) (persists : world.db.Persists next.db)
    (supplies : world.next .reference ≤ next.next .reference)
    (callbacks : next.callbacks = world.callbacks)
    (same : ∀ id, next.db.referenceOf id = world.db.referenceOf id)
    (logs : ∀ id, next.Referenced id) : next.Attributed where
  fresh := fun callback scheduled =>
    (attributed.fresh callback (callbacks ▸ scheduled)).trans_le supplies
  distinct := callbacks ▸ attributed.distinct
  answers := fun row member reference stored => by
    refine attributed.answers_later persists (fun _ => callbacks ▸ id) member ?_
    rw [← same, referenceOf_of_mem member, stored]
  unique := fun first second reference left right =>
    attributed.unique first second reference (same first ▸ left) (same second ▸ right)
  logs := logs

/-- Submitting a payment. -/
theorem Attributed.submit (attributed : world.Attributed) (amount : Text) (currency : String) :
    (World.perform world who (.scheduleCallback amount currency)).2.Attributed where
  fresh := by
    intro callback scheduled
    change callback.reference < Function.update world.next .reference
      (world.next .reference + 1) .reference
    rw [Function.update_self]
    rcases List.mem_append.mp scheduled with old | new
    · exact (attributed.fresh callback old).trans (Nat.lt_succ_self _)
    · obtain rfl := List.mem_singleton.mp new
      exact Nat.lt_succ_self _
  distinct := by
    change ((world.callbacks ++ [_]).map ProviderCallback.reference).Nodup
    rw [List.map_append, List.nodup_append]
    refine ⟨attributed.distinct, List.nodup_singleton _, fun old member last new same => ?_⟩
    obtain ⟨callback, scheduled, rfl⟩ := List.mem_map.mp member
    obtain rfl := List.mem_singleton.mp new
    exact absurd same (attributed.fresh callback scheduled).ne
  answers := fun row member reference stored =>
    (attributed.answers row member reference stored).mono fun _ scheduled =>
      List.mem_append.mpr (.inl scheduled)
  unique := attributed.unique
  logs := fun id => (attributed.logs id).aside (perform_neutral trivial)

/-- Storing a reference of one payment leaves the references of the others. -/
theorem Referenced.store_other {id other : TransactionId} (referenced : world.Referenced other)
    (closed : world.sessions who = none) (differs : other ≠ id) (patch : TransactionPatch)
    (delivery : Delivery) :
    let next := (World.exec who delivery (.sql (.updateTransaction id patch)) world).2
    next.Referenced other ∧ next.db.referenceOf other = world.db.referenceOf other := by
  intro next
  rcases exec_state who delivery (.sql (.updateTransaction id patch)) world with same | ran
  · rw [show next = world from same]
    exact ⟨referenced, rfl⟩
  rw [show next = (world.execute who (.updateTransaction id patch)).2 from ran]
  rcases execute_cases world who (.updateTransaction id patch) with
    ⟨error, refused⟩ | ⟨outcome, done, _, ran⟩
  · rw [refused]
    exact ⟨referenced, rfl⟩
  rw [ran, apply_closed outcome closed]
  simp only [Statement.eval, Database.updateTransaction, view_closed closed] at done
  cases found : world.db.transactions.get? id with
  | none =>
      rw [found] at done
      cases done
      exact ⟨referenced, rfl⟩
  | some row =>
      rw [found] at done
      cases done
      have named : (patch.apply row).id = id := Table.key_of_get? found
      have kept : (world.db.write (.transaction (patch.apply row))).referenceOf other =
          world.db.referenceOf other :=
        Database.referenceOf_write fun same => (differs (same.symm.trans named)).elim
      exact ⟨referenced.step kept fun _ _ => .inl, kept⟩

/-- Storing the reference that was returned for a job. -/
theorem Attributed.store (attributed : world.Attributed) {data : ProviderJobData}
    (fits : (SubmissionPhase.submitted data reference).Fits who world) (delivery : Delivery)
    (upheld : world.Upheld (World.exec who delivery (.sql (.updateTransaction data.transactionId
      { providerReference := some reference })) world).2) :
    let next := (World.exec who delivery (.sql (.updateTransaction data.transactionId
      { providerReference := some reference })) world).2
    next.Attributed ∧ next.callbacks = world.callbacks ∧
      ∀ id last, next.db.referenceOf id = some last → last = reference ∨
        world.db.referenceOf id = some last := by
  intro next
  obtain ⟨closed, backs, scheduled, unused⟩ := fits
  obtain ⟨referenced, callbacks, stored⟩ :=
    (attributed.logs data.transactionId).store upheld.sound closed delivery reference
  have others : ∀ other, other ≠ data.transactionId → next.Referenced other ∧
      next.db.referenceOf other = world.db.referenceOf other := fun other differs =>
    (attributed.logs other).store_other closed differs _ delivery
  have held : ∀ id last, next.db.referenceOf id = some last →
      id = data.transactionId ∧ last = reference ∨ world.db.referenceOf id = some last := by
    intro id last found
    by_cases own : id = data.transactionId
    · subst own
      rcases stored with new | same
      · exact .inl ⟨rfl, Option.some.inj (found.symm.trans new)⟩
      · exact .inr (same.symm.trans found)
    · exact .inr ((others id own).2.symm.trans found)
  refine ⟨⟨?_, ?_, ?_, ?_, ?_⟩, callbacks,
    fun id last found => (held id last found).imp_left And.right⟩
  · intro callback member
    rw [callbacks] at member
    exact (attributed.fresh callback member).trans_le (upheld.supplies .reference)
  · rw [callbacks]
    exact attributed.distinct
  · intro row member last names
    rcases held row.id last ((referenceOf_of_mem member).trans names) with ⟨own, rfl⟩ | before
    · obtain ⟨later, there, about⟩ := backs.persists upheld.persists
      have current : next.db.transactions.get? row.id = some row := Table.get?_of_mem member
      have found : next.db.transactions.get? later.id = some later := Table.get?_of_mem there
      rw [← about.transactionId, ← own] at found
      obtain rfl : row = later := Option.some.inj (current.symm.trans found)
      exact ⟨_, callbacks ▸ scheduled, rfl, about.sourceAmount, about.sourceCurrency⟩
    · exact attributed.answers_later upheld.persists (fun _ => callbacks ▸ id) member before
  · intro first second last left right
    rcases held first last left with ⟨own, rfl⟩ | before
    · rcases held second last right with ⟨same, _⟩ | old
      · rw [own, same]
      · exact (unused second old).elim
    · rcases held second last right with ⟨_, rfl⟩ | old
      · exact (unused first before).elim
      · exact attributed.unique first second last before old
  · intro id
    by_cases own : id = data.transactionId
    · exact own ▸ referenced
    · exact (others id own).1

/-- A process outside every transaction stays there unless it begins one. -/
theorem exec_stays_closed (closed : world.sessions who = none) {op : Operation}
    (continues : ∀ isolation, op ≠ .begin isolation) (delivery : Delivery) :
    (World.exec who delivery op world).2.sessions who = none := by
  rcases exec_state who delivery op world with same | ran
  · rw [same]
    exact closed
  rw [ran]
  have aside : ∀ last : World, world.Aside last → last.sessions who = none :=
    fun last aside => (congrFun aside.sessions who).trans closed
  cases op with
  | begin isolation => exact (continues isolation rfl).elim
  | commit | rollback => exact Function.update_self _ _ _
  | sql statement =>
      change (world.execute who statement).2.sessions who = none
      rcases execute_cases world who statement with ⟨error, refused⟩ | ⟨outcome, _, _, ran⟩
      · rw [refused]
        exact closed
      · rw [ran, apply_closed outcome closed]
        exact closed
  | acquireLock _ _ | releaseLock _ _ | cacheGet _ | cacheSet _ _ _ | cacheDelete _
  | cacheDeleteLists | queueAdd _ _ _ | queueGet _ | queueRemove _ | scheduleCallback _ _ | emit _
  | now | sleep _ | observe _ => exact aside _ (perform_neutral trivial)

end World

/-! ## Every process and its phase -/

/-- References are attributed, every process stands where its phase says, and no two
have been given the same reference. -/
structure SubmissionsKept (phases : ProcessId → SubmissionPhase) (world : World) : Prop where
  attributed : world.Attributed
  fits : ∀ who, (phases who).Fits who world
  apart : ∀ first second data others reference, phases first = .submitted data reference →
    phases second = .submitted others reference → first = second

namespace SubmissionsKept

variable {phases : ProcessId → SubmissionPhase} {world next : World} {who : ProcessId}
  {phase : SubmissionPhase}

/-- One process moves on. -/
theorem update (kept : SubmissionsKept phases world) (attributed : next.Attributed)
    (own : phase.Fits who next) (others : ∀ other, other ≠ who → (phases other).Fits other next)
    (given : ∀ data reference, phase = .submitted data reference →
      ∀ other, other ≠ who → ∀ job, phases other ≠ .submitted job reference) :
    SubmissionsKept (Function.update phases who phase) next := by
  refine ⟨attributed, fun other => ?_, fun first second data job reference left right => ?_⟩
  · by_cases same : other = who
    · subst same
      rw [Function.update_self]
      exact own
    · rw [Function.update_of_ne same]
      exact others other same
  · by_cases here : first = who
    · by_cases there : second = who
      · rw [here, there]
      · subst here
        rw [Function.update_self] at left
        rw [Function.update_of_ne there] at right
        exact (given data reference left second there job right).elim
    · rw [Function.update_of_ne here] at left
      by_cases there : second = who
      · subst there
        rw [Function.update_self] at right
        exact (given job reference right first here data left).elim
      · rw [Function.update_of_ne there] at right
        exact kept.apart first second data job reference left right

/-- The provider takes a submission. -/
theorem submit (kept : SubmissionsKept phases world) {data : ProviderJobData}
    (working : phases who = .working data) :
    SubmissionsKept (Function.update phases who (.submitted data (world.next .reference)))
      (World.perform world who (.scheduleCallback data.sourceAmount data.sourceCurrency)).2 := by
  have callbacks : ∀ callback ∈ world.callbacks, callback ∈ (World.perform world who
      (.scheduleCallback data.sourceAmount data.sourceCurrency)).2.callbacks :=
    fun callback scheduled => List.mem_append.mpr (.inl scheduled)
  have fits := kept.fits who
  rw [working] at fits
  have unused : ∀ id, world.db.referenceOf id ≠ some (world.next .reference) := by
    intro id stored
    unfold Database.referenceOf at stored
    cases found : world.db.transactions.get? id with
    | none =>
        rw [found] at stored
        cases stored
    | some row =>
        rw [found] at stored
        obtain ⟨callback, scheduled, same, _⟩ :=
          kept.attributed.answers row (Table.mem_of_get? found) _ stored
        exact absurd same (kept.attributed.fresh callback scheduled).ne
  refine kept.update (kept.attributed.submit _ _) ⟨fits.1, fits.2,
    List.mem_append.mpr (.inr List.mem_cons_self), unused⟩ (fun other _ => ?_) ?_
  · exact (kept.fits other).keep id (.refl _) callbacks fun job reference submitted => by
      have own := kept.fits other
      rw [submitted] at own
      exact own.unused
  · intro job reference same other _ held submitted
    cases same
    have own := kept.fits other
    rw [submitted] at own
    exact absurd rfl (kept.attributed.fresh _ own.scheduled).ne

/-- A call that submits nothing and stores no reference. -/
theorem unattached (kept : SubmissionsKept phases world) {op : Operation} (delivery : Delivery)
    (upheld : world.Upheld (World.exec who delivery op world).2) (unattached : op.Unattached) :
    SubmissionsKept
      (Function.update phases who
        (op.submissionPhase (phases who) (World.exec who delivery op world).1))
      (World.exec who delivery op world).2 := by
  have unchanged := fun id => (kept.attributed.logs id).exec who upheld.sound delivery unattached
  have callbacks : (World.exec who delivery op world).2.callbacks = world.callbacks :=
    (unchanged 0).2.2
  have unused : ∀ other data reference, phases other = .submitted data reference →
      ∀ id, (World.exec who delivery op world).2.db.referenceOf id ≠ some reference := by
    intro other data reference submitted id
    rw [(unchanged id).1]
    have own := kept.fits other
    rw [submitted] at own
    exact own.unused id
  have others : ∀ other, other ≠ who →
      (phases other).Fits other (World.exec who delivery op world).2 := fun other differs =>
    (kept.fits other).keep (fun closed => (World.exec_sessions differs delivery op).trans closed)
      upheld.persists (fun _ => callbacks ▸ id) (unused other)
  have stays : (∀ isolation, op ≠ .begin isolation) →
      (phases who).Fits who (World.exec who delivery op world).2 := fun continues =>
    (kept.fits who).keep (fun closed => World.exec_stays_closed closed continues delivery)
      upheld.persists (fun _ => callbacks ▸ id) (unused who)
  have attributed := kept.attributed.step upheld.persists (upheld.supplies .reference) callbacks
    (fun id => (unchanged id).1) fun id => (unchanged id).2.1
  refine kept.update attributed ?_ others fun data reference submitted other differs job held =>
    differs (kept.apart other who job data reference held
      (SubmissionPhase.submissionPhase_submitted unattached submitted))
  cases op with
  | begin isolation => trivial
  | commit =>
      rcases World.exec_cases who delivery .commit world with ran | ⟨failed, _⟩
      · rw [ran]
        exact Function.update_self _ _ _
      · rw [failed]
        trivial
  | rollback => exact Function.update_self _ _ _
  | queueGet id =>
      have still := stays fun _ => nofun
      rcases World.exec_cases who delivery (.queueGet id) world with ran | ⟨failed, _⟩
      · rw [ran] at still ⊢
        have answered : (world.perform who (.queueGet id)).1 = .ok (world.jobs.get? id) := rfl
        rw [answered]
        cases found : world.jobs.get? id with
        | none => exact still
        | some job =>
            have backs := upheld.jobs job (Table.mem_of_get? found)
            change ((phases who).taking job.data).Fits who world
            cases stage : phases who with
            | inside => trivial
            | outside =>
                rw [stage] at still
                exact ⟨still, backs⟩
            | working _ | submitted _ _ =>
                rw [stage] at still
                exact ⟨still.1, backs⟩
      · rw [failed]
        exact still
  | sql statement =>
      have still := stays fun _ => nofun
      cases statement with
      | updateTransaction id patch =>
          have without : patch.providerReference = none := unattached
          change SubmissionPhase.Fits who (if patch.providerReference = none then phases who
            else .outside) _
          rw [if_pos without]
          exact still
      | _ => exact still
  | scheduleCallback _ _ => exact unattached.elim
  | _ => exact stays fun _ => nofun

/-- A call of a process that follows the protocol. -/
theorem call (kept : SubmissionsKept phases world) {op : Operation} (delivery : Delivery)
    (upheld : world.Upheld (World.exec who delivery op world).2)
    (attributes : op.Attributes (phases who)) :
    SubmissionsKept
      (Function.update phases who
        (op.submissionPhase (phases who) (World.exec who delivery op world).1))
      (World.exec who delivery op world).2 := by
  by_cases plain : op.Unattached
  · exact kept.unattached delivery upheld plain
  cases op with
  | scheduleCallback amount currency =>
      obtain ⟨data, working, rfl, rfl⟩ := attributes
      have submitted := kept.submit working
      change SubmissionsKept (Function.update phases who
        ((phases who).submitting (world.next .reference))) _
      rw [working]
      exact submitted
  | sql statement =>
      cases statement with
      | updateTransaction id patch =>
          rcases attributes with without | ⟨data, reference, submitted, rfl, rfl⟩
          · exact (plain without).elim
          have fits := kept.fits who
          rw [submitted] at fits
          obtain ⟨attributed, callbacks, stored⟩ := kept.attributed.store fits delivery upheld
          change SubmissionsKept (Function.update phases who .outside) _
          refine kept.update attributed
            (World.exec_stays_closed fits.1 (fun _ absurd => by cases absurd) delivery)
            (fun other differs => ?_) fun _ _ absurd => by cases absurd
          refine (kept.fits other).keep
            (fun closed => (World.exec_sessions differs delivery _).trans closed)
            upheld.persists (fun _ => callbacks ▸ id) fun job last held id found => ?_
          rcases stored id last found with rfl | before
          · exact differs (kept.apart other who job data last held submitted)
          · have own := kept.fits other
            rw [held] at own
            exact own.unused id before
      | _ => exact (plain trivial).elim
  | _ => exact (plain trivial).elim

theorem release (kept : SubmissionsKept phases world) :
    SubmissionsKept (Function.update phases who .outside) (world.release who) := by
  have attributed : (world.release who).Attributed :=
    ⟨kept.attributed.fresh, kept.attributed.distinct, kept.attributed.answers,
      kept.attributed.unique, fun id => (kept.attributed.logs id).release⟩
  refine kept.update attributed (Function.update_self _ _ _) (fun other differs => ?_) nofun
  exact (kept.fits other).keep (fun closed => (Function.update_of_ne differs _ _).trans closed)
    (.refl _) (fun _ => id) fun data reference submitted => by
      have own := kept.fits other
      rw [submitted] at own
      exact own.unused

theorem elapse (kept : SubmissionsKept phases world) (elapses : world.Elapses next) :
    SubmissionsKept phases next := by
  have same : ∀ id, next.db.referenceOf id = world.db.referenceOf id := fun id => by
    rw [elapses.db]
  have persists : world.db.Persists next.db := elapses.db ▸ .refl _
  have supplies : world.next .reference ≤ next.next .reference := by rw [elapses.next]
  refine ⟨kept.attributed.step persists supplies elapses.callbacks same
    fun id => (kept.attributed.logs id).aside elapses.aside, fun who => ?_, kept.apart⟩
  refine (kept.fits who).keep (fun closed => (congrFun elapses.sessions who).trans closed)
    persists (fun _ => elapses.callbacks ▸ id) fun data reference submitted id => ?_
  have own := kept.fits who
  rw [submitted] at own
  rw [same]
  exact own.unused id

end SubmissionsKept

/-! ## Programs -/

section Programs

variable {α : Type} {deployment : Deployment}

theorem attribution_aloof : SparesAloof attribution := by
  intro op aloof phase
  refine attribution_allows (Operation.Unattached.attributes ?_ phase)
  cases op with
  | sql statement =>
      cases statement with
      | updateTransaction _ _ => exact aloof.elim
      | _ => trivial
  | scheduleCallback _ _ => exact aloof.elim
  | _ => trivial

theorem attribution_unattached {body : Service α} (unattached : Unattached body) :
    Steady attribution body :=
  .of_onlyCalls unattached fun _ unattached phase =>
    attribution_allows (unattached.attributes phase)

/-- A call that leaves the phase as it is. -/
theorem attribution_call {phase : SubmissionPhase} {op : Operation}
    (attributes : op.Attributes phase) (stays : ∀ reply, op.submissionPhase phase reply = phase) :
    Follows attribution (fun _ last => last = phase) (call op) phase :=
  .perform (attribution_allows attributes) fun reply _ moved => moved.2.trans (stays reply)

theorem ProviderService.attribution_submitPayment (data : ProviderJobData) :
    Follows attribution (fun outcome last => ∀ reference, outcome = .ok reference →
        last = .submitted data reference)
      (submitPayment data.transactionId data.sourceAmount data.sourceCurrency) (.working data) := by
  refine .bind (attribution_call trivial fun _ => rfl) (fun _ later same => ?_)
    fun _ _ _ _ absurd => by cases absurd
  subst same
  refine .perform (attribution_allows ⟨data, rfl, rfl, rfl⟩)
    fun reply last moved reference same => ?_
  subst same
  exact moved.2

namespace ProviderProcessor

theorem attribution_submit (data : ProviderJobData) :
    Follows attribution (fun _ _ => True) (submit data) (.working data) := by
  refine (ProviderService.attribution_submitPayment data).bind (fun reference last given => ?_)
    fun _ _ _ => trivial
  rw [given reference rfl]
  have stores : Follows attribution (fun _ _ => True)
      (sql (.updateTransaction data.transactionId { providerReference := some reference }))
      (.submitted data reference) :=
    .perform (attribution_allows (.inr ⟨_, _, rfl, rfl, rfl⟩)) fun _ _ _ => trivial
  refine stores.bind (fun _ final _ => ?_) fun _ _ _ => trivial
  exact .perform (attribution_allows trivial) fun _ _ _ => trivial

/-- The worker submits the job it took and stores the reference it was given. -/
theorem attribution_work (id : JobId) :
    Follows attribution (fun _ _ => True) (work id) .outside := by
  have took : Follows attribution (fun outcome last => ∀ job, outcome = .ok (some job) →
      last = .working job.data) (call (.queueGet id)) .outside := by
    refine .perform (attribution_allows trivial) fun reply later moved job same => ?_
    subst same
    exact moved.2
  refine took.bind (fun found later taken => ?_) fun _ _ _ => trivial
  cases found with
  | none => trivial
  | some job =>
      rw [taken job rfl]
      refine .bind (attribution_call trivial fun _ => rfl) (fun read middle same => ?_)
        fun _ _ _ => trivial
      subst same
      cases read with
      | none => trivial
      | some txn =>
          change Follows attribution _ (if eligible txn then submit job.data else .ret ()) _
          split
          · exact attribution_submit job.data
          · trivial

end ProviderProcessor

theorem PaymentsService.unattached_createPayment (deployment : Deployment) (dto : CreatePaymentDto)
    (idempotencyKey : String) : Unattached (createPayment deployment dto idempotencyKey) :=
  (plain_createPayment deployment dto idempotencyKey).mono fun _ => Operation.Ordinary.unattached

end Programs

/-! ## Pools -/

/-- Whatever the processes do, references stay attributed. -/
theorem monitors_attribution (deployment : Deployment) :
    Monitors backend (surroundings fun _ => Activity deployment) attribution .outside
      (fun who world => world.sessions who = none) World.Upheld SubmissionsKept where
  follows := fun _ _ activity => activity.follows attribution_aloof
    ProviderProcessor.attribution_work
    (fun dto key =>
      attribution_unattached (PaymentsService.unattached_createPayment deployment dto key))
    fun command queued => attribution_unattached (command.unattached deployment queued)
  enter := fun _ _ _ kept closed =>
    kept.update kept.attributed closed (fun other _ => kept.fits other) nofun
  call := by
    intro phases world who delivery op kept allowed _ upheld
    obtain ⟨_, _, attributes, _⟩ := allowed
    exact ⟨_, ⟨attributes, rfl⟩, kept.call delivery upheld attributes⟩
  crash := fun _ _ _ kept => kept.release
  drift := fun _ _ _ kept elapses => kept.elapse elapses

end Payroute
