import Payroute.Runs.Calls
import Payroute.Runs.Concurrent

/-! # Provider references

Only the provider's worker submits payments and stores references. Whatever else
runs leaves the reference of a payment as it is, and no open transaction is about
to change it.
-/

namespace Payroute

open EffectSystem KeyedTable Program

/-- The reference stored for a payment. -/
def Database.referenceOf (db : Database) (id : TransactionId) : Option ProviderReference :=
  (db.transactions.get? id).bind Transaction.providerReference

/-- The call neither submits a payment nor stores a reference. -/
def Operation.Unattached : Operation → Prop
  | .scheduleCallback _ _ => False
  | .sql (.updateTransaction _ patch) => patch.providerReference = none
  | _ => True

theorem Operation.Unattached.quiet {op : Operation} (unattached : op.Unattached)
    (amount : Text) (currency : String) : op ≠ .scheduleCallback amount currency := by
  rintro rfl
  exact unattached

/-- Versions of the payment's row carry the reference. -/
def Write.Carries (id : TransactionId) (reference : Option ProviderReference) : Write → Prop
  | .transaction row => row.id = id → row.providerReference = reference
  | _ => True

/-- No open transaction is about to change the reference of the payment. -/
def World.Referenced (id : TransactionId) (world : World) : Prop :=
  ∀ who, ∀ version ∈ world.log who, version.Carries id (world.db.referenceOf id)

section Tables

variable {db : Database} {id : TransactionId} {version : Write}

theorem Database.referenceOf_write (carries : version.Carries id (db.referenceOf id)) :
    (db.write version).referenceOf id = db.referenceOf id := by
  cases version with
  | transaction row =>
      change ((db.transactions.put row).get? id).bind _ = _
      rw [Table.get?_put]
      by_cases same : id = key row
      · rw [if_pos same]
        exact carries same.symm
      · rw [if_neg same]
        rfl
  | _ => rfl

theorem Database.referenceOf_replay {log : List Write}
    (carries : ∀ version ∈ log, version.Carries id (db.referenceOf id)) :
    (db.replay log).referenceOf id = db.referenceOf id := by
  induction log generalizing db with
  | nil => rfl
  | cons version rest ih =>
      have first := referenceOf_write (carries version List.mem_cons_self)
      refine (ih fun later member => ?_).trans first
      rw [first]
      exact carries later (List.mem_cons_of_mem _ member)

/-- What an unattached statement writes carries the reference its row has. -/
theorem Statement.carries_of_eval {statement : Statement} {session : Session}
    {outcome : Outcome statement.Reply} {reference : Option ProviderReference}
    (unattached : (Operation.sql statement).Unattached)
    (done : statement.eval db session = .ok outcome)
    (seen : ∀ row, outcome.locks = some (.transaction id) → db.transactions.get? id = some row →
      row.providerReference = reference)
    (fresh : session.next .transaction = id → reference = none) :
    ∀ version, outcome.writes = some version → version.Carries id reference := by
  intro version written
  have writes := written_of_eval done written
  generalize outcome.locks = locks, outcome.draws = draws at writes seen
  cases writes with
  | @patch row patch found =>
      intro same
      have same : row.id = id := same
      subst same
      change patch.providerReference = none at unattached
      change (patch.providerReference <|> row.providerReference) = reference
      rw [unattached]
      exact seen row rfl found
  | payment draft => exact fun same => (fresh same).symm
  | _ => trivial

end Tables

namespace World

variable {world : World} {who : ProcessId} {id : TransactionId}

/-- A process sees the reference that is stored, wherever its row is current. -/
theorem Referenced.view (referenced : world.Referenced id)
    (current : ¬ world.Stale who (.transaction id)) :
    (world.view who).referenceOf id = world.db.referenceOf id := by
  have same := RowVersion.transaction.inj (view_rowAt current)
  unfold Database.referenceOf at *
  rw [same]
  exact Database.referenceOf_replay (referenced who)

/-- The invariant after a step that keeps the reference. -/
theorem Referenced.step {next : World} (referenced : world.Referenced id)
    (same : next.db.referenceOf id = world.db.referenceOf id)
    (logs : ∀ other, ∀ version ∈ next.log other,
      version ∈ world.log other ∨ version.Carries id (world.db.referenceOf id)) :
    next.Referenced id := by
  intro other version member
  rw [same]
  rcases logs other version member with old | carries
  · exact referenced other version old
  · exact carries

theorem log_of_sessions {next : World} {other : ProcessId}
    (same : next.sessions other = world.sessions other) : next.log other = world.log other := by
  unfold log
  rw [same]

theorem Referenced.aside {next : World} (referenced : world.Referenced id)
    (aside : world.Aside next) : next.Referenced id := by
  refine referenced.step (by rw [aside.db]) fun other version member => .inl ?_
  rw [← log_of_sessions (congrFun aside.sessions other)]
  exact member

/-- A process that ends its transaction leaves the others' as they are. -/
theorem log_update {next : World} (session : Option OpenTransaction)
    (sessions : next.sessions = Function.update world.sessions who session)
    (log : ∀ opened, session = some opened → opened.log = []) (other : ProcessId) :
    ∀ version ∈ next.log other, version ∈ world.log other := by
  intro version member
  by_cases same : other = who
  · subst same
    unfold World.log at member
    rw [sessions, Function.update_self] at member
    cases session with
    | none => exact (List.not_mem_nil member).elim
    | some opened =>
        change version ∈ opened.log at member
        rw [log opened rfl] at member
        exact (List.not_mem_nil member).elim
  · have kept : next.sessions other = world.sessions other := by
      rw [sessions, Function.update_of_ne same]
    rw [← log_of_sessions kept]
    exact member

theorem Referenced.release (referenced : world.Referenced id) :
    (world.release who).Referenced id :=
  referenced.step rfl fun other version member =>
    .inl (log_update none rfl (fun _ absurd => by cases absurd) other version member)

/-- An unattached statement keeps the reference. -/
theorem Referenced.apply (sound : world.Sound) (referenced : world.Referenced id)
    {statement : Statement} (unattached : (Operation.sql statement).Unattached)
    {outcome : Outcome statement.Reply}
    (done : statement.eval (world.view who) (world.session who) = .ok outcome)
    (current : ∀ row, outcome.locks = some row → ¬ world.Stale who row) :
    (world.apply who outcome).db.referenceOf id = world.db.referenceOf id ∧
      (world.apply who outcome).Referenced id := by
  have carries : ∀ version, outcome.writes = some version →
      version.Carries id (world.db.referenceOf id) := by
    refine Statement.carries_of_eval unattached done (fun row locked seen => ?_) fun unused => ?_
    · have stored := referenced.view (current _ locked)
      unfold Database.referenceOf at stored
      rw [seen] at stored
      exact stored
    · unfold Database.referenceOf
      rw [(sound.fresh id (Nat.le_of_eq unused)).1]
      rfl
  cases opened : world.sessions who with
  | none =>
      have same : (world.apply who outcome).db.referenceOf id = world.db.referenceOf id := by
        rw [apply_closed outcome opened]
        cases written : outcome.writes with
        | none => rfl
        | some version => exact Database.referenceOf_write (carries version written)
      refine ⟨same, referenced.step same fun other version member => .inl ?_⟩
      rw [apply_closed outcome opened] at member
      exact member
  | some session =>
      have same : (world.apply who outcome).db = world.db := by rw [apply_open outcome opened]
      refine ⟨by rw [same], referenced.step (by rw [same]) fun other version member => ?_⟩
      rw [apply_open outcome opened] at member
      cases written : outcome.writes with
      | none =>
          rw [written] at member
          exact .inl member
      | some last =>
          rw [written] at member
          by_cases own : other = who
          · subst own
            change version ∈ World.log _ other at member
            unfold World.log at member ⊢
            simp only [Function.update_self, List.mem_append, List.mem_singleton] at member
            rw [opened]
            rcases member with old | rfl
            · exact .inl old
            · exact .inr (carries _ written)
          · unfold World.log at member ⊢
            simp only [Function.update_of_ne own] at member
            exact .inl member

/-- Only submissions schedule callbacks. -/
theorem perform_callbacks {op : Operation}
    (other : ∀ amount currency, op ≠ .scheduleCallback amount currency) :
    (world.perform who op).2.callbacks = world.callbacks := by
  cases op with
  | sql statement =>
      exact (execute_apart world who statement).callbacks
  | acquireLock key ttlMs =>
      change (world.acquireLock key ttlMs).2.callbacks = world.callbacks
      unfold acquireLock
      cases world.redisLocks key <;> rfl
  | releaseLock key token =>
      change (world.releaseLock key token).callbacks = world.callbacks
      unfold releaseLock
      split <;> rfl
  | queueAdd data attempts jobId =>
      change (world.queueAdd data attempts jobId).callbacks = world.callbacks
      unfold queueAdd
      simp only
      split <;> rfl
  | scheduleCallback amount currency => exact (other amount currency rfl).elim
  | _ => rfl

theorem exec_callbacks (delivery : Delivery) (op : Operation) :
    (World.exec who delivery op world).2.callbacks = world.callbacks ∨
      (World.exec who delivery op world).2.callbacks.length = world.callbacks.length + 1 ∧
        world.Aside (World.exec who delivery op world).2 := by
  rcases exec_state who delivery op world with same | ran
  · rw [same]
    exact .inl rfl
  rw [ran]
  by_cases submits : ∃ amount currency, op = .scheduleCallback amount currency
  · obtain ⟨amount, currency, rfl⟩ := submits
    exact .inr ⟨List.length_append, perform_neutral trivial⟩
  · exact .inl (perform_callbacks fun amount currency same => submits ⟨amount, currency, same⟩)

/-- An unattached call changes neither the reference of a payment nor the callbacks. -/
theorem Referenced.exec (who : ProcessId) (sound : world.Sound) (referenced : world.Referenced id)
    (delivery : Delivery) {op : Operation} (unattached : op.Unattached) :
    let next := (World.exec who delivery op world).2
    next.db.referenceOf id = world.db.referenceOf id ∧ next.Referenced id ∧
      next.callbacks = world.callbacks := by
  intro next
  rcases exec_state who delivery op world with same | ran
  · rw [show next = world from same]
    exact ⟨rfl, referenced, rfl⟩
  rw [show next = (world.perform who op).2 from ran]
  refine and_assoc.mp ⟨?_, perform_callbacks unattached.quiet⟩
  have ends : ∀ last : World, world.Aside last →
      last.db.referenceOf id = world.db.referenceOf id ∧ last.Referenced id :=
    fun last aside => ⟨by rw [aside.db], referenced.aside aside⟩
  cases op with
  | begin isolation =>
      refine ⟨rfl, referenced.step rfl fun other version member => .inl ?_⟩
      exact log_update _ rfl (fun opened same => Option.some.inj same ▸ rfl) other version member
  | commit =>
      have same : (world.db.replay (world.log who)).referenceOf id = world.db.referenceOf id :=
        Database.referenceOf_replay (referenced who)
      refine ⟨same, referenced.step same fun other version member => .inl ?_⟩
      exact log_update none rfl (fun _ absurd => by cases absurd) other version member
  | rollback => exact ⟨rfl, referenced.release⟩
  | sql statement =>
      change (world.execute who statement).2.db.referenceOf id = world.db.referenceOf id ∧
        (world.execute who statement).2.Referenced id
      rcases execute_cases world who statement with ⟨error, refused⟩ | ⟨outcome, done, free, ran⟩
      · rw [refused]
        exact ⟨rfl, referenced⟩
      · rw [ran]
        exact referenced.apply sound unattached done fun row locked => (free row locked).2
  | acquireLock _ _ | releaseLock _ _ | cacheGet _ | cacheSet _ _ _ | cacheDelete _
  | cacheDeleteLists | queueAdd _ _ _ | queueGet _ | queueRemove _ | emit _ | now | sleep _
  | observe _ => exact ends _ (perform_neutral trivial)
  | scheduleCallback _ _ => exact unattached.elim

/-- Storing the reference of a payment. -/
theorem Referenced.store (sound : world.Sound) (referenced : world.Referenced id)
    (closed : world.sessions who = none) (delivery : Delivery) (reference : ProviderReference) :
    let next := (World.exec who delivery
      (.sql (.updateTransaction id { providerReference := some reference })) world).2
    next.Referenced id ∧ next.callbacks = world.callbacks ∧
      (next.db.referenceOf id = some reference ∨
        next.db.referenceOf id = world.db.referenceOf id) := by
  intro next
  have unchanged : world.Referenced id ∧ world.callbacks = world.callbacks ∧
      (world.db.referenceOf id = some reference ∨
        world.db.referenceOf id = world.db.referenceOf id) := ⟨referenced, rfl, .inr rfl⟩
  rcases exec_state who delivery
    (.sql (.updateTransaction id { providerReference := some reference })) world with same | ran
  · rw [show next = world from same]
    exact unchanged
  rw [show next = (world.execute who
    (.updateTransaction id { providerReference := some reference })).2 from ran]
  rcases execute_cases world who (.updateTransaction id { providerReference := some reference })
    with ⟨error, refused⟩ | ⟨outcome, done, free, ran⟩
  · rw [refused]
    exact unchanged
  rw [ran, apply_closed outcome closed]
  simp only [Statement.eval, Database.updateTransaction, view_closed closed] at done
  cases found : world.db.transactions.get? id with
  | none =>
      rw [found] at done
      cases done
      exact unchanged
  | some row =>
      rw [found] at done
      cases done
      have named : row.id = id := Table.key_of_get? found
      -- Nobody else has a version of the row, since nobody else has it locked.
      have alone : ∀ other, ∀ version ∈ world.log other,
        version.guard ≠ some (.transaction id) := by
        intro other version member guard
        cases opened : world.sessions other with
        | none =>
            unfold World.log at member
            rw [opened] at member
            exact List.not_mem_nil member
        | some session =>
            rw [log_open opened] at member
            have held := sound.covered other session opened version member _ guard
            refine (free _ rfl).1 ⟨other, held, fun same => ?_⟩
            rw [same, closed] at opened
            cases opened
      refine ⟨fun other version member => ?_, rfl, .inl ?_⟩
      · have unguarded := alone other version member
        cases version with
        | transaction written =>
            intro same
            exact (unguarded (congrArg (some ∘ RowId.transaction) same)).elim
        | _ => trivial
      · have own : id = key (TransactionPatch.apply { providerReference := some reference } row) :=
          named.symm
        change ((world.db.transactions.put (TransactionPatch.apply
          { providerReference := some reference } row)).get? id).bind _ = _
        rw [Table.get?_put, if_pos own]
        rfl

/-- A call leaves the transactions of the others open as they are. -/
theorem exec_sessions {other : ProcessId} (differs : other ≠ who) (delivery : Delivery)
    (op : Operation) : (World.exec who delivery op world).2.sessions other =
    world.sessions other := by
  rcases exec_state who delivery op world with same | ran
  · rw [same]
  rw [ran]
  have ends : ∀ last : World, world.Aside last → last.sessions other = world.sessions other :=
    fun last aside => congrFun aside.sessions other
  cases op with
  | begin _ | commit | rollback => exact Function.update_of_ne differs _ _
  | sql statement =>
      change (world.execute who statement).2.sessions other = world.sessions other
      rcases execute_cases world who statement with ⟨error, refused⟩ | ⟨outcome, _, _, ran⟩
      · rw [refused]
      · rw [ran]
        cases opened : world.sessions who with
        | none => rw [apply_closed outcome opened]
        | some session =>
            rw [apply_open outcome opened]
            cases outcome.writes with
            | none => rfl
            | some version => exact Function.update_of_ne differs _ _
  | acquireLock _ _ | releaseLock _ _ | cacheGet _ | cacheSet _ _ _ | cacheDelete _
  | cacheDeleteLists | queueAdd _ _ _ | queueGet _ | queueRemove _ | scheduleCallback _ _ | emit _
  | now | sleep _ | observe _ => exact ends _ (perform_neutral trivial)

end World

/-- A step that submits a payment does nothing else. -/
theorem step_callbacks {starts : ProcessId → Service Unit → Prop}
    {first second : Pool ProcessId Failure Operation.Reply World}
    (step : Pool.Step backend (surroundings starts) first second) :
    second.shared.callbacks = first.shared.callbacks ∨
      second.shared.callbacks.length = first.shared.callbacks.length + 1 ∧
        first.shared.Aside second.shared := by
  cases step with
  | spawn who body free started => exact .inl rfl
  | call who choice op rest current ready => exact World.exec_callbacks choice op
  | finish who ended => exact .inl rfl
  | crash who alive => exact .inl rfl
  | drift next moved => exact .inl (World.Elapses.callbacks moved)

/-! ## Programs -/

namespace Operation

theorem Ordinary.unattached {op : Operation} (ordinary : op.Ordinary) : op.Unattached := by
  cases op with
  | sql statement =>
      cases statement with
      | updateTransaction id patch => exact ordinary
      | _ => trivial
  | scheduleCallback _ _ => exact ordinary.elim
  | _ => trivial

theorem Delivering.unattached {op : Operation} (delivering : op.Delivering) : op.Unattached := by
  cases op with
  | sql statement =>
      cases statement with
      | updateTransaction id patch => exact delivering
      | _ => trivial
  | scheduleCallback _ _ => exact delivering.elim
  | _ => trivial

theorem Sweeping.unattached {op : Operation} (sweeping : op.Sweeping) : op.Unattached := by
  cases op with
  | sql statement =>
      cases statement with
      | updateTransaction id patch => exact sweeping.elim
      | _ => trivial
  | scheduleCallback _ _ => exact sweeping.elim
  | _ => trivial

end Operation

/-- Programs that neither submit a payment nor store a reference. -/
abbrev Unattached {α : Type} (body : Service α) : Prop := body.OnlyCalls Operation.Unattached

theorem unattached_call {op : Operation} (unattached : op.Unattached) : Unattached (call op) :=
  onlyCalls_perform unattached

/-- Only the provider's worker submits payments and stores references. -/
theorem Command.unattached (deployment : Deployment) {command : Command}
    (other : ∀ data, command ≠ .process data) : Unattached (command.program deployment) := by
  refine Command.onlyCalls deployment (fun _ => Operation.Ordinary.unattached)
    (fun _ => Operation.Sweeping.unattached) (fun _ => trivial) (fun _ => trivial) command ?_ ?_
  · intro data same
    exact (other data same).elim
  · intro payload rawBody signature _
    exact (WebhooksService.delivering_processWebhook deployment payload rawBody signature).mono
      fun _ => Operation.Delivering.unattached

end Payroute
