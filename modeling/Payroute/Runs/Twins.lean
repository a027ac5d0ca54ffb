import Mathlib.Data.Option.Basic
import Payroute.Runs.References
import Payroute.Runs.Schedules
import Payroute.Runs.Ties

/-! # Worlds that differ in event rows

The worlds of two runs are twins when their tables are, also those inside the open
transactions, and nothing else differs but the next event identifier. Corresponding calls
get the same reply from twins and leave twins. A delivery may be stored in both runs at the
same time or by the full run alone; only a key that is taken in the full run alone makes the
replies differ.
-/

namespace Payroute

open EffectSystem KeyedTable

/-! ## Worlds -/

/-- Two transactions that began at the same point and did the same. -/
structure OpenTransaction.Twins (ties : Ties) (first second : OpenTransaction) : Prop where
  isolation : second.isolation = first.isolation
  snapshot : first.snapshot.Twins ties second.snapshot
  startedAt : second.startedAt = first.startedAt
  log : List.Forall₂ (Write.Twins ties) first.log second.log

/-- The worlds differ in event rows and in the identifiers of these only. -/
structure World.Twins (ties : Ties) (first second : World) : Prop where
  db : first.db.Twins ties second.db
  sessions : ∀ who, Option.Rel (OpenTransaction.Twins ties) (first.sessions who)
    (second.sessions who)
  rowLocks : second.rowLocks = first.rowLocks
  redisLocks : second.redisLocks = first.redisLocks
  cache : second.cache = first.cache
  jobs : second.jobs = first.jobs
  callbacks : second.callbacks = first.callbacks
  emitted : second.emitted = first.emitted
  clock : second.clock = first.clock
  next : ∀ supply, supply ≠ .event → second.next supply = first.next supply
  short : first.next .event = ties.short
  full : second.next .event = ties.full
  journal : second.journal = first.journal

/-- The statement neither stores nor changes an event row; it may purge them. -/
def Statement.Eventless : Statement → Prop
  | .insertEvent _ | .updateEvent _ _ => False
  | _ => True

/-- A call without such a statement. -/
def Operation.Eventless : Operation → Prop
  | .sql statement => statement.Eventless
  | _ => True

/-- Calls that correspond: the same one, or marks on two tied event rows. -/
inductive Operation.Twins (ties : Ties) : Operation → Operation → Prop
  | same {op : Operation} (eventless : op.Eventless) : Operation.Twins ties op op
  | mark {tie : Tie} (made : tie ∈ ties.made) (patch : WebhookEventPatch) :
      Operation.Twins ties (.sql (.updateEvent tie.short patch))
        (.sql (.updateEvent tie.full patch))

/-- Twin calls stay twins when the ties grow. -/
theorem Operation.Twins.grow {ties later : Ties} {op image : Operation}
    (twins : op.Twins ties image) (grows : ties.Grows later) : op.Twins later image := by
  cases twins with
  | same eventless => exact .same eventless
  | mark made patch => exact .mark (grows.made _ made) patch

/-- A statement that touches no event rows returns and does the same on twins. -/
theorem Statement.Eventless.eval {ties : Ties} {first second : Database} {session image : Session}
    {statement : Statement} (eventless : statement.Eventless) (twins : first.Twins ties second)
    (now : image.now = session.now)
    (next : ∀ supply, supply ≠ .event → image.next supply = session.next supply) :
    statement.eval second image = statement.eval first session := by
  obtain ⟨supply, date⟩ := session
  obtain ⟨others, later⟩ := image
  cases now
  have transaction : others .transaction = supply .transaction := next .transaction (by decide)
  have entry : others .entry = supply .entry := next .entry (by decide)
  have quote : others .quote = supply .quote := next .quote (by decide)
  rw [← twins.rest]
  cases statement with
  | insertEvent _ | updateEvent _ _ => exact eventless.elim
  | select query => cases query <;> rfl
  | insertEntry draft =>
      simp only [Statement.eval, Database.insertEntry]
      rw [entry]
  | insertTransaction draft =>
      simp only [Statement.eval, Database.insertTransaction]
      rw [transaction]
  | insertQuote draft =>
      simp only [Statement.eval, Payroute.insertQuote]
      rw [quote]
  | _ => rfl

/-- Nor does it write event rows or take their identifiers. -/
theorem Statement.Eventless.outcome {view : Database} {session : Session} {statement : Statement}
    (eventless : statement.Eventless) {outcome : Outcome statement.Reply}
    (done : statement.eval view session = .ok outcome) :
    outcome.draws ≠ some .event ∧
      ∀ version, outcome.writes = some version → ∀ row, version ≠ .event row := by
  rcases Statement.eval_cases done with ⟨writes, draws, _⟩ | ⟨version, writes, written⟩
  · rw [writes, draws]
    refine ⟨(Option.some_ne_none _).symm, ?_⟩
    intro version absurd
    cases absurd
  · rw [writes]
    generalize outcome.locks = locks, outcome.draws = draws at written ⊢
    cases written with
    | mark _ _ _ | event _ _ => exact eventless.elim
    | _ =>
        constructor
        · rintro ⟨⟩
        · rintro _ ⟨⟩ row ⟨⟩

namespace World.Twins

variable {ties later : Ties} {first second : World} {who : ProcessId}

/-- So do the sessions of twin worlds. -/
theorem grow_sessions (twins : first.Twins ties second) (grows : ties.Grows later)
    (who : ProcessId) : Option.Rel (OpenTransaction.Twins later) (first.sessions who)
      (second.sessions who) := by
  have related := twins.sessions who
  generalize first.sessions who = session, second.sessions who = image at related ⊢
  cases related with
  | none => exact .none
  | some opened =>
      exact .some ⟨opened.isolation, opened.snapshot.grow grows, opened.startedAt,
        opened.log.imp fun _ _ writes => writes.grow grows⟩

/-- A process has a transaction open in both worlds or in neither. -/
theorem closed_iff (twins : first.Twins ties second) (who : ProcessId) :
    second.sessions who = none ↔ first.sessions who = none := by
  have related := twins.sessions who
  generalize first.sessions who = session, second.sessions who = image at related ⊢
  cases related with
  | none => exact Iff.rfl
  | some opened => exact iff_of_false (Option.some_ne_none _) (Option.some_ne_none _)

/-- Twin worlds give a process twin tables. -/
theorem base (twins : first.Twins ties second) (who : ProcessId) :
    (first.base who).Twins ties (second.base who) := by
  unfold World.base
  have related := twins.sessions who
  generalize first.sessions who = session, second.sessions who = image at related ⊢
  cases related with
  | none => exact twins.db
  | some opened =>
      obtain ⟨isolation, snapshot, startedAt, log⟩ := opened
      rename_i session image
      obtain ⟨kind, seen, start, writes⟩ := session
      obtain ⟨other, view, date, versions⟩ := image
      cases isolation
      cases kind with
      | readCommitted => exact twins.db
      | serializable => exact snapshot

/-- What a process has written is twinned. -/
theorem log (twins : first.Twins ties second) (who : ProcessId) :
    List.Forall₂ (Write.Twins ties) (first.log who) (second.log who) := by
  unfold World.log
  have related := twins.sessions who
  generalize first.sessions who = session, second.sessions who = image at related ⊢
  cases related with
  | none => exact .nil
  | some opened => exact opened.log

/-- What it sees is twinned. -/
theorem view (twins : first.Twins ties second) (who : ProcessId) :
    (first.view who).Twins ties (second.view who) :=
  (twins.base who).replay (twins.log who)

/-- It sees the same time. -/
theorem now (twins : first.Twins ties second) (who : ProcessId) :
    (second.session who).now = (first.session who).now := by
  simp only [World.session]
  have related := twins.sessions who
  generalize first.sessions who = session, second.sessions who = image at related ⊢
  cases related with
  | none => exact twins.clock
  | some opened => exact opened.startedAt

/-- The same rows are blocked. -/
theorem blocked_iff (twins : first.Twins ties second) (row : RowId) :
    second.Blocked who row ↔ first.Blocked who row := by
  unfold Blocked
  rw [twins.rowLocks]

/-- The same rows are stale. -/
theorem stale_iff (twins : first.Twins ties second) (row : RowId) :
    second.Stale who row ↔ first.Stale who row := by
  unfold Stale
  rw [twins.db.rowAt, (twins.base who).rowAt]

/-! ### Statements -/

/-- Supplies other than that of the events are drawn from together. -/
theorem draw (twins : first.Twins ties second) {supply : Supply} (other : supply ≠ .event) :
    (first.draw supply).Twins ties (second.draw supply) where
  db := twins.db
  sessions := twins.sessions
  rowLocks := twins.rowLocks
  redisLocks := twins.redisLocks
  cache := twins.cache
  jobs := twins.jobs
  callbacks := twins.callbacks
  emitted := twins.emitted
  clock := twins.clock
  next := by
    intro wanted differs
    simp only [World.draw]
    rw [twins.next supply other]
    by_cases same : wanted = supply
    · rw [same, Function.update_self, Function.update_self]
    · rw [Function.update_of_ne same, Function.update_of_ne same]
      exact twins.next wanted differs
  short := (Function.update_of_ne other.symm _ _).trans twins.short
  full := (Function.update_of_ne other.symm _ _).trans twins.full
  journal := twins.journal

/-- A row is locked in both worlds. -/
theorem lock (twins : first.Twins ties second) (row : RowId) :
    (first.lock who row).Twins ties (second.lock who row) := by
  unfold World.lock
  have related := twins.sessions who
  generalize first.sessions who = session, second.sessions who = image at related ⊢
  cases related with
  | none => exact twins
  | some _ => exact { twins with rowLocks := by rw [twins.rowLocks] }

/-- The transaction of one process changes. -/
theorem update (twins : first.Twins ties second) (who : ProcessId)
    {session image : Option OpenTransaction}
    (related : Option.Rel (OpenTransaction.Twins ties) session image) :
    World.Twins ties { first with sessions := Function.update first.sessions who session }
      { second with sessions := Function.update second.sessions who image } := by
  refine { twins with sessions := fun other => ?_ }
  by_cases own : other = who
  · subst own
    simp only [Function.update_self]
    exact related
  · simp only [Function.update_of_ne own]
    exact twins.sessions other

/-- Twin versions are written in both. -/
theorem write (twins : first.Twins ties second) {version image : Write}
    (writes : version.Twins ties image) :
    (first.write who version).Twins ties (second.write who image) := by
  unfold World.write
  have related := twins.sessions who
  generalize first.sessions who = session, second.sessions who = image at related ⊢
  cases related with
  | none => exact { twins with db := twins.db.write writes }
  | some opened =>
      exact twins.update who
        (.some { opened with log := List.rel_append opened.log (.cons writes .nil) })

/-- Twin outcomes are carried out in both. -/
theorem apply (twins : first.Twins ties second) (who : ProcessId) {ρ : Type}
    {outcome image : Outcome ρ} (draws : image.draws = outcome.draws)
    (other : outcome.draws ≠ some .event) (locks : image.locks = outcome.locks)
    (writes : Option.Rel (Write.Twins ties) outcome.writes image.writes) :
    (first.apply who outcome).Twins ties (second.apply who image) := by
  obtain ⟨reply, drawn, locked, written⟩ := outcome
  obtain ⟨answer, _, _, wrote⟩ := image
  cases draws
  cases locks
  -- The locks and writes follow the draw, whatever it was.
  have rest : ∀ first second : World, first.Twins ties second →
      (first.apply who { reply, locks := locked, writes := written }).Twins ties
        (second.apply who { reply := answer, locks := locked, writes := wrote }) := by
    intro first second twins
    cases locked with
    | none =>
        cases writes with
        | none => exact twins
        | some related => exact twins.write related
    | some row =>
        cases writes with
        | none => exact twins.lock row
        | some related => exact (twins.lock row).write related
  cases drawn with
  | none => exact rest first second twins
  | some supply =>
      refine rest _ _ (twins.draw ?_)
      rintro rfl
      exact other rfl

/-- A statement that inserts no event answers the same and keeps the worlds twins. -/
theorem execute (twins : first.Twins ties second) {statement : Statement}
    (eventless : statement.Eventless) :
    (second.execute who statement).1 = (first.execute who statement).1 ∧
      (first.execute who statement).2.Twins ties (second.execute who statement).2 := by
  have evaluated : statement.eval (second.view who) (second.session who) =
      statement.eval (first.view who) (first.session who) :=
    eventless.eval (twins.view who) (twins.now who) twins.next
  unfold World.execute
  rw [evaluated]
  cases done : statement.eval (first.view who) (first.session who) with
  | error error => exact ⟨rfl, twins⟩
  | ok outcome =>
      obtain ⟨other, rows⟩ := eventless.outcome done
      have writes : Option.Rel (Write.Twins ties) outcome.writes outcome.writes := by
        cases written : outcome.writes with
        | none => exact .none
        | some version => exact .some (.same (rows version written))
      have carried := twins.apply who rfl other rfl writes
      cases locked : outcome.locks with
      | none =>
          simp only [locked]
          exact ⟨trivial, carried⟩
      | some row =>
          simp only [locked, twins.blocked_iff, twins.stale_iff]
          by_cases blocked : first.Blocked who row
          · simp only [if_pos blocked]
            exact ⟨trivial, twins⟩
          · by_cases stale : first.Stale who row
            · simp only [if_neg blocked, if_pos stale]
              exact ⟨trivial, twins⟩
            · simp only [if_neg blocked, if_neg stale]
              exact ⟨trivial, carried⟩

end World.Twins

/-- A mark on an event row needs no lock. -/
theorem World.execute_updateEvent (world : World) (who : ProcessId) (id : Nat)
    (patch : WebhookEventPatch) :
    world.execute who (.updateEvent id patch) =
      (.ok (), world.apply who ((world.view who).updateEvent id patch)) := by
  unfold World.execute
  simp only [Statement.eval, Database.updateEvent]
  cases (world.view who).eventById id with
  | none => rfl
  | some row => rfl

namespace World.Twins

variable {ties later : Ties} {first second : World} {who : ProcessId}

/-- Marks on two tied rows. -/
theorem mark (twins : first.Twins ties second) (who : ProcessId) {tie : Tie}
    (made : tie ∈ ties.made) (patch : WebhookEventPatch) :
    (first.execute who (.updateEvent tie.short patch)).2.Twins ties
      (second.execute who (.updateEvent tie.full patch)).2 := by
  rw [execute_updateEvent, execute_updateEvent]
  unfold Database.updateEvent
  rcases (twins.view who).eventById made with ⟨absent, missing⟩ |
    ⟨row, image, found, looked, shape, named, processed, received⟩
  · rw [absent, missing]
    exact twins
  · rw [found, looked]
    have marked : (Write.event (patch.apply row)).Twins ties (.event (patch.apply image)) :=
      .event (shape ▸ made) named (congrArg (patch.processedAt.isSome || ·) processed) received
    exact twins.write marked

/-! ### Calls -/

/-- The end of a transaction keeps the worlds twins. -/
theorem release (twins : first.Twins ties second) (who : ProcessId) :
    (first.release who).Twins ties (second.release who) := by
  have ended := twins.update who .none
  exact { ended with
    rowLocks := by
      funext row
      simp only [World.release]
      rw [twins.rowLocks] }

/-- So does its commit. -/
theorem commit (twins : first.Twins ties second) (who : ProcessId) :
    (first.commit who).Twins ties (second.commit who) :=
  { twins.release who with db := twins.db.replay (twins.log who) }

/-- A call that touches no event answers the same and keeps the worlds twins. -/
theorem perform (twins : first.Twins ties second) (who : ProcessId) {op : Operation}
    (eventless : op.Eventless) :
    (second.perform who op).1 = (first.perform who op).1 ∧
      (first.perform who op).2.Twins ties (second.perform who op).2 := by
  cases op with
  | begin isolation =>
      exact ⟨rfl, twins.update who (.some ⟨rfl, twins.db, twins.clock, .nil⟩)⟩
  | commit => exact ⟨rfl, twins.commit who⟩
  | rollback => exact ⟨rfl, twins.release who⟩
  | sql statement => exact twins.execute eventless
  | acquireLock key ttlMs =>
      simp only [World.perform, World.acquireLock]
      rw [twins.redisLocks, twins.next .token (by decide)]
      have drawn : (first.draw .token).Twins ties (second.draw .token) := twins.draw (by decide)
      cases first.redisLocks key with
      | some lock => exact ⟨rfl, drawn⟩
      | none => exact ⟨rfl, { drawn with redisLocks := rfl }⟩
  | releaseLock key token =>
      refine ⟨rfl, ?_⟩
      simp only [World.perform, World.releaseLock]
      rw [twins.redisLocks]
      by_cases held : (first.redisLocks key).map RedisLock.token = some token
      · simp only [if_pos held]
        exact { twins with redisLocks := rfl }
      · simp only [if_neg held]
        exact twins
  | cacheGet key =>
      simp only [World.perform]
      rw [twins.cache]
      exact ⟨rfl, twins⟩
  | cacheSet key value ttlMs =>
      simp only [World.perform]
      rw [twins.cache]
      exact ⟨trivial, { twins with cache := rfl }⟩
  | cacheDelete key =>
      simp only [World.perform]
      rw [twins.cache]
      exact ⟨trivial, { twins with cache := rfl }⟩
  | cacheDeleteLists =>
      simp only [World.perform]
      rw [twins.cache]
      exact ⟨trivial, { twins with cache := rfl }⟩
  | queueAdd data attempts jobId =>
      refine ⟨rfl, ?_⟩
      simp only [World.perform, World.queueAdd]
      rw [twins.jobs, twins.next .job (by decide)]
      have drawn : (first.draw .job).Twins ties (second.draw .job) := twins.draw (by decide)
      split
      · exact twins
      · exact { drawn with jobs := rfl }
  | queueGet id =>
      simp only [World.perform]
      rw [twins.jobs]
      exact ⟨rfl, twins⟩
  | queueRemove id =>
      simp only [World.perform, World.queueRemove]
      rw [twins.jobs]
      exact ⟨trivial, { twins with jobs := rfl }⟩
  | scheduleCallback amount currency =>
      simp only [World.perform]
      rw [twins.next .reference (by decide), twins.callbacks]
      have drawn : (first.draw .reference).Twins ties (second.draw .reference) :=
        twins.draw (by decide)
      exact ⟨rfl, { drawn with callbacks := rfl }⟩
  | emit event =>
      simp only [World.perform]
      rw [twins.emitted]
      exact ⟨trivial, { twins with emitted := rfl }⟩
  | now =>
      simp only [World.perform]
      rw [twins.clock]
      exact ⟨rfl, twins⟩
  | sleep ms => exact ⟨rfl, twins⟩
  | observe note =>
      simp only [World.perform]
      rw [twins.journal]
      exact ⟨trivial, { twins with journal := rfl }⟩

end World.Twins

namespace Operation

/-- A note on an event row that does not mark it processed. -/
def Noting : Operation → Prop
  | .sql (.updateEvent _ patch) => patch.processedAt = none
  | _ => False

/-- What a delivery without a valid signature calls. -/
def Intruding : Operation → Prop
  | .sql (.insertEvent _) => True
  | op => op.Noting

end Operation

/-- The row a delivery is stored as. -/
def EventDraft.row (draft : EventDraft) (id now : Nat) : WebhookEvent where
  id := id
  providerReference := draft.providerReference
  eventType := draft.eventType
  signatureValid := draft.signatureValid
  receivedAt := now
  processed := false
  processedAt := none
  error := none

/-- There is a row under the key of the delivery. -/
def EventDraft.Taken (draft : EventDraft) (db : Database) : Prop :=
  (db.webhookEvents.get? (draft.providerReference, draft.eventType)).isSome = true

instance (draft : EventDraft) (db : Database) : Decidable (draft.Taken db) :=
  inferInstanceAs (Decidable (_ = true))

namespace World

variable {world : World} {who : ProcessId} {draft : EventDraft}

/-- The world after a delivery is stored. -/
def store (world : World) (draft : EventDraft) : World :=
  { world.draw .event with
    db := world.db.write (.event (draft.row (world.next .event) world.clock)) }

/-- Storing an event draws from no other supply. -/
theorem next_store (world : World) (draft : EventDraft) {supply : Supply}
    (other : supply ≠ .event) : (world.store draft).next supply = world.next supply :=
  Function.update_of_ne other _ _

/-- It draws the event's identifier. -/
theorem event_store (world : World) (draft : EventDraft) :
    (world.store draft).next .event = world.next .event + 1 := by
  simp only [store, draw, Function.update_self]

/-- An event that is there already is not stored again. -/
theorem execute_insertEvent_taken (closed : world.sessions who = none)
    (taken : draft.Taken world.db) :
    world.execute who (.insertEvent draft) = (.ok none, world) := by
  obtain ⟨row, found⟩ := Option.isSome_iff_exists.mp taken
  unfold World.execute
  simp only [Statement.eval, Database.insertEvent, view_closed closed, found]
  rfl

/-- One that is not there is stored. -/
theorem execute_insertEvent_free (closed : world.sessions who = none)
    (free : ¬ draft.Taken world.db) :
    world.execute who (.insertEvent draft) =
      (.ok (some (draft.row (world.next .event) world.clock)), world.store draft) := by
  have absent := Option.not_isSome_iff_eq_none.mp free
  unfold World.execute
  simp only [Statement.eval, Database.insertEvent, view_closed closed, absent]
  rw [apply_closed _ closed]
  simp only [World.session, closed]
  rfl

end World

namespace World.Twins

variable {ties later : Ties} {first second : World} {who : ProcessId}

/-- Corresponding calls get the same reply. -/
theorem exec (twins : first.Twins ties second) {op image : Operation}
    (corresponds : op.Twins ties image) (delivery : Delivery) :
    HEq (World.exec who delivery op first).1 (World.exec who delivery image second).1 ∧
      (World.exec who delivery op first).2.Twins ties (World.exec who delivery image second).2 := by
  cases corresponds with
  | same eventless =>
      obtain ⟨reply, performed⟩ := twins.perform who eventless
      unfold World.exec
      by_cases remote : op.isRemote = true
      · simp only [if_pos remote]
        cases delivery with
        | delivered => exact ⟨heq_of_eq reply.symm, performed⟩
        | lost => exact ⟨.rfl, twins⟩
        | unacknowledged => exact ⟨.rfl, performed⟩
      · simp only [if_neg remote]
        exact ⟨heq_of_eq reply.symm, performed⟩
  | @mark tie made patch =>
      have marked := twins.mark who made patch
      cases delivery with
      | delivered =>
          refine ⟨heq_of_eq ?_, marked⟩
          change (first.execute who (.updateEvent tie.short patch)).1 =
            (second.execute who (.updateEvent tie.full patch)).1
          rw [execute_updateEvent, execute_updateEvent]
      | lost => exact ⟨.rfl, twins⟩
      | unacknowledged => exact ⟨.rfl, marked⟩

/-! ### One of the two runs alone -/

/-- A note that only the short side makes keeps the worlds twins. -/
theorem note_short (twins : first.Twins ties second) (closed : first.sessions who = none)
    {op : Operation} (noting : op.Noting) (delivery : Delivery) :
    (World.exec who delivery op first).2.Twins ties second := by
  rcases exec_state who delivery op first with same | ran
  · rw [same]
    exact twins
  rw [ran]
  cases op with
  | sql statement =>
      cases statement with
      | updateEvent id patch =>
          change (first.execute who _).2.Twins ties second
          rw [execute_updateEvent, view_closed closed]
          unfold Database.updateEvent
          cases found : first.db.eventById id with
          | none => exact twins
          | some row =>
              obtain ⟨_, stored⟩ := Database.Twins.of_eventById found
              have slot := twins.db.slots (key row)
              rw [stored] at slot
              change (first.write who _).Twins ties second
              unfold World.write
              rw [closed]
              exact { twins with db := twins.db.put_short (slot.note_short noting) }
      | _ => exact noting.elim
  | _ => exact noting.elim

/-- So does one that only the full side makes. -/
theorem note_full (twins : first.Twins ties second) (closed : second.sessions who = none)
    {op : Operation} (noting : op.Noting) (delivery : Delivery) :
    first.Twins ties (World.exec who delivery op second).2 := by
  rcases exec_state who delivery op second with same | ran
  · rw [same]
    exact twins
  rw [ran]
  cases op with
  | sql statement =>
      cases statement with
      | updateEvent id patch =>
          change first.Twins ties (second.execute who _).2
          rw [execute_updateEvent, view_closed closed]
          unfold Database.updateEvent
          cases found : second.db.eventById id with
          | none => exact twins
          | some image =>
              obtain ⟨_, stored⟩ := Database.Twins.of_eventById found
              have slot := twins.db.slots (key image)
              rw [stored] at slot
              change first.Twins ties (second.write who _)
              unfold World.write
              rw [closed]
              exact { twins with db := twins.db.put_full (slot.note_full noting) }
      | _ => exact noting.elim
  | _ => exact noting.elim

/-! ### Storing deliveries -/

/-- Only the full run stores the delivery. -/
theorem store_full (twins : first.Twins ties second) {draft : EventDraft}
    (free : ¬ draft.Taken second.db) :
    first.Twins (ties.skip 0 1) (second.store draft) := by
  have grows := ties.grows_skip 0 1
  have slot := twins.db.slots (draft.providerReference, draft.eventType)
  rw [Option.not_isSome_iff_eq_none.mp free] at slot
  refine { twins with db := ?_, sessions := twins.grow_sessions grows, next := ?_, full := ?_ }
  · refine (twins.db.grow grows).put_full ?_
    change Slot _ _ (first.db.webhookEvents.get? (draft.providerReference, draft.eventType)) _
    generalize first.db.webhookEvents.get? (draft.providerReference, draft.eventType) = kept
      at slot ⊢
    cases slot with
    | vacant =>
        refine .intruded ?_ rfl
        change Ties.FullLoose _ (second.next .event)
        rw [twins.full]
        exact ties.fullLoose_skip 0
  · exact fun supply other => (next_store second draft other).trans (twins.next supply other)
  · rw [event_store, twins.full]
    rfl

/-- Only the short run stores the delivery, under a key that is taken in the full run. -/
theorem store_short (twins : first.Twins ties second) {draft : EventDraft}
    (free : ¬ draft.Taken first.db) (taken : draft.Taken second.db) :
    (first.store draft).Twins (ties.skip 1 0) second := by
  have grows := ties.grows_skip 1 0
  have slot := twins.db.slots (draft.providerReference, draft.eventType)
  obtain ⟨image, found⟩ := Option.isSome_iff_exists.mp taken
  rw [Option.not_isSome_iff_eq_none.mp free, found] at slot
  refine { twins with db := ?_, sessions := twins.grow_sessions grows, next := ?_, short := ?_ }
  · refine (twins.db.grow grows).put_short ?_
    change Slot _ _ _ (second.db.webhookEvents.get? (draft.providerReference, draft.eventType))
    rw [found]
    cases slot with
    | intruded loose pending =>
        refine .loose ?_ (loose.grow grows) (Slot.sameAge_of_pending rfl pending)
        change Ties.ShortLoose _ (first.next .event)
        rw [twins.short]
        exact ties.shortLoose_skip 0
  · exact fun supply other => (twins.next supply other).trans (next_store first draft other).symm
  · rw [event_store, twins.short]
    rfl

/-- Both runs store the delivery. -/
theorem store (twins : first.Twins ties second) (draft : EventDraft) :
    (first.store draft).Twins (ties.tie (draft.providerReference, draft.eventType))
      (second.store draft) := by
  have grows := ties.grows_tie (draft.providerReference, draft.eventType)
  refine { twins with db := ?_, sessions := twins.grow_sessions grows, next := ?_, short := ?_,
                      full := ?_ }
  · refine (twins.db.grow grows).put rfl (.tied ?_ rfl twins.clock)
    change Tie.mk (first.next .event) (second.next .event) _ ∈ _
    rw [twins.short, twins.full]
    exact List.mem_cons_self
  · intro supply other
    rw [next_store first draft other, next_store second draft other]
    exact twins.next supply other
  · rw [event_store, twins.short]
    rfl
  · rw [event_store, twins.full]
    rfl

end World.Twins

/-- What the two runs are told when they store the same delivery. -/
inductive Received (ties : Ties) :
    Except Failure (Option WebhookEvent) → Except Failure (Option WebhookEvent) → Prop
  | failed (error : Failure) : Received ties (.error error) (.error error)
  | known : Received ties (.ok none) (.ok none)
  | stored {row image : WebhookEvent} {tie : Tie} (made : tie ∈ ties.made)
      (short : row.id = tie.short) (full : image.id = tie.full) :
      Received ties (.ok (some row)) (.ok (some image))

/-- A statement outside a transaction opens none. -/
theorem World.closed_exec {world : World} {who : ProcessId} (closed : world.sessions who = none)
    (delivery : Delivery) (statement : Statement) :
    (World.exec who delivery (.sql statement) world).2.sessions who = none := by
  rcases exec_state who delivery (.sql statement) world with same | ran
  · rw [same]
    exact closed
  · rw [ran]
    exact execute_closed closed statement

/-- Making notes is something an intruding call may do. -/
theorem Operation.Noting.intruding {op : Operation} (noting : op.Noting) : op.Intruding := by
  cases op with
  | sql statement =>
      cases statement with
      | updateEvent id patch => exact noting
      | _ => exact noting.elim
  | _ => exact noting.elim

/-- An intruding call is a statement. -/
theorem Operation.Intruding.statement {op : Operation} (intruding : op.Intruding) :
    ∃ statement, op = .sql statement := by
  cases op with
  | sql statement => exact ⟨statement, rfl⟩
  | _ => exact intruding.elim

namespace World.Twins

variable {ties : Ties} {first second : World} {who : ProcessId}

/-- Both runs store one delivery at the same time. They are told the same unless the key is
taken in the full run only. -/
theorem execute_insertEvent (twins : first.Twins ties second)
    (closed : first.sessions who = none) (draft : EventDraft) :
    ∃ later, ties.Grows later ∧
      (first.execute who (.insertEvent draft)).2.Twins later
        (second.execute who (.insertEvent draft)).2 ∧
      ((draft.Taken second.db → draft.Taken first.db) →
        Received later (first.execute who (.insertEvent draft)).1
          (second.execute who (.insertEvent draft)).1) := by
  have ended : second.sessions who = none := (twins.closed_iff who).mpr closed
  by_cases taken : draft.Taken second.db
  · rw [execute_insertEvent_taken ended taken]
    by_cases known : draft.Taken first.db
    · rw [execute_insertEvent_taken closed known]
      exact ⟨ties, .refl ties, twins, fun _ => .known⟩
    · rw [execute_insertEvent_free closed known]
      exact ⟨_, ties.grows_skip 1 0, twins.store_short known taken,
        fun clear => (known (clear taken)).elim⟩
  · have free : ¬ draft.Taken first.db := by
      intro known
      have slot := twins.db.slots (draft.providerReference, draft.eventType)
      rw [Option.not_isSome_iff_eq_none.mp taken] at slot
      unfold EventDraft.Taken at known
      generalize first.db.webhookEvents.get? (draft.providerReference, draft.eventType) = kept
        at slot known
      cases slot with
      | vacant => cases known
    rw [execute_insertEvent_free ended taken, execute_insertEvent_free closed free]
    exact ⟨_, ties.grows_tie _, twins.store draft, fun _ => .stored List.mem_cons_self
      twins.short twins.full⟩

/-- An event is inserted in both worlds, and its identifiers are tied. -/
theorem insertEvent (twins : first.Twins ties second) (closed : first.sessions who = none)
    (draft : EventDraft) (delivery : Delivery) :
    ∃ later, ties.Grows later ∧
      (World.exec who delivery (.sql (.insertEvent draft)) first).2.Twins later
        (World.exec who delivery (.sql (.insertEvent draft)) second).2 ∧
      ((delivery = .delivered → draft.Taken second.db → draft.Taken first.db) →
        Received later (World.exec who delivery (.sql (.insertEvent draft)) first).1
          (World.exec who delivery (.sql (.insertEvent draft)) second).1) := by
  cases delivery with
  | delivered =>
      obtain ⟨later, grows, related, received⟩ := twins.execute_insertEvent closed draft
      exact ⟨later, grows, related, fun clear => received (clear rfl)⟩
  | lost => exact ⟨ties, .refl ties, twins, fun _ => .failed _⟩
  | unacknowledged =>
      obtain ⟨later, grows, related, _⟩ := twins.execute_insertEvent closed draft
      exact ⟨later, grows, related, fun _ => .failed _⟩

/-- A call of the full run that the short run never makes. -/
theorem intrude (twins : first.Twins ties second) (closed : second.sessions who = none)
    {op : Operation} (intruding : op.Intruding) (delivery : Delivery) :
    ∃ later, ties.Grows later ∧ first.Twins later (World.exec who delivery op second).2 := by
  cases op with
  | sql statement =>
      cases statement with
      | insertEvent draft =>
          rcases exec_state who delivery (.sql (.insertEvent draft)) second with same | ran
          · rw [same]
            exact ⟨ties, .refl ties, twins⟩
          · rw [ran]
            change ∃ later, _ ∧ first.Twins later (second.execute who (.insertEvent draft)).2
            by_cases taken : draft.Taken second.db
            · rw [execute_insertEvent_taken closed taken]
              exact ⟨ties, .refl ties, twins⟩
            · rw [execute_insertEvent_free closed taken]
              exact ⟨_, ties.grows_skip 0 1, twins.store_full taken⟩
      | updateEvent id patch =>
          have noting : Operation.Noting (.sql (.updateEvent id patch)) := intruding
          exact ⟨ties, .refl ties, twins.note_full closed noting delivery⟩
      | _ => exact intruding.elim
  | _ => exact intruding.elim

/-- Time passes in both runs. -/
theorem elapse (twins : first.Twins ties second) (time : Nat) (lockLapses : LockKey → Bool)
    (entryLapses : CacheKey → Bool) (jobs : Table ProviderJob) :
    (first.elapse time lockLapses entryLapses jobs).Twins ties
      (second.elapse time lockLapses entryLapses jobs) := by
  unfold World.elapse
  rw [twins.clock, twins.redisLocks, twins.cache]
  exact { twins with clock := rfl, redisLocks := rfl, cache := rfl, jobs := rfl }

end World.Twins

end Payroute
