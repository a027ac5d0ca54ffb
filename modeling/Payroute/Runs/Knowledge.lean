import Payroute.Effects.Protocol
import Payroute.Runs.Calls
import Payroute.Runs.Publications

/-! # What the processes know

A process knows the payments its replies showed it. Outside a database transaction these
are committed; inside one it also knows those it has drafted, and they are committed once
its `COMMIT` is acknowledged. The protocol of this module lets a process publish only
about committed payments it knows, and nothing while its transaction is open.
-/

namespace Payroute

open EffectSystem KeyedTable

/-! ## Calls and their replies -/

/-- One of the payments is what the publication is about. -/
def Publication.Founded (known : Set Transaction) (publication : Publication) : Prop :=
  ∃ row ∈ known, publication.About row

theorem Publication.Founded.mono {known more : Set Transaction} {publication : Publication}
    (founded : publication.Founded known) (kept : known ⊆ more) : publication.Founded more := by
  obtain ⟨row, member, about⟩ := founded
  exact ⟨row, kept member, about⟩

/-- The payment is opened as the draft says. -/
structure TransactionDraft.Opens (draft : TransactionDraft) (row : Transaction) : Prop where
  sourceAmount : numericOfText draft.sourceAmount = some row.sourceAmount
  sourceCurrency : draft.sourceCurrency = row.sourceCurrency
  destinationCurrency : draft.destinationCurrency = row.destinationCurrency
  senderAccountId : draft.senderAccountId = row.senderAccountId

namespace Operation

/-- The call neither begins nor ends a transaction. -/
def Free : Operation → Prop
  | .begin _ | .commit | .rollback => False
  | _ => True

/-- The call publishes only about known payments. -/
def Founded (known : Set Transaction) (op : Operation) : Prop :=
  ∀ publication, op.Publishing publication → publication.Founded known

/-- The payments a reply shows are known. -/
def Teaches (known : Set Transaction) : (op : Operation) → Except Failure op.Reply → Prop
  | .sql (.select (.transaction id)), .ok (some row) => row ∈ known ∧ row.id = id
  | .sql (.select (.stuck _)), .ok rows => ∀ row ∈ rows, row ∈ known
  | .sql (.select (.payments _ _ _)), .ok page => ∀ listed ∈ page.1, listed.payment ∈ known
  | .sql (.select (.idempotencyKey _)), .ok (some row) =>
      ∀ body, row.responseBody = some body → (Publication.payment body).Founded known
  | .sql (.lockTransaction id _), .ok (some row) => row ∈ known ∧ row.id = id
  | .sql (.lockTransactionByReference _), .ok (some row) => row ∈ known
  | .sql (.insertTransaction draft), .ok row => row ∈ known ∧ draft.Opens row
  | .cacheGet key, .ok (some value) =>
      ∀ publication, value.Shows key publication → publication.Founded known
  | .queueGet _, .ok (some job) => (Publication.job job.data).Founded known
  | _, _ => True

theorem teaches_error (known : Set Transaction) (op : Operation) (error : Failure) :
    op.Teaches known (.error error) := by
  cases op with
  | sql statement =>
      cases statement with
      | select query => cases query <;> trivial
      | _ => trivial
  | _ => trivial

theorem Handling.free {op : Operation} (handling : op.Handling) : op.Free := by
  rcases handling with inner | ⟨id, patch, rfl⟩
  · cases op with
    | begin _ | commit | rollback => exact inner.elim
    | _ => trivial
  · trivial

/-- The code inside the transactions publishes nothing. -/
theorem Handling.unpublished {op : Operation} (handling : op.Handling)
    (publication : Publication) : ¬ op.Publishing publication := by
  intro publishing
  rcases handling with inner | ⟨id, patch, rfl⟩
  · cases publishing with
    | cached ttlMs shows =>
        cases shows with
        | _ => exact inner.elim
    | _ => exact inner.elim
  · cases publishing

/-- The code inside the transactions touches no idempotency key. -/
theorem Handling.unkeyed {statement : Statement} (handling : (Operation.sql statement).Handling)
    {view : Database} {session : Session} {outcome : Outcome statement.Reply}
    (done : statement.eval view session = .ok outcome) (row : IdempotencyKey) :
    outcome.writes ≠ some (.key row) := by
  intro written
  have writes := Statement.written_of_eval done written
  generalize outcome.locks = locks, outcome.draws = draws at writes
  rcases handling with inner | ⟨id, patch, same⟩
  · cases writes with
    | _ => exact inner.elim
  · cases same
    cases writes

end Operation

/-! ## What a process sees -/

namespace World

variable {world : World} {who : ProcessId}

/-- The open transaction of the process began on tables whose payments are still there. -/
def Dated (world : World) (who : ProcessId) : Prop :=
  ∀ session, world.sessions who = some session → session.snapshot.Persists world.db

/-- What the tables a process starts from hold is committed. -/
theorem Dated.holds_base (dated : world.Dated who) {row : Transaction}
    (holds : (world.base who).Holds row) : world.db.Holds row := by
  unfold base at holds
  cases opened : world.sessions who with
  | none =>
      rw [opened] at holds
      exact holds
  | some session =>
      have persists := dated session opened
      obtain ⟨isolation, snapshot, startedAt, log⟩ := session
      rw [opened] at holds
      cases isolation with
      | readCommitted => exact holds
      | serializable => exact holds.persists persists

/-- The next payment is none the process sees. -/
theorem Sound.unseen (sound : world.Sound) (dated : world.Dated who) :
    (world.view who).transactions.get? (world.next .transaction) = none := by
  obtain ⟨absent, -, -, free⟩ := sound.fresh _ (Nat.le_refl (world.next .transaction))
  have unguarded : ∀ version ∈ world.log who,
      version.guard ≠ some (.transaction (world.next .transaction)) := by
    intro version member guard
    rw [sound.covered_log member guard] at free
    cases free
  have kept := ((world.base who).agreeAt_replay unguarded).1
  cases seen : (world.view who).transactions.get? (world.next .transaction) with
  | none => rfl
  | some row =>
      have found : (world.base who).transactions.get? (world.next .transaction) = some row :=
        kept.symm.trans seen
      have named : row.id = world.next .transaction := Table.key_of_get? found
      obtain ⟨current, committed, _⟩ := dated.holds_base (Database.holds_of_get? found)
      rw [named, absent] at committed
      cases committed

/-- What a statement writes keeps the terms of the payments the process sees. -/
theorem keepsTerms_of_eval (sound : world.Sound) (dated : world.Dated who)
    {statement : Statement} {outcome : Outcome statement.Reply}
    (done : statement.eval (world.view who) (world.session who) = .ok outcome)
    {version : Write} (written : outcome.writes = some version) :
    version.KeepsTerms (world.view who) := by
  have writes := Statement.written_of_eval done written
  generalize outcome.locks = locks, outcome.draws = draws at writes
  cases writes with
  | patch patch found =>
      intro current there
      cases Option.some.inj (found.symm.trans there)
      exact patch.terms_apply _
  | payment draft _ _ =>
      intro current there
      change (world.view who).transactions.get? (world.next .transaction) = some current at there
      rw [sound.unseen dated] at there
      cases there
  | _ => trivial

/-- The tables a process sees after a statement. -/
theorem view_written {ρ : Type} (outcome : Outcome ρ) :
    (world.apply who outcome).view who = match outcome.writes with
      | some version => (world.view who).write version
      | none => world.view who := by
  cases opened : world.sessions who with
  | some session => exact view_apply opened
  | none =>
      have closed : (world.apply who outcome).sessions who = none := by
        rw [apply_closed outcome opened]
        exact opened
      rw [view_closed closed, view_closed opened]
      exact apply_closed_db opened

/-- A process goes on seeing the payments it saw. -/
theorem holds_execute (sound : world.Sound) (dated : world.Dated who) {statement : Statement}
    {row : Transaction} (holds : (world.view who).Holds row) :
    ((world.execute who statement).2.view who).Holds row := by
  rcases execute_cases world who statement with ⟨error, refused⟩ | ⟨outcome, done, _, ran⟩
  · rw [refused]
    exact holds
  · rw [ran, view_written]
    cases written : outcome.writes with
    | none => exact holds
    | some version => exact holds.write (keepsTerms_of_eval sound dated done written)

end World

/-! ## Replies -/

namespace World

variable {world : World} {who : ProcessId} {known : Set Transaction}

/-- A payment a statement inserts is one the process then sees, opened as drafted. -/
theorem inserted_of_execute {draft : TransactionDraft} {row : Transaction}
    (returned : (world.execute who (.insertTransaction draft)).1 = .ok row) :
    ((world.execute who (.insertTransaction draft)).2.view who).Holds row ∧ draft.Opens row := by
  rcases execute_cases world who (.insertTransaction draft) with
    ⟨error, refused⟩ | ⟨outcome, done, _, ran⟩
  · rw [refused] at returned
    cases returned
  · rw [ran] at returned ⊢
    rw [view_written]
    simp only [Statement.eval, Database.insertTransaction] at done
    split at done
    · cases done
    · next read _ _ =>
      split at done
      · cases done
      · cases done
        cases returned
        exact ⟨Database.holds_of_get? (Table.get?_put_self _ _), read, rfl, rfl, rfl⟩
    · cases done

/-- What a query returns is what the process sees. -/
theorem teaches_select (seen : ∀ row, (world.view who).Holds row → row ∈ known) (query : Query)
    (outside : ¬ (Operation.sql (.select query)).Handling → world.sessions who = none ∧
      ∀ publication, world.Publishes publication → publication.Founded known) :
    (Operation.sql (.select query)).Teaches known (.ok (query.eval (world.view who))) := by
  have listed : ∀ row ∈ (world.view who).transactions.rows, row ∈ known := fun row member =>
    seen row (Database.holds_of_mem member)
  cases query with
  | transaction id =>
      change Operation.Teaches known (.sql (.select (.transaction id)))
        (.ok ((world.view who).transactions.get? id))
      cases found : (world.view who).transactions.get? id with
      | none => trivial
      | some row => exact ⟨seen row (Database.holds_of_get? found), Table.key_of_get? found⟩
  | stuck cutoff =>
      intro row member
      have selected := (List.mem_insertionSort _).mp member
      exact listed row (List.mem_of_mem_filter selected)
  | payments filter skip take =>
      intro listing member
      obtain ⟨row, paged, rfl⟩ := List.mem_map.mp member
      have sorted := List.mem_of_mem_drop (List.mem_of_mem_take paged)
      exact listed row (List.mem_of_mem_filter ((List.mem_insertionSort _).mp sorted))
  | idempotencyKey key =>
      change Operation.Teaches known (.sql (.select (.idempotencyKey key)))
        (.ok ((world.view who).idempotencyKeys.get? key))
      cases found : (world.view who).idempotencyKeys.get? key with
      | none => trivial
      | some row =>
          intro body answered
          have unhandled : ¬ (Operation.sql (.select (.idempotencyKey key))).Handling := by
            intro handling
            rcases handling with inner | ⟨_, _, absurd⟩
            · exact inner
            · cases absurd
          obtain ⟨closed, founded⟩ := outside unhandled
          rw [view_closed closed] at found
          exact founded _ (.recorded (Table.mem_of_get? found) answered)
  | _ => trivial

/-- The replies of a world all of whose publications are founded. -/
theorem teaches_perform {op : Operation}
    (seen : ∀ row, (world.view who).Holds row → row ∈ known)
    (later : ∀ row, ((world.perform who op).2.view who).Holds row → row ∈ known)
    (outside : ¬ op.Handling → world.sessions who = none ∧
      ∀ publication, world.Publishes publication → publication.Founded known) :
    op.Teaches known (world.perform who op).1 := by
  cases op with
  | sql statement =>
      change (Operation.sql statement).Teaches known (world.execute who statement).1
      cases statement with
      | select query =>
          have ran : world.execute who (.select query) =
            (.ok (query.eval (world.view who)), world) := rfl
          rw [ran]
          exact teaches_select seen query outside
      | lockTransaction id nowait =>
          rcases execute_cases world who (.lockTransaction id nowait) with
            ⟨error, refused⟩ | ⟨outcome, done, _, ran⟩
          · rw [refused]
            trivial
          · rw [ran]
            cases done
            change Operation.Teaches known (.sql (.lockTransaction id nowait))
              (.ok ((world.view who).transactions.get? id))
            cases found : (world.view who).transactions.get? id with
            | none => trivial
            | some row => exact ⟨seen row (Database.holds_of_get? found), Table.key_of_get? found⟩
      | lockTransactionByReference reference =>
          rcases execute_cases world who (.lockTransactionByReference reference) with
            ⟨error, refused⟩ | ⟨outcome, done, _, ran⟩
          · rw [refused]
            trivial
          · rw [ran]
            cases done
            change Operation.Teaches known (.sql (.lockTransactionByReference reference))
              (.ok ((world.view who).byReference reference))
            cases found : (world.view who).byReference reference with
            | none => trivial
            | some row =>
                exact seen row (Database.holds_of_get? (Database.byReference_get? found))
      | insertTransaction draft =>
          cases returned : (world.execute who (.insertTransaction draft)).1 with
          | error error => trivial
          | ok row =>
              obtain ⟨holds, opens⟩ := inserted_of_execute returned
              exact ⟨later row holds, opens⟩
      | _ => trivial
  | cacheGet key =>
      change Operation.Teaches known (.cacheGet key) (.ok (world.cache key))
      cases cached : world.cache key with
      | none => trivial
      | some value =>
          intro publication shows
          refine (outside fun handling => ?_).2 _ (.cached cached shows)
          rcases handling with inner | ⟨_, _, absurd⟩
          · cases shows with
            | _ => exact inner
          · cases absurd
  | queueGet id =>
      change Operation.Teaches known (.queueGet id) (.ok (world.jobs.get? id))
      cases queued : world.jobs.get? id with
      | none => trivial
      | some job =>
          refine (outside fun handling => ?_).2 _ (.job (Table.mem_of_get? queued))
          rcases handling with inner | ⟨_, _, absurd⟩
          · exact inner
          · cases absurd
  | _ => trivial

end World

/-! ## The protocol -/

/-- Where a process stands with its database transaction, and the payments it knows. -/
inductive Standing where
  | outside (known : Set Transaction)
  /-- In a transaction, with the payments it knew before. -/
  | inside (before known : Set Transaction)
  /-- About to roll back. -/
  | ending (before : Set Transaction)

/-- How a call and its reply move a process. -/
inductive Knowledge : Standing → (op : Operation) → Except Failure op.Reply → Standing → Prop
  | served {known more : Set Transaction} {op : Operation} {reply : Except Failure op.Reply}
      (free : op.Free) (founded : op.Founded known) (kept : known ⊆ more)
      (teaches : op.Teaches more reply) : Knowledge (.outside known) op reply (.outside more)
  | begun (known : Set Transaction) (isolation : Isolation) :
      Knowledge (.outside known) (.begin isolation) (.ok ()) (.inside known known)
  | refused (known : Set Transaction) (isolation : Isolation) (error : Failure) :
      Knowledge (.outside known) (.begin isolation) (.error error) (.ending known)
  | drafted {before known more : Set Transaction} {op : Operation}
      {reply : Except Failure op.Reply} (handling : op.Handling) (kept : known ⊆ more)
      (teaches : op.Teaches more reply) :
      Knowledge (.inside before known) op reply (.inside before more)
  | committed (before known : Set Transaction) :
      Knowledge (.inside before known) .commit (.ok ()) (.outside known)
  | uncommitted (before known : Set Transaction) (error : Failure) :
      Knowledge (.inside before known) .commit (.error error) (.ending before)
  | abandoned (before known : Set Transaction) (reply : Except Failure Unit) :
      Knowledge (.inside before known) .rollback reply (.outside before)
  | ended (before : Set Transaction) (reply : Except Failure Unit) :
      Knowledge (.ending before) .rollback reply (.outside before)

/-- Programs that publish only about committed payments they know. -/
def knowledge : Protocol Failure Operation.Reply Standing := Knowledge

/-- What a process knows is so. -/
def Standing.Fits (who : ProcessId) (world : World) : Standing → Prop
  | .outside known => world.sessions who = none ∧ ∀ row ∈ known, world.db.Holds row
  | .inside before known =>
      (∃ session, world.sessions who = some session) ∧ World.LeavesKeys (world.log who) ∧
        world.Dated who ∧ (∀ row ∈ before, world.db.Holds row) ∧
        ∀ row ∈ known, (world.view who).Holds row
  | .ending before => ∀ row ∈ before, world.db.Holds row

namespace World

variable {world next : World} {who : ProcessId}

/-- Every publication is about a committed payment. -/
def Backed (world : World) : Prop :=
  ∀ publication, world.Publishes publication → world.db.Backs publication

/-- The steps of the others. -/
theorem fits_frame {standing : Standing} (fits : standing.Fits who world)
    (session : next.sessions who = world.sessions who) (persists : world.db.Persists next.db) :
    standing.Fits who next := by
  have held : ∀ {known : Set Transaction}, (∀ row ∈ known, world.db.Holds row) →
      ∀ row ∈ known, next.db.Holds row := fun holds row member =>
    (holds row member).persists persists
  cases standing with
  | outside known => exact ⟨session.trans fits.1, held fits.2⟩
  | ending before => exact held fits
  | inside before known =>
      obtain ⟨⟨current, opened⟩, unkeyed, dated, earlier, seen⟩ := fits
      have log : next.log who = world.log who := by
        unfold World.log
        rw [session]
      refine ⟨⟨current, session.trans opened⟩, by rw [log]; exact unkeyed, ?_, held earlier, ?_⟩
      · intro other there
        exact (dated other (session.symm.trans there)).trans persists
      · intro row member
        have holds := seen row member
        unfold World.view at holds ⊢
        rw [log]
        refine Database.holds_replay (fun other based => ?_) _ holds
        unfold base at based ⊢
        rw [session]
        rw [opened] at based ⊢
        obtain ⟨isolation, snapshot, startedAt, writes⟩ := current
        cases isolation with
        | readCommitted => exact based.persists persists
        | serializable => exact based

/-- A free call outside a transaction opens none. -/
theorem exec_free {delivery : Delivery} {op : Operation} (free : op.Free)
    (closed : world.sessions who = none) :
    (World.exec who delivery op world).2.sessions who = none := by
  rcases exec_state who delivery op world with unchanged | ran
  · rw [unchanged]
    exact closed
  · rw [ran]
    have apart : ∀ other : Operation, other.Neutral →
        (world.perform who other).2.sessions who = none := by
      intro other neutral
      rw [(perform_neutral neutral : Aside world _).sessions]
      exact closed
    cases op with
    | begin _ | commit | rollback => exact free.elim
    | sql statement => exact execute_closed closed statement
    | _ => exact apart _ trivial

/-- Where all publications are backed, the calls of a process leave them so and move it
along the protocol. -/
theorem knowledge_served {known : Set Transaction} {op : Operation} (delivery : Delivery)
    (free : op.Free) (founded : op.Founded known) (backed : world.Backed)
    (fits : (Standing.outside known).Fits who world)
    (persists : world.db.Persists (World.exec who delivery op world).2.db) :
    ∃ more, Knowledge (.outside known) op (World.exec who delivery op world).1 (.outside more) ∧
      (Standing.outside more).Fits who (World.exec who delivery op world).2 ∧
      (World.exec who delivery op world).2.Backed := by
  have closed : (World.exec who delivery op world).2.sessions who = none :=
    exec_free free fits.1
  have held : ∀ row ∈ known, (World.exec who delivery op world).2.db.Holds row :=
    fun row member => (fits.2 row member).persists persists
  refine ⟨{row | (World.exec who delivery op world).2.db.Holds row},
    .served free founded held ?_, ⟨closed, fun _ => id⟩, fun publication published => ?_⟩
  · rcases exec_cases who delivery op world with ran | ⟨failed, _⟩
    · have view := view_closed closed
      rw [ran] at persists view ⊢
      refine teaches_perform (fun row seen => ?_) (fun row seen => ?_)
        fun _ => ⟨fits.1, fun publication shown => ?_⟩
      · rw [view_closed fits.1] at seen
        exact seen.persists persists
      · rw [view] at seen
        exact seen
      · obtain ⟨row, member, about⟩ := backed publication shown
        exact ⟨row, (Database.holds_of_mem member).persists persists, about⟩
    · rw [failed]
      exact op.teaches_error _ _
  · have adds : Adds op.Publishing world (World.exec who delivery op world).2 :=
      adds_exec delivery op fun same => by subst same; exact free.elim
    rcases adds.publishes published with before | fresh
    · exact (backed publication before).persists persists
    · obtain ⟨row, member, about⟩ := founded publication fresh
      exact (held row member).backs about

/-- What a call inside a transaction leaves of the session and of the tables it sees. -/
structure Drafting (who : ProcessId) (first second : World) : Prop where
  db : second.db = first.db
  session : ∀ session, first.sessions who = some session →
    ∃ log, second.sessions who = some { session with log := log }
  unkeyed : LeavesKeys (first.log who) → LeavesKeys (second.log who)
  seen : ∀ row, (first.view who).Holds row → (second.view who).Holds row

theorem Drafting.of_eq {first second : World} (db : second.db = first.db)
    (sessions : second.sessions = first.sessions) : Drafting who first second := by
  have log : second.log who = first.log who := by
    unfold World.log
    rw [sessions]
  have view : second.view who = first.view who := by
    unfold World.view World.base
    rw [log, sessions, db]
  refine ⟨db, fun session opened => ⟨session.log, ?_⟩, ?_, ?_⟩
  · rw [sessions, opened]
  · rw [log]
    exact id
  · rw [view]
    exact fun _ => id

theorem drafting_execute (sound : world.Sound) (dated : world.Dated who) {statement : Statement}
    (handling : (Operation.sql statement).Handling) {session : OpenTransaction}
    (opened : world.sessions who = some session) :
    Drafting who world (world.execute who statement).2 := by
  have seen : ∀ row, (world.view who).Holds row →
      ((world.execute who statement).2.view who).Holds row := fun _ =>
    holds_execute sound dated
  rcases execute_cases world who statement with ⟨error, refused⟩ | ⟨outcome, done, _, ran⟩
  · rw [refused]
    exact .of_eq rfl rfl
  · rw [ran] at seen ⊢
    have shape := apply_open outcome opened
    cases written : outcome.writes with
    | none =>
        refine .of_eq ?_ ?_
        · rw [shape]
        · rw [shape, written]
    | some version =>
        have current : (world.apply who outcome).sessions who =
            some { session with log := session.log ++ [version] } := by
          rw [shape, written]
          exact Function.update_self _ _ _
        refine ⟨by rw [shape], fun other there => ?_, fun unkeyed => ?_, seen⟩
        · cases Option.some.inj (opened.symm.trans there)
          exact ⟨_, current⟩
        · rw [log_open current]
          rw [log_open opened] at unkeyed
          intro other member
          rcases List.mem_append.mp member with old | new
          · exact unkeyed other old
          · intro row same
            rw [List.mem_singleton.mp new] at same
            exact handling.unkeyed done row (written.trans (congrArg some same))

theorem drafting_perform (sound : world.Sound) (dated : world.Dated who) {op : Operation}
    (handling : op.Handling) {session : OpenTransaction}
    (opened : world.sessions who = some session) :
    Drafting who world (world.perform who op).2 := by
  have inside := handling.inside
  cases op with
  | sql statement => exact drafting_execute sound dated handling opened
  | cacheGet _ | cacheSet _ _ _ | now => exact .of_eq rfl rfl
  | _ => exact inside.elim

/-- Inside a transaction a process publishes nothing and goes on knowing what it knew. -/
theorem knowledge_drafted {before known : Set Transaction} {op : Operation} (delivery : Delivery)
    (sound : world.Sound) (handling : op.Handling) (backed : world.Backed)
    (fits : (Standing.inside before known).Fits who world) :
    ∃ more,
      Knowledge (.inside before known) op (World.exec who delivery op world).1
        (.inside before more) ∧
      (Standing.inside before more).Fits who (World.exec who delivery op world).2 ∧
      (World.exec who delivery op world).2.Backed := by
  obtain ⟨⟨session, opened⟩, unkeyed, dated, earlier, seen⟩ := fits
  have drafting : Drafting who world (World.exec who delivery op world).2 := by
    rcases exec_state who delivery op world with unchanged | ran
    · rw [unchanged]
      exact .of_eq rfl rfl
    · rw [ran]
      exact drafting_perform sound dated handling opened
  obtain ⟨log, current⟩ := drafting.session session opened
  refine ⟨{row | ((World.exec who delivery op world).2.view who).Holds row},
    .drafted handling (fun row member => drafting.seen row (seen row member)) ?_,
    ⟨⟨_, current⟩, drafting.unkeyed unkeyed, ?_, ?_, fun _ => id⟩, fun publication published => ?_⟩
  · rcases exec_cases who delivery op world with ran | ⟨failed, _⟩
    · rw [ran] at drafting ⊢
      exact teaches_perform drafting.seen (fun _ => id) fun unhandled => absurd handling unhandled
    · rw [failed]
      exact op.teaches_error _ _
  · intro other there
    rw [drafting.db]
    rw [current] at there
    cases there
    exact dated session opened
  · rw [drafting.db]
    exact earlier
  · have adds : Adds op.Publishing world (World.exec who delivery op world).2 :=
      adds_exec delivery op fun same => by subst same; exact handling.free.elim
    rw [drafting.db]
    rcases adds.publishes published with old | fresh
    · exact backed publication old
    · exact (handling.unpublished publication fresh).elim

theorem Backed.later (backed : world.Backed) {op : Operation} (delivery : Delivery)
    (unpublished : ∀ publication, ¬ op.Publishing publication)
    (unkeyed : op = .commit → LeavesKeys (world.log who))
    (persists : world.db.Persists (World.exec who delivery op world).2.db) :
    (World.exec who delivery op world).2.Backed := by
  intro publication published
  rcases (adds_exec delivery op unkeyed).publishes published with before | fresh
  · exact (backed publication before).persists persists
  · exact (unpublished publication fresh).elim

theorem knowledge_begin {known : Set Transaction} (isolation : Isolation) (delivery : Delivery)
    (fits : (Standing.outside known).Fits who world) :
    ∃ later, Knowledge (.outside known) (.begin isolation)
        (World.exec who delivery (.begin isolation) world).1 later ∧
      later.Fits who (World.exec who delivery (.begin isolation) world).2 := by
  rcases exec_cases who delivery (.begin isolation) world with ran | ⟨failed, unchanged | ran⟩
  · rw [ran]
    have opened : (world.begin who isolation).sessions who =
        some ⟨isolation, world.db, world.clock, []⟩ := Function.update_self _ _ _
    have view : (world.begin who isolation).view who = world.db := by
      unfold World.view World.base World.log
      rw [opened]
      cases isolation with
      | readCommitted => rfl
      | serializable => rfl
    refine ⟨_, .begun known isolation, ⟨_, opened⟩, ?_, ?_, fits.2, ?_⟩
    · intro version member
      rw [show (world.perform who (.begin isolation)).2.log who = [] from log_open opened] at member
      cases member
    · intro session there
      cases Option.some.inj (opened.symm.trans there)
      exact .refl _
    · intro row member
      exact view ▸ fits.2 row member
  · rw [failed, unchanged]
    exact ⟨_, .refused known isolation _, fits.2⟩
  · rw [failed, ran]
    exact ⟨_, .refused known isolation _, fits.2⟩

theorem knowledge_commit {before known : Set Transaction} (delivery : Delivery)
    (fits : (Standing.inside before known).Fits who world)
    (persists : world.db.Persists (World.exec who delivery .commit world).2.db) :
    ∃ later, Knowledge (.inside before known) .commit (World.exec who delivery .commit world).1
        later ∧ later.Fits who (World.exec who delivery .commit world).2 := by
  obtain ⟨_, _, dated, earlier, seen⟩ := fits
  have held : ∀ row ∈ before, (World.exec who delivery .commit world).2.db.Holds row :=
    fun row member => (earlier row member).persists persists
  rcases exec_cases who delivery .commit world with ran | ⟨failed, _⟩
  · rw [ran]
    refine ⟨_, .committed before known, Function.update_self _ _ _, fun row member => ?_⟩
    exact Database.holds_replay (fun _ => dated.holds_base) _ (seen row member)
  · rw [failed]
    exact ⟨_, .uncommitted before known _, held⟩

theorem knowledge_rollback {before : Set Transaction} (delivery : Delivery)
    (earlier : ∀ row ∈ before, world.db.Holds row) :
    (Standing.outside before).Fits who (World.exec who delivery .rollback world).2 :=
  ⟨Function.update_self _ _ _, earlier⟩

/-- One call of a process that follows the protocol. -/
theorem knowledge_exec {standing : Standing} {op : Operation} (delivery : Delivery)
    (sound : world.Sound) (backed : world.Backed) (fits : standing.Fits who world)
    (allowed : knowledge.Allows standing op)
    (persists : world.db.Persists (World.exec who delivery op world).2.db) :
    ∃ later, knowledge standing op (World.exec who delivery op world).1 later ∧
      later.Fits who (World.exec who delivery op world).2 ∧
      (World.exec who delivery op world).2.Backed := by
  obtain ⟨reply, later, moved⟩ := allowed
  cases moved with
  | served free founded _ _ =>
      obtain ⟨more, move, fitting, kept⟩ :=
        knowledge_served delivery free founded backed fits persists
      exact ⟨_, move, fitting, kept⟩
  | begun known isolation | refused known isolation _ =>
      obtain ⟨later, move, fitting⟩ := knowledge_begin isolation delivery fits
      exact ⟨later, move, fitting, backed.later delivery nofun nofun persists⟩
  | drafted handling _ _ =>
      obtain ⟨more, move, fitting, kept⟩ := knowledge_drafted delivery sound handling backed fits
      exact ⟨_, move, fitting, kept⟩
  | committed before known | uncommitted before known _ =>
      obtain ⟨later, move, fitting⟩ := knowledge_commit delivery fits persists
      exact ⟨later, move, fitting, backed.later delivery nofun (fun _ => fits.2.1) persists⟩
  | abandoned before known _ =>
      exact ⟨_, .abandoned before known _, knowledge_rollback delivery fits.2.2.2.1,
        backed.later delivery nofun nofun persists⟩
  | ended before _ =>
      exact ⟨_, .ended before _, knowledge_rollback delivery fits,
        backed.later delivery nofun nofun persists⟩

end World

/-! ## Pools -/

/-- Everything published is about committed payments, and the running programs know the
payments they are going to publish about. -/
structure Candid (pool : Pool ProcessId Failure Operation.Reply World) : Prop where
  backed : pool.shared.Backed
  informed : ∀ who body, pool.running who = some body → ∃ standing : Standing,
    Follows knowledge (fun _ _ => True) body standing ∧ standing.Fits who pool.shared

section Pools

variable {commit : Database → Database → Prop}
  {concludes : ProcessId → Except Failure Unit → World → Prop}
  {starts : ProcessId → Service Unit → Prop}
  {first second : Pool ProcessId Failure Operation.Reply World}

/-- One process moves on while the others notice nothing they rely on. -/
theorem Candid.update (candid : Candid first) {next : World} (backed : next.Backed)
    {who : ProcessId} {running : Option (Service Unit)}
    (others : ∀ other, other ≠ who → first.shared.Frame other next)
    (informed : ∀ body, running = some body → ∃ standing : Standing,
      Follows knowledge (fun _ _ => True) body standing ∧ standing.Fits who next) :
    Candid ⟨next, Function.update first.running who running⟩ := by
  refine ⟨backed, fun other body current => ?_⟩
  change Function.update first.running who running other = some body at current
  by_cases same : other = who
  · subst same
    rw [Function.update_self] at current
    exact informed body current
  · rw [Function.update_of_ne same] at current
    obtain ⟨standing, follows, fits⟩ := candid.informed other body current
    have frame := others other same
    exact ⟨standing, follows, World.fits_frame fits frame.session frame.persists⟩

/-- One step of a pool whose programs follow the protocol. -/
theorem Candid.step (follows : ∀ who body, starts who body →
      Follows knowledge (fun _ _ => True) body (.outside ∅))
    (valid : concurrent.Valid commit concludes first) (candid : Candid first)
    (step : Pool.Step backend (surroundings starts) first second) : Candid second := by
  have unchanged : ∀ who other, other ≠ who → first.shared.Frame other first.shared :=
    fun _ other _ => .refl other _
  cases step with
  | spawn who body free started =>
      refine candid.update candid.backed (unchanged who) fun program same => ?_
      cases same
      exact ⟨_, follows who body started, valid.resting who free, fun _ absurd => absurd.elim⟩
  | call who choice op next current ready =>
      obtain ⟨standing, ⟨allowed, goes⟩, fits⟩ := candid.informed who _ current
      obtain ⟨_, granted, _⟩ := valid.running who _ current first.shared
        ((concurrent.regular commit).refl who _) valid.inv choice
        ⟨ready, concurrent_unguarded _ _ _⟩
      have frames : ∀ other, other ≠ who →
          first.shared.Frame other (World.exec who choice op first.shared).2 := granted.frames
      have persists := (frames (who + 1) (Nat.succ_ne_self who)).persists
      obtain ⟨later, moved, fitting, backed⟩ :=
        World.knowledge_exec choice valid.inv candid.backed fits allowed persists
      refine candid.update backed frames fun program same => ?_
      cases same
      exact ⟨later, goes _ later moved, fitting⟩
  | finish who ended =>
      exact candid.update candid.backed (unchanged who) fun _ absurd => by cases absurd
  | crash who alive =>
      refine candid.update ?_ (fun other differs => World.release_frame differs)
        fun _ absurd => by cases absurd
      intro publication published
      have same : World.Adds (fun _ => False) first.shared first.shared := .refl _
      have adds : World.Adds (fun _ => False) first.shared (World.crash who first.shared) :=
        { same with }
      rcases adds.publishes published with before | absurd
      · exact candid.backed publication before
      · exact absurd.elim
  | drift next moved =>
      have elapses : first.shared.Elapses next := moved
      refine ⟨fun publication published => ?_, fun who body current => ?_⟩
      · have adds : World.Adds (fun _ => False) first.shared next := elapses.adds
        rcases adds.publishes published with before | absurd
        · change next.db.Backs publication
          rw [elapses.db]
          exact candid.backed publication before
        · exact absurd.elim
      · obtain ⟨standing, goes, fits⟩ := candid.informed who body current
        have frame := elapses.aside.frame who
        exact ⟨standing, goes, World.fits_frame fits frame.session frame.persists⟩

end Pools
end Payroute
