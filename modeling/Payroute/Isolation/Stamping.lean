import Payroute.Isolation.Steps

/-! # The time in a database transaction

`NOW()` is the time a transaction began, so that the history rows it writes all carry
one timestamp, whenever it commits.
-/

namespace Payroute

open KeyedTable

/-- The rows the second database adds to the history share a timestamp. -/
def Database.Stamps (first second : Database) : Prop :=
  ∃ now, ∀ row ∈ second.stateHistory, row ∈ first.stateHistory ∨ row.timestamp = now

/-- A history row that is written carries the time of its transaction. -/
def Write.Stamped (now : Nat) : Write → Prop
  | .history row => row.timestamp = now
  | _ => True

/-- The writes of every open transaction carry its time. -/
def World.Stamped (world : World) : Prop :=
  ∀ who session, world.sessions who = some session → ∀ version ∈ session.log,
    version.Stamped session.startedAt

theorem Database.Stamps.of_eq {first second : Database}
    (same : second.stateHistory = first.stateHistory) : first.Stamps second :=
  ⟨0, fun _ member => .inl (same ▸ member)⟩

theorem Database.Stamps.replay {db : Database} {log : List Write} {now : Nat}
    (stamped : ∀ version ∈ log, version.Stamped now) : db.Stamps (db.replay log) := by
  refine ⟨now, ?_⟩
  induction log using List.reverseRecOn with
  | nil => exact fun row member => .inl member
  | append_singleton rest last ih =>
      have earlier := ih fun version member => stamped version (List.mem_append_left _ member)
      have latest := stamped last (List.mem_append_right _ (List.mem_singleton.mpr rfl))
      rw [Database.replay_concat]
      intro row member
      cases last with
      | history written =>
          rcases List.mem_append.mp member with old | new
          · exact earlier row old
          · rw [List.mem_singleton.mp new]
            exact .inr latest
      | _ => exact earlier row member

/-- A statement writes history rows with the time it is given. -/
theorem Statement.Written.stamped {db : Database} {session : Session} {statement : Statement}
    {version : Write} {locks : Option RowId} {draws : Option Supply}
    (written : statement.Written db session version locks draws) :
    version.Stamped session.now := by
  cases written with
  | history _ _ _ => rfl
  | _ => trivial

namespace World

variable {world : World} {who : ProcessId}

theorem Stamped.mono {last : World} (stamped : world.Stamped)
    (sessions : ∀ other session, last.sessions other = some session →
      world.sessions other = some session) : last.Stamped :=
  fun other session opened => stamped other session (sessions other session opened)

/-- Replacing the session of a process. -/
theorem Stamped.update (stamped : world.Stamped) {session : Option OpenTransaction} {last : World}
    (sessions : last.sessions = Function.update world.sessions who session)
    (own : ∀ opened, session = some opened → ∀ version ∈ opened.log,
      version.Stamped opened.startedAt) : last.Stamped := by
  intro other opened found
  rw [sessions] at found
  by_cases same : other = who
  · rw [same, Function.update_self] at found
    exact own opened found
  · rw [Function.update_of_ne same] at found
    exact stamped other opened found

theorem Stamped.release (stamped : world.Stamped) : (world.release who).Stamped :=
  stamped.update rfl fun _ absurd => by cases absurd

/-- What a statement does keeps the times. -/
theorem Stamped.apply {ρ : Type} (stamped : world.Stamped) (outcome : Outcome ρ)
    (written : ∀ version, outcome.writes = some version →
      version.Stamped (world.session who).now) :
    (world.apply who outcome).Stamped ∧ world.db.Stamps (world.apply who outcome).db := by
  cases opened : world.sessions who with
  | none =>
      have shape := apply_closed outcome opened
      refine ⟨stamped.mono fun other session found => ?_, ?_⟩
      · rw [shape] at found
        exact found
      · rw [shape]
        cases writes : outcome.writes with
        | none => exact .of_eq rfl
        | some version =>
            have single : ∀ other ∈ [version], other.Stamped (world.session who).now := by
              intro other member
              rw [List.mem_singleton.mp member]
              exact written version writes
            exact Database.Stamps.replay single
  | some session =>
      have shape := apply_open outcome opened
      have now : (world.session who).now = session.startedAt := by
        unfold World.session
        rw [opened]
      rw [now] at written
      constructor
      · cases writes : outcome.writes with
        | none =>
            refine stamped.mono fun other found same => ?_
            rw [shape, writes] at same
            exact same
        | some version =>
            have sessions : (world.apply who outcome).sessions = Function.update world.sessions who
                (some { session with log := session.log ++ [version] }) := by
              rw [shape, writes]
            refine stamped.update sessions ?_
            rintro _ ⟨⟩ other member
            rcases List.mem_append.mp member with old | new
            · exact stamped who session opened other old
            · rw [List.mem_singleton.mp new]
              exact written version writes
      · rw [shape]
        exact .of_eq rfl

/-- One call keeps the times, and what it commits shares one. -/
theorem Stamped.perform (stamped : world.Stamped) (op : Operation) :
    (world.perform who op).2.Stamped ∧ world.db.Stamps (world.perform who op).2.db := by
  by_cases neutral : op.Neutral
  · have aside : world.Aside (world.perform who op).2 := perform_neutral neutral
    refine ⟨stamped.mono fun other session found => ?_, .of_eq (by rw [aside.db])⟩
    rw [aside.sessions] at found
    exact found
  cases op with
  | begin isolation =>
      refine ⟨stamped.update rfl ?_, .of_eq rfl⟩
      rintro _ ⟨⟩ version member
      cases member
  | commit =>
      refine ⟨stamped.release, ?_⟩
      change world.db.Stamps (world.db.replay (world.log who))
      unfold World.log
      cases opened : world.sessions who with
      | none => exact .of_eq rfl
      | some session => exact .replay (stamped who session opened)
  | rollback => exact ⟨stamped.release, .of_eq rfl⟩
  | sql statement =>
      change (world.execute who statement).2.Stamped ∧
        world.db.Stamps (world.execute who statement).2.db
      rcases execute_cases world who statement with ⟨error, failed⟩ | ⟨outcome, done, _, ran⟩
      · rw [failed]
        exact ⟨stamped, .of_eq rfl⟩
      · rw [ran]
        exact stamped.apply outcome fun _ written =>
          (Statement.written_of_eval done written).stamped
  | _ => exact (neutral trivial).elim

theorem Stamped.exec (stamped : world.Stamped) (delivery : Delivery) (op : Operation) :
    (World.exec who delivery op world).2.Stamped ∧
      world.db.Stamps (World.exec who delivery op world).2.db := by
  rcases exec_state who delivery op world with same | ran
  · rw [same]
    exact ⟨stamped, .of_eq rfl⟩
  · rw [ran]
    exact stamped.perform op

end World
end Payroute
