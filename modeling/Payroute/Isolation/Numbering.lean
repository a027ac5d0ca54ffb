import Payroute.Model.World

/-! # Identifiers are handed out once

Provider references and event identifiers in use were all taken from their
supplies, so that the next one of a supply is new.
-/

namespace Payroute

open KeyedTable

/-- The references and event identifiers in the tables were handed out. -/
structure Database.Below (db : Database) (next : Supply → Nat) : Prop where
  references : ∀ row ∈ db.transactions.rows, ∀ reference, row.providerReference = some reference →
    reference < next .reference
  events : ∀ event ∈ db.webhookEvents.rows, event.id < next .event

/-- The same of a row version. -/
def Write.Below (next : Supply → Nat) : Write → Prop
  | .transaction row => ∀ reference, row.providerReference = some reference →
      reference < next .reference
  | .event row => row.id < next .event
  | _ => True

/-- Everything a process may see or commit was handed out. -/
structure World.Numbered (world : World) : Prop where
  db : world.db.Below world.next
  snapshots : ∀ who session, world.sessions who = some session → session.snapshot.Below world.next
  logs : ∀ who session, world.sessions who = some session → ∀ version ∈ session.log,
    version.Below world.next

/-- The statement stores no reference that was not handed out. -/
def Statement.Numbers (next : Supply → Nat) : Statement → Prop
  | .updateTransaction _ patch => ∀ reference, patch.providerReference = some reference →
      reference < next .reference
  | _ => True

section Tables

variable {db : Database} {next later : Supply → Nat}

/-- Supplies only grow. -/
theorem Database.Below.mono (below : db.Below next) (grows : ∀ supply, next supply ≤ later supply) :
    db.Below later where
  references := fun row member reference found =>
    (below.references row member reference found).trans_le (grows _)
  events := fun event member => (below.events event member).trans_le (grows _)

/-- A row version keeps below a supply that grows. -/
theorem Write.Below.mono {version : Write} (below : version.Below next)
    (grows : ∀ supply, next supply ≤ later supply) : version.Below later := by
  cases version with
  | transaction row => exact fun reference found => (below reference found).trans_le (grows _)
  | event event => exact Nat.lt_of_lt_of_le below (grows _)
  | _ => trivial

/-- A numbered version keeps the tables numbered. -/
theorem Database.Below.write (below : db.Below next) {version : Write}
    (versionBelow : version.Below next) : (db.write version).Below next := by
  obtain ⟨references, events⟩ := below
  cases version with
  | transaction row =>
      refine ⟨fun other member => ?_, events⟩
      rcases (Table.mem_put_iff _ _ _).mp member with rfl | ⟨old, _⟩
      · exact versionBelow
      · exact references other old
  | event event =>
      refine ⟨references, fun other member => ?_⟩
      rcases (Table.mem_put_iff _ _ _).mp member with rfl | ⟨old, _⟩
      · exact versionBelow
      · exact events other old
  | purgeEvents cutoff =>
      exact ⟨references, fun other member =>
        events other ((Table.mem_filter_iff _ _ _).mp member).1⟩
  | account row => exact ⟨references, events⟩
  | quote row => exact ⟨references, events⟩
  | entry row => exact ⟨references, events⟩
  | history row => exact ⟨references, events⟩
  | key row => exact ⟨references, events⟩
  | purgeKeys now => exact ⟨references, events⟩

/-- So do those of a whole log. -/
theorem Database.Below.replay (below : db.Below next) {log : List Write}
    (logBelow : ∀ version ∈ log, version.Below next) : (db.replay log).Below next := by
  induction log generalizing db with
  | nil => exact below
  | cons version rest ih =>
      have first := below.write (logBelow version (List.mem_cons_self ..))
      exact ih first fun other member => logBelow other (List.mem_cons_of_mem _ member)

/-- The supplies after a statement. -/
def drawn (next : Supply → Nat) : Option Supply → Supply → Nat
  | some supply => Function.update next supply (next supply + 1)
  | none => next

/-- A draw raises its supply. -/
theorem drawn_grows (next : Supply → Nat) (draws : Option Supply) (supply : Supply) :
    next supply ≤ drawn next draws supply := by
  cases draws with
  | none => exact Nat.le_refl _
  | some taken =>
      change next supply ≤ Function.update next taken (next taken + 1) supply
      by_cases same : supply = taken
      · rw [same, Function.update_self]
        exact Nat.le_succ _
      · rw [Function.update_of_ne same]

/-- What a statement writes was handed out. -/
theorem Statement.Written.below {session : Session} (below : db.Below session.next)
    {statement : Statement} (numbers : statement.Numbers session.next) {version : Write}
    {locks : Option RowId} {draws : Option Supply}
    (written : statement.Written db session version locks draws) :
    version.Below (drawn session.next draws) := by
  cases written with
  | @patch row patch found =>
      intro reference stored
      change (patch.providerReference <|> row.providerReference) = some reference at stored
      cases patched : patch.providerReference with
      | some other =>
          rw [patched] at stored
          cases stored
          exact numbers _ patched
      | none =>
          rw [patched] at stored
          exact below.references row (Table.mem_of_get? found) reference stored
  | @mark row id patch found => exact below.events row (List.mem_of_find?_eq_some found)
  | payment draft => exact fun reference absurd => by cases absurd
  | event draft =>
      change session.next .event <
        Function.update session.next .event (session.next .event + 1) .event
      rw [Function.update_self]
      exact Nat.lt_succ_self _
  | _ => trivial

end Tables

namespace World.Numbered

variable {world : World} {who : ProcessId}

/-- The same tables and sessions are numbered by larger supplies. -/
theorem mono {last : World} (numbered : world.Numbered) (db : last.db = world.db)
    (sessions : last.sessions = world.sessions)
    (grows : ∀ supply, world.next supply ≤ last.next supply) : last.Numbered where
  db := by rw [db]; exact numbered.db.mono grows
  snapshots := by
    rw [sessions]
    exact fun other session opened => (numbered.snapshots other session opened).mono grows
  logs := by
    rw [sessions]
    exact fun other session opened version member =>
      (numbered.logs other session opened version member).mono grows

/-- What a process sees is numbered. -/
theorem view (numbered : world.Numbered) : (world.view who).Below world.next := by
  unfold World.view World.base World.log
  cases opened : world.sessions who with
  | none => exact numbered.db
  | some session =>
      have logs := numbered.logs who session opened
      obtain ⟨isolation, snapshot, startedAt, log⟩ := session
      cases isolation with
      | readCommitted => exact numbered.db.replay logs
      | serializable => exact (numbered.snapshots who _ opened).replay logs

/-- Replacing the session of a process. -/
theorem update (numbered : world.Numbered) (who : ProcessId) (session : Option OpenTransaction)
    {last : World} (db : last.db.Below last.next)
    (grows : ∀ supply, world.next supply ≤ last.next supply)
    (sessions : last.sessions = Function.update world.sessions who session)
    (own : ∀ opened, session = some opened → opened.snapshot.Below last.next ∧
      ∀ version ∈ opened.log, version.Below last.next) : last.Numbered := by
  refine ⟨db, fun other opened found => ?_, fun other opened found version member => ?_⟩
  · rw [sessions] at found
    by_cases same : other = who
    · rw [same, Function.update_self] at found
      exact (own opened found).1
    · rw [Function.update_of_ne same] at found
      exact (numbered.snapshots other opened found).mono grows
  · rw [sessions] at found
    by_cases same : other = who
    · rw [same, Function.update_self] at found
      exact (own opened found).2 version member
    · rw [Function.update_of_ne same] at found
      exact (numbered.logs other opened found version member).mono grows

/-- The end of a transaction keeps the numbering. -/
theorem release (numbered : world.Numbered) : (world.release who).Numbered :=
  numbered.update who none numbered.db (fun _ => Nat.le_refl _) rfl
    fun _ absurd => by cases absurd

/-- So does its beginning. -/
theorem begin (numbered : world.Numbered) (isolation : Isolation) :
    (world.begin who isolation).Numbered := by
  refine numbered.update who (some
    { isolation, snapshot := world.db, startedAt := world.clock, log := [] }) numbered.db
    (fun _ => Nat.le_refl _) rfl ?_
  rintro _ ⟨⟩
  exact ⟨numbered.db, fun _ member => (List.not_mem_nil member).elim⟩

/-- So does its commit. -/
theorem commit (numbered : world.Numbered) : (world.commit who).Numbered := by
  refine numbered.update who none ?_ (fun _ => Nat.le_refl _) rfl
    fun _ absurd => by cases absurd
  change (world.db.replay (world.log who)).Below world.next
  unfold World.log
  cases opened : world.sessions who with
  | none => exact numbered.db
  | some session => exact numbered.db.replay (numbered.logs who session opened)

end World.Numbered
end Payroute
