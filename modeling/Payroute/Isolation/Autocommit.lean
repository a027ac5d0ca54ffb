import Payroute.Books.Settlement
import Payroute.Isolation.Outside

/-! # Statements outside of transactions

Such a statement commits at once. The services issue them to the tables beside
the books and to store a provider reference.
-/

namespace Payroute

open EffectSystem KeyedTable

namespace Database

/-- A write to the tables beside the books marks no event as processed. -/
def Write.KeepsEvents (db : Database) : Write → Prop
  | .event row => row.processed = true →
      ∃ old ∈ db.webhookEvents.rows, key old = key row ∧ old.processed = true
  | _ => True

theorem beside_write {version : Write} {db : Database} (side : version.IsSide)
    (keeps : Write.KeepsEvents db version) : db.Beside (db.write version) where
  books := sameBooks_write side db
  events := by
    intro event member processed
    cases version with
    | event row =>
        rcases (Table.mem_put_iff _ _ _).mp member with rfl | ⟨old, _⟩
        · exact keeps processed
        · exact ⟨event, old, rfl, processed⟩
    | purgeEvents cutoff =>
        exact ⟨event, ((Table.mem_filter_iff _ _ _).mp member).1, rfl, processed⟩
    | key _ => exact ⟨event, member, rfl, processed⟩
    | purgeKeys _ => exact ⟨event, member, rfl, processed⟩
    | _ => exact side.elim

end Database

/-- Statements to the tables beside the books. -/
def Statement.IsSide : Statement → Prop
  | .insertEvent _ => True
  | .updateEvent _ patch => patch.processedAt = none
  | .purgeEvents _ => True
  | .insertKey _ _ => True
  | .updateKey _ _ _ => True
  | .purgeKeys _ => True
  | _ => False

theorem Statement.IsSide.numbers {statement : Statement} (side : statement.IsSide)
    (next : Supply → Nat) : statement.Numbers next := by
  cases statement with
  | updateTransaction _ _ => exact side.elim
  | _ => trivial

theorem Statement.Written.side {statement : Statement} (side : statement.IsSide)
    {view : Database} {session : Session} {version : Write} {locks : Option RowId}
    {draws : Option Supply} (written : statement.Written view session version locks draws) :
    version.IsSide ∧ Database.Write.KeepsEvents view version := by
  cases written with
  | event draft => exact ⟨trivial, fun absurd => by cases absurd⟩
  | @mark row id patch found =>
      refine ⟨trivial, fun processed => ⟨row, List.mem_of_find?_eq_some found, rfl, ?_⟩⟩
      change (patch.processedAt.isSome || row.processed) = true at processed
      change patch.processedAt = none at side
      rwa [side, Option.isSome_none, Bool.false_or] at processed
  | purgeEvents _ | key _ _ _ | answer _ _ _ _ | purgeKeys _ => exact ⟨trivial, trivial⟩
  | _ => exact side.elim

namespace World

variable {world : World} {who : ProcessId}

/-- A statement that commits at once, by what it leaves of the protected rows. -/
theorem apply_autocommit {ρ : Type} {outcome : Outcome ρ} (sound : world.Sound)
    (closed : world.sessions who = none) (numbered : (world.apply who outcome).Numbered)
    (persists : world.db.Persists (world.apply who outcome).db)
    (agree : ∀ row, (∀ other, other ≠ who → world.rowLocks row = some other →
        world.db.AgreeAt (world.apply who outcome).db row))
    (fresh : ∀ id, world.next .transaction ≤ id →
      world.db.AgreeAt (world.apply who outcome).db (.transaction id)) :
    (world.apply who outcome).Sound ∧ (world.apply who outcome).sessions = world.sessions ∧
      ∀ other, other ≠ who → world.Frame other (world.apply who outcome) := by
  have sessions : (world.apply who outcome).sessions = world.sessions := by
    rw [apply_closed outcome closed]
  have rowLocks : (world.apply who outcome).rowLocks = world.rowLocks := by
    rw [apply_closed outcome closed]
  have supplies : ∀ supply, world.next supply ≤ (world.apply who outcome).next supply := by
    intro supply
    rw [apply_closed outcome closed]
    cases outcome.draws with
    | none => exact Nat.le_refl _
    | some drawn => exact le_next_draw world.next drawn supply
  refine ⟨⟨?_, ?_, ?_, ?_, numbered⟩, sessions, fun other differs =>
    ⟨?_, ?_, ?_, persists, supplies⟩⟩
  · rw [sessions, rowLocks]
    exact sound.covered
  · rw [sessions]
    exact sound.solvent
  · rw [sessions, rowLocks]
    exact sound.owned
  · intro id beyond
    have earlier := (supplies .transaction).trans beyond
    obtain ⟨absent, entries, history, free⟩ := sound.fresh id earlier
    obtain ⟨same, posted, recorded⟩ := fresh id earlier
    rw [rowLocks]
    exact ⟨same.trans absent, posted.trans entries, recorded.trans history, free⟩
  · rw [sessions]
  · intro row held
    rw [rowLocks]
    exact held
  · exact fun row held => agree row other differs held

theorem apply_closed_db {ρ : Type} {outcome : Outcome ρ} (closed : world.sessions who = none) :
    (world.apply who outcome).db = match outcome.writes with
      | some version => world.db.write version
      | none => world.db := by
  have applied := congrArg World.db (apply_closed outcome closed)
  exact applied

theorem apply_side {ρ : Type} {outcome : Outcome ρ} (sound : world.Sound)
    (closed : world.sessions who = none) (numbered : (world.apply who outcome).Numbered)
    (side : ∀ version, outcome.writes = some version → version.IsSide) :
    (world.apply who outcome).Sound ∧ (world.apply who outcome).sessions = world.sessions ∧
      ∀ other, other ≠ who → world.Frame other (world.apply who outcome) := by
  have books : world.db.SameBooks (world.apply who outcome).db := by
    rw [apply_closed_db closed]
    cases written : outcome.writes with
    | none => exact .refl _
    | some version => exact Database.sameBooks_write (side version written) _
  exact apply_autocommit sound closed numbered books.persists (fun row _ _ _ => books.agreeAt row)
    fun id _ => books.agreeAt _

/-- An update of a transaction settles it. -/
theorem settlement_of_update {db : Database} {id : TransactionId} {row : Transaction}
    (found : db.transactions.get? id = some row) (patch : TransactionPatch) :
    Settlement.apply { id := id, patches := [patch] } db =
      db.write (.transaction (patch.apply row)) := by
  have start : (Changes.apply {} db).transactions.get? id = some row := by
    rw [Changes.apply_empty]
    exact found
  have step := Changes.apply_patch {} patch start
  rw [Changes.apply_empty] at step
  exact step

/-- Nobody else has the row of an update that went through. -/
theorem apply_update (sound : world.Sound) (closed : world.sessions who = none)
    {id : TransactionId} {row : Transaction} (found : world.db.transactions.get? id = some row)
    (patch : TransactionPatch) (free : ¬ world.Blocked who (.transaction id))
    (numbers : (Statement.updateTransaction id patch).Numbers world.next) :
    let outcome : Outcome Unit := { reply := (), locks := some (.transaction id)
                                    writes := some (.transaction (patch.apply row)) }
    (world.apply who outcome).Sound ∧ (world.apply who outcome).sessions = world.sessions ∧
      (∀ other, other ≠ who → world.Frame other (world.apply who outcome)) ∧
      (world.apply who outcome).db =
        Settlement.apply { id := id, patches := [patch] } world.db := by
  intro outcome
  have named : row.id = id := Table.key_of_get? found
  have written : (world.apply who outcome).db = world.db.write (.transaction (patch.apply row)) :=
    apply_closed_db closed
  have settled := settlement_of_update found patch
  have agree : ∀ other : RowId, other ≠ .transaction id →
      world.db.AgreeAt (world.apply who outcome).db other := by
    intro other differs
    rw [written]
    apply Database.agreeAt_write
    intro same
    exact differs ((Option.some.inj same).symm.trans (congrArg RowId.transaction named))
  have persists : world.db.Persists (world.apply who outcome).db := by
    rw [written, ← settled]
    exact Changes.persists fun opened member => by cases member
  have done : (Statement.updateTransaction id patch).eval (world.view who) (world.session who) =
      .ok outcome := by
    rw [World.view_closed closed]
    simp only [Statement.eval, Database.updateTransaction, found]
    rfl
  have step := apply_autocommit sound closed (sound.numbered.apply_eval numbers done) persists
    (fun other process differs held => agree other fun same => free ⟨process, same ▸ held, differs⟩)
    (fun fresh beyond => agree _ fun same => by
      obtain ⟨absent, _⟩ := sound.fresh fresh beyond
      cases same
      rw [absent] at found
      cases found)
  exact ⟨step.1, step.2.1, step.2.2, written.trans settled.symm⟩

end World

namespace Setting.Outside

variable {setting : Setting} {commit : Database → Database → Prop} {who : ProcessId}
  {world : World}

/-- A call that leaves the database alone keeps what is stable. -/
theorem pass {op : Operation} (neutral : op.Neutral) {property : Database → Prop}
    (stable : ∀ first second, setting.drift first second → property first → property second)
    (holds : property world.db) :
    setting.Outside commit who (fun _ last => property last.db) (Payroute.call op) world := by
  apply Outside.neutral neutral
  · intro middle _ _ rely _
    have aside : middle.Aside (middle.perform who op).2 := World.perform_neutral neutral
    rw [aside.db]
    exact ⟨stable _ _ rely.drift holds, stable _ _ rely.drift holds⟩
  · exact fun middle rely => stable _ _ rely.drift holds

/-- A statement to the tables beside the books. -/
theorem side {statement : Statement} (side : statement.IsSide)
    {result : Except Failure statement.Reply → World → Prop}
    (step : ∀ middle, middle.Sound → middle.sessions who = none → setting.Rely who world middle →
      setting.permits middle.db (.sql statement) → setting.holds middle.db → ∀ outcome,
      statement.eval middle.db (middle.session who) = .ok outcome →
      result (.ok outcome.reply) (middle.apply who outcome) ∧
        result (.error .unavailable) (middle.apply who outcome))
    (failed : ∀ error middle, setting.Rely who world middle → result (.error error) middle) :
    setting.Outside commit who result (Payroute.sql statement) world := by
  change setting.Outside commit who result (Payroute.call (.sql statement)) world
  apply Outside.external
  · intro middle sound closed rely issues _
    have permitted := issues.permits
    rw [World.view_closed closed] at permitted
    change (middle.execute who statement).2.Sound ∧ (middle.execute who statement).2.sessions who =
      none ∧ Grant commit who middle (middle.execute who statement).2 ∧
      result (middle.execute who statement).1 (middle.execute who statement).2 ∧
      result (.error .unavailable) (middle.execute who statement).2
    rcases World.execute_cases middle who statement with ⟨error, refused⟩ | ⟨outcome, done, _, ran⟩
    · rw [refused]
      exact ⟨sound, closed, Grant.of_inside (.refl who middle), failed error middle rely,
        failed _ middle rely⟩
    · rw [ran]
      have numbered := sound.numbered.apply_eval (side.numbers _) done
      rw [World.view_closed closed] at done
      have writes := fun version (written : outcome.writes = some version) =>
        (Statement.written_of_eval done written).side side
      obtain ⟨kept, sessions, frames⟩ :=
        World.apply_side sound closed numbered fun version written => (writes version written).1
      have beside : middle.db.Beside (middle.apply who outcome).db := by
        rw [World.apply_closed_db closed]
        cases written : outcome.writes with
        | none => exact .refl _
        | some version =>
            exact Database.beside_write (writes version written).1 (writes version written).2
      obtain ⟨returned, unanswered⟩ :=
        step middle sound closed rely permitted issues.holds outcome done
      refine ⟨kept, ?_, ⟨frames, .inl beside, .of_eq beside.books.accounts⟩, returned, unanswered⟩
      rw [sessions]
      exact closed
  · exact fun middle rely => failed _ middle rely

/-- A statement to the tables beside the books whose reply does not matter. -/
theorem skipSide {statement : Statement} (side : statement.IsSide)
    {result : Except Failure statement.Reply → World → Prop}
    (holds : ∀ outcome last, result outcome last) :
    setting.Outside commit who result (Payroute.sql statement) world :=
  Outside.side side (fun _ _ _ _ _ _ _ _ => ⟨holds _ _, holds _ _⟩) fun _ _ _ => holds _ _

/-- An update of a transaction that commits at once. It waits for the row. -/
theorem updateTransaction {id : TransactionId} {patch : TransactionPatch}
    {result : Except Failure Unit → World → Prop}
    (numbers : (Statement.updateTransaction id patch).Numbers world.next)
    (commits : ∀ middle, setting.Rely who world middle →
      commit middle.db (Settlement.apply { id := id, patches := [patch] } middle.db))
    (holds : ∀ outcome last, result outcome last) :
    setting.Outside commit who result (Payroute.sql (.updateTransaction id patch)) world := by
  change setting.Outside commit who result
    (Payroute.call (.sql (.updateTransaction id patch))) world
  apply Outside.external
  · intro middle sound closed rely _ _
    have unchanged : middle.Sound ∧ middle.sessions who = none ∧ Grant commit who middle middle :=
      ⟨sound, closed, Grant.of_inside (.refl who middle)⟩
    change (middle.execute who (.updateTransaction id patch)).2.Sound ∧
      (middle.execute who (.updateTransaction id patch)).2.sessions who = none ∧
      Grant commit who middle (middle.execute who (.updateTransaction id patch)).2 ∧
      result (middle.execute who (.updateTransaction id patch)).1
        (middle.execute who (.updateTransaction id patch)).2 ∧
      result (.error .unavailable) (middle.execute who (.updateTransaction id patch)).2
    rcases World.execute_cases middle who (.updateTransaction id patch) with
      ⟨error, refused⟩ | ⟨outcome, done, free, ran⟩
    · rw [refused]
      exact ⟨unchanged.1, unchanged.2.1, unchanged.2.2, holds _ _, holds _ _⟩
    · rw [ran]
      simp only [Statement.eval, Database.updateTransaction, World.view_closed closed] at done
      cases found : middle.db.transactions.get? id with
      | none =>
          rw [found] at done
          cases done
          exact ⟨unchanged.1, unchanged.2.1, unchanged.2.2, holds _ _, holds _ _⟩
      | some row =>
          rw [found] at done
          cases done
          obtain ⟨kept, sessions, frames, settled⟩ :=
            World.apply_update sound closed found patch (free _ rfl).1 fun reference stored =>
              (numbers reference stored).trans_le (rely.frame.supplies _)
          refine ⟨kept, ?_, ⟨frames, .inr ?_, .of_eq ?_⟩, holds _ _, holds _ _⟩
          · rw [sessions]
            exact closed
          · rw [settled]
            exact commits middle rely
          · rw [settled]
            rfl
  · exact fun middle _ => holds _ _

end Setting.Outside
end Payroute
