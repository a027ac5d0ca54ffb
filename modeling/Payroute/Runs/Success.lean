import Payroute.Commits.Ledger
import Payroute.Effects.Completes

/-! # Undisturbed runs

When every call of a process gets through and no other process holds a row it
wants, its statements succeed as far as the constraints of the tables allow.
`World.Working` describes a process inside its transaction by the changes it has
made since some point, and each statement has a rule that extends them.
-/

namespace Payroute

open EffectSystem KeyedTable

/-- The run in which every call gets through returns, and satisfies `post`. -/
abbrev Succeeds (who : ProcessId) {α : Type} (post : α → World → Prop) (body : Service α)
    (world : World) : Prop :=
  Completes backend who post body world

namespace World

/-- A statement the tables and the locks allow is carried out. -/
theorem execute_of_eval {world : World} {who : ProcessId} {statement : Statement}
    {outcome : Outcome statement.Reply}
    (done : statement.eval (world.view who) (world.session who) = .ok outcome)
    (allowed : ∀ row, outcome.locks = some row → ¬ world.Blocked who row ∧ ¬ world.Stale who row) :
    world.execute who statement = (.ok outcome.reply, world.apply who outcome) := by
  unfold execute
  simp only [done]
  cases locked : outcome.locks with
  | none => rfl
  | some row =>
      obtain ⟨free, current⟩ := allowed row locked
      simp only [if_neg free, if_neg current]

/-- Since `start` the process has made the changes inside its transaction. -/
structure Working (who : ProcessId) (start : World) (changes : Changes) (world : World) :
    Prop where
  db : world.db = start.db
  base : world.base who = start.base who
  opened : world.sessions who ≠ none
  view : world.view who = changes.apply (start.view who)
  blocked : ∀ row, world.Blocked who row → start.Blocked who row

/-- No other process has the row locked, and it is as the transaction may see it. -/
def Free (world : World) (who : ProcessId) (row : RowId) : Prop :=
  ¬ world.Blocked who row ∧ ¬ world.Stale who row

namespace Working

variable {who : ProcessId} {start world : World} {changes : Changes}

/-- A transaction that has just begun has changed nothing. -/
theorem refl (opened : start.sessions who ≠ none) : start.Working who {} start :=
  ⟨rfl, rfl, opened, (Changes.apply_empty _).symm, fun _ blocked => blocked⟩

/-- What nobody else has locked stays free. -/
theorem free (working : start.Working who changes world) {row : RowId}
    (free : start.Free who row) : world.Free who row := by
  refine ⟨fun blocked => free.1 (working.blocked row blocked), ?_⟩
  have current := free.2
  unfold Stale at current ⊢
  rw [working.db, working.base]
  exact current

/-- Carrying out an outcome whose write extends the changes. -/
theorem apply (working : start.Working who changes world) {ρ : Type} {outcome : Outcome ρ}
    {more : Changes}
    (extends_ : (match outcome.writes with
      | some version => (changes.apply (start.view who)).write version
      | none => changes.apply (start.view who)) = more.apply (start.view who)) :
    start.Working who more (world.apply who outcome) := by
  obtain ⟨session, opened⟩ := Option.ne_none_iff_exists'.mp working.opened
  have view : (world.apply who outcome).view who = _ := view_apply opened
  have shape := apply_open outcome opened
  have own : (world.apply who outcome).sessions who =
      some { session with log := session.log ++ outcome.writes.toList } := by
    rw [shape]
    cases outcome.writes with
    | none =>
        change world.sessions who = _
        rw [opened, Option.toList_none, List.append_nil]
    | some version => exact Function.update_self _ _ _
  refine ⟨?_, ?_, ?_, ?_, ?_⟩
  · rw [shape]
    exact working.db
  · rw [← working.base]
    unfold World.base
    rw [own, opened, shape]
    cases session with
    | mk isolation snapshot startedAt log => cases isolation <;> rfl
  · rw [own]
    exact Option.some_ne_none _
  · rw [view, working.view]
    exact extends_
  · intro row blocked
    obtain ⟨other, held, differs⟩ := blocked
    rw [shape] at held
    apply working.blocked
    cases locks : outcome.locks with
    | none =>
        rw [locks] at held
        exact ⟨other, held, differs⟩
    | some wanted =>
        simp only [locks] at held
        by_cases same : row = wanted
        · subst same
          rw [Function.update_self] at held
          exact (differs (Option.some.inj held).symm).elim
        · rw [Function.update_of_ne same] at held
          exact ⟨other, held, differs⟩

end Working
end World

section Rules

variable {who : ProcessId} {start world : World} {changes : Changes} {α β : Type}

/-- A call that returns and leaves what is asked. -/
theorem succeeds_call {op : Operation} {post : op.Reply → World → Prop} {value : op.Reply}
    {last : World} (done : world.perform who op = (.ok value, last)) (holds : post value last) :
    Succeeds who post (call op) world := by
  have ran : backend.exec who default op world = (.ok value, last) :=
    (World.exec_delivered who op world).trans done
  exact Completes.perform ran holds

/-- A statement that can be evaluated and need not wait. -/
theorem succeeds_statement {statement : Statement} {post : statement.Reply → World → Prop}
    {outcome : Outcome statement.Reply}
    (done : statement.eval (world.view who) (world.session who) = .ok outcome)
    (allowed : ∀ row, outcome.locks = some row → world.Free who row)
    (holds : post outcome.reply (world.apply who outcome)) :
    Succeeds who post (sql statement) world := by
  have ran : world.perform who (.sql statement) = (.ok outcome.reply, world.apply who outcome) :=
    World.execute_of_eval done allowed
  exact succeeds_call ran holds

/-- A query answers for the tables with the changes made so far. -/
theorem succeeds_select (working : start.Working who changes world) (query : Query) :
    Succeeds who (fun reply last => reply = query.eval (changes.apply (start.view who)) ∧
      start.Working who changes last) (sql (.select query)) world := by
  rw [← working.view]
  have done : world.perform who (.sql (.select query)) =
    (.ok (query.eval (world.view who)), world) :=
    rfl
  exact succeeds_call done ⟨rfl, working⟩

/-- An entry is inserted when its amount fits and payment and account exist. -/
theorem succeeds_insertEntry (working : start.Working who changes world) {draft : EntryDraft}
    {units : Int} (value : numericOfText draft.amount = some units) (fits : Fits units)
    (payment : (changes.apply (start.view who)).transactions.get? draft.transactionId ≠ none)
    (account : (changes.apply (start.view who)).accounts.get? draft.accountId ≠ none) :
    Succeeds who (fun entry last =>
      entry.terms = { transactionId := draft.transactionId, accountId := draft.accountId
                      currency := draft.currency, amount := units
                      entryType := draft.entryType, isReversal := draft.isReversal } ∧
      start.Working who (changes.enter entry) last) (sql (.insertEntry draft)) world := by
  obtain ⟨paid, found⟩ := Option.ne_none_iff_exists'.mp payment
  obtain ⟨row, there⟩ := Option.ne_none_iff_exists'.mp account
  rw [← working.view] at found there
  let entry : LedgerEntry :=
    { id := (world.session who).next .entry, transactionId := draft.transactionId
      accountId := draft.accountId, currency := draft.currency, amount := units
      entryType := draft.entryType, isReversal := draft.isReversal
      createdAt := (world.session who).now }
  have done : (Statement.insertEntry draft).eval (world.view who) (world.session who) =
      .ok { reply := entry, draws := some .entry, writes := some (.entry entry) } := by
    simp only [Statement.eval, Database.insertEntry, value, found, there, fits, not_true_eq_false,
      ↓reduceIte, entry]
  apply succeeds_statement done
  · intro row locked
    cases locked
  · refine ⟨rfl, working.apply ?_⟩
    exact (changes.apply_enter _ _).symm

/-- A balance is updated when it covers the amount and has room for it. -/
theorem succeeds_updateBalance (working : start.Working who changes world)
    {direction : EntryType} {amount : Text} {id : AccountId} {units : Int} {row : Account}
    (value : numericOfText amount = some units)
    (found : (changes.apply (start.view who)).accounts.get? id = some row)
    (covered : direction = .debit → units ≤ row.balance)
    (nonneg : 0 ≤ row.balance + direction.signed units)
    (fits : Fits (row.balance + direction.signed units)) (free : start.Free who (.account id)) :
    Succeeds who (fun balance last => balance.isSome = true ∧
      start.Working who (changes.adjust id (direction.signed units)) last)
      (sql (.updateBalance direction amount id)) world := by
  have seen := found
  rw [← working.view] at seen
  have enough : ¬ (direction = .debit ∧ row.balance < units) :=
    fun short => absurd (covered short.1) (by omega)
  have done : (Statement.updateBalance direction amount id).eval (world.view who)
      (world.session who) =
      .ok { reply := some (row.balance + direction.signed units)
            locks := some (.account id)
            writes := some (.account (row.bump (direction.signed units))) } := by
    simp only [Statement.eval, Database.updateBalance, value, seen, enough, ↓reduceIte,
      not_lt.mpr nonneg, fits, not_true_eq_false, Account.bump]
  apply succeeds_statement done
  · intro wanted locked
    cases locked
    exact working.free free
  · refine ⟨rfl, working.apply ?_⟩
    exact (changes.apply_adjust _ found).symm

/-- A credit with the given flag: the entry, then the balance. -/
theorem succeeds_enterCredit (working : start.Working who changes world) {draft : EntryDraft}
    {units : Int} {row : Account}
    (value : numericOfText draft.amount = some units) (entered : Fits units)
    (payment : (changes.apply (start.view who)).transactions.get? draft.transactionId ≠ none)
    (found : (changes.apply (start.view who)).accounts.get? draft.accountId = some row)
    (nonneg : 0 ≤ row.balance + units) (fits : Fits (row.balance + units))
    (free : start.Free who (.account draft.accountId)) :
    Succeeds who (fun entry last =>
      entry.terms = { transactionId := draft.transactionId, accountId := draft.accountId
                      currency := draft.currency, amount := units
                      entryType := draft.entryType, isReversal := draft.isReversal } ∧
      start.Working who (changes.post entry) last)
      ((sql (.insertEntry draft)).bind fun entry =>
        (sql (.updateBalance .credit draft.amount draft.accountId)).bind fun _ => .ret entry)
      world := by
  have account : (changes.apply (start.view who)).accounts.get? draft.accountId ≠ none := by
    rw [found]
    exact Option.some_ne_none _
  apply (succeeds_insertEntry working value entered payment account).bind
  intro entry second inserted
  obtain ⟨terms, working⟩ := inserted
  have there : ((changes.enter entry).apply (start.view who)).accounts.get? draft.accountId =
      some row := found
  have covered : EntryType.credit = .debit → units ≤ row.balance := fun same => by cases same
  apply (succeeds_updateBalance working value there covered nonneg fits free).bind
  intro balance last updated
  apply Completes.ret
  refine ⟨terms, ?_⟩
  have owner : entry.accountId = draft.accountId := congrArg EntryTerms.accountId terms
  have amount : entry.amount = units := congrArg EntryTerms.amount terms
  rw [← Changes.adjust_enter, owner, amount]
  exact updated.2

/-- A payment that nobody else has is locked. -/
theorem succeeds_lockTransaction (working : start.Working who changes world) {id : TransactionId}
    (nowait : Bool) {row : Transaction}
    (found : (changes.apply (start.view who)).transactions.get? id = some row)
    (free : start.Free who (.transaction id)) :
    Succeeds who (fun reply last => reply = some row ∧ start.Working who changes last)
      (sql (.lockTransaction id nowait)) world := by
  rw [← working.view] at found
  have done : (Statement.lockTransaction id nowait).eval (world.view who) (world.session who) =
      .ok { reply := some row, locks := some (.transaction id) } := by
    simp only [Statement.eval, Statement.target, found, Option.map_some]
  apply succeeds_statement done
  · intro wanted locked
    cases locked
    exact working.free free
  · exact ⟨rfl, working.apply rfl⟩

/-- It is updated. -/
theorem succeeds_updateTransaction (working : start.Working who changes world)
    {id : TransactionId} (patch : TransactionPatch) {row : Transaction}
    (found : (changes.apply (start.view who)).transactions.get? id = some row)
    (free : start.Free who (.transaction id)) :
    Succeeds who (fun _ last => start.Working who (changes.patch id patch) last)
      (sql (.updateTransaction id patch)) world := by
  have seen := found
  rw [← working.view] at seen
  have done : (Statement.updateTransaction id patch).eval (world.view who) (world.session who) =
      .ok { reply := (), locks := some (.transaction id)
            writes := some (.transaction (patch.apply row)) } := by
    simp only [Statement.eval, Database.updateTransaction, seen]
  apply succeeds_statement done
  · intro wanted locked
    cases locked
    exact working.free free
  · apply working.apply
    exact (changes.apply_patch patch found).symm

/-- A history row of a payment that exists is inserted. -/
theorem succeeds_insertHistory (working : start.Working who changes world) {id : TransactionId}
    (fromState : Option String) (toState : String)
    (payment : (changes.apply (start.view who)).transactions.get? id ≠ none) :
    Succeeds who (fun _ last => ∃ timestamp, start.Working who (changes.record
      { transactionId := id, fromState := fromState, toState := toState, timestamp := timestamp })
      last) (sql (.insertHistory id fromState toState)) world := by
  obtain ⟨row, found⟩ := Option.ne_none_iff_exists'.mp payment
  rw [← working.view] at found
  have done : (Statement.insertHistory id fromState toState).eval (world.view who)
      (world.session who) =
      .ok { reply := (), writes := some (.history
        { transactionId := id, fromState := fromState, toState := toState
          timestamp := (world.session who).now }) } := by
    simp only [Statement.eval, Database.insertHistory, found]
  apply succeeds_statement done
  · intro wanted locked
    cases locked
  · exact ⟨_, working.apply (changes.apply_record _ _).symm⟩

/-! ## Control -/

/-- What was found is returned. -/
theorem succeeds_orThrow {failure : Failure} {value : α} (post : α → World → Prop)
    (holds : post value world) : Succeeds who post (orThrow failure (some value)) world :=
  Completes.ret holds

/-- A condition that holds raises nothing. -/
theorem succeeds_require {condition : Prop} [Decidable condition] {failure : Failure}
    (post : Unit → World → Prop) (met : condition) (holds : post () world) :
    Succeeds who post (require condition failure) world := by
  unfold require
  rw [if_pos met]
  exact Completes.ret holds

/-- A call that leaves the database alone and returns. -/
theorem succeeds_aside (op : Operation) (neutral : op.Neutral) {value : op.Reply}
    (returns : (world.perform who op).1 = .ok value) :
    Succeeds who (fun reply last => reply = value ∧ world.Aside last) (call op) world := by
  have done : world.perform who op = (.ok value, (world.perform who op).2) :=
    Prod.ext returns rfl
  exact succeeds_call done ⟨rfl, World.perform_neutral neutral⟩

/-- A transaction whose body returns is committed. -/
theorem succeeds_transaction {isolation : Isolation} {body : Service α}
    {post : α → World → Prop}
    (inside : Succeeds who (fun value last => post value (last.commit who)) body
      (world.begin who isolation)) :
    Succeeds who post (transaction isolation body) world := by
  apply Completes.tryCatch
  have begun : world.perform who (.begin isolation) = (.ok (), world.begin who isolation) := rfl
  have opens : Succeeds who (fun _ later => later = world.begin who isolation)
      (call (.begin isolation)) world := succeeds_call begun rfl
  apply opens.bind
  intro _ later same
  subst same
  apply inside.bind
  intro value last holds
  have committed : last.perform who .commit = (.ok (), last.commit who) := rfl
  have closes : Succeeds who (fun _ final => final = last.commit who) (call .commit) last :=
    succeeds_call committed rfl
  apply closes.bind
  intro _ final same
  subst same
  exact Completes.ret holds

/-- What a read committed transaction has changed is committed. -/
theorem World.Working.commit
    (working : (world.begin who .readCommitted).Working who changes start) :
    (start.commit who).db = changes.apply world.db := by
  have base : start.base who = start.db := by
    rw [working.base, working.db]
    unfold World.base World.begin
    simp only [Function.update_self]
  have view : (world.begin who .readCommitted).view who = world.db := by
    unfold World.view World.base World.log World.begin
    simp only [Function.update_self, Database.replay_nil]
  have seen := working.view
  rw [view, World.view_of_current base] at seen
  exact seen

end Rules
end Payroute
