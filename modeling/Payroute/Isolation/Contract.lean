import Payroute.Isolation.Steps
import Payroute.Services.Support

/-! # Verifying programs of the backend

The contract of a backend program: it keeps the locking discipline, it relies on
the others leaving its locked rows alone, and each of its steps either keeps the
committed tables or is one of the commits it is specified with. `Within` is the
judgment for code that runs inside an open database transaction.

A `Setting` fixes what else is known about the surroundings. `origin` holds of
the tables when the program starts, `drift` relates the tables before and after
steps of the others, `later` bounds what happens to them altogether, and `floor`
bounds the references already handed out. `permits`, `holds`, `timely` and `dated` say
when a call may be issued. For a program run alone nothing drifts; in a pool anything
may.
-/

namespace Payroute

open EffectSystem KeyedTable

/-- The tables of money and of payments are the same. -/
structure Database.SameBooks (first second : Database) : Prop where
  accounts : second.accounts = first.accounts
  transactions : second.transactions = first.transactions
  ledgerEntries : second.ledgerEntries = first.ledgerEntries
  stateHistory : second.stateHistory = first.stateHistory

namespace Database.SameBooks

/-- Tables have the same books as themselves. -/
theorem refl (db : Database) : db.SameBooks db := ⟨rfl, rfl, rfl, rfl⟩

/-- Having the same books composes. -/
theorem trans {first second third : Database} (left : first.SameBooks second)
    (right : second.SameBooks third) : first.SameBooks third :=
  ⟨right.1.trans left.1, right.2.trans left.2, right.3.trans left.3, right.4.trans left.4⟩

/-- The same books have the same rows. -/
theorem persists {first second : Database} (same : first.SameBooks second) :
    first.Persists second :=
  .of_eq same.accounts same.transactions

/-- They agree at every row. -/
theorem agreeAt {first second : Database} (same : first.SameBooks second) (row : RowId) :
    first.AgreeAt second row := by
  cases row with
  | account id => exact congrArg (fun table : Table Account => table.get? id) same.accounts
  | transaction id =>
      refine ⟨congrArg (fun table : Table Transaction => table.get? id) same.transactions, ?_, ?_⟩
      · exact congrArg (List.filter _) same.ledgerEntries
      · exact congrArg (List.filter _) same.stateHistory

end Database.SameBooks

/-- Only tables beside the books change, and no webhook event becomes processed. -/
structure Database.Beside (first second : Database) : Prop where
  books : first.SameBooks second
  events : ∀ event ∈ second.webhookEvents.rows, event.processed = true →
    ∃ old ∈ first.webhookEvents.rows, key old = key event ∧ old.processed = true

/-- Nothing happened beside the books. -/
theorem Database.Beside.refl (db : Database) : db.Beside db where
  books := .refl db
  events := fun event member processed => ⟨event, member, rfl, processed⟩

/-- Balances either stay or become nonnegative amounts that fit their column. -/
def Database.Solvent (first second : Database) : Prop :=
  ∀ row ∈ second.accounts.rows, row ∈ first.accounts.rows ∨ 0 ≤ row.balance ∧ Fits row.balance

/-- Accounts that did not change are as solvent as before. -/
theorem Database.Solvent.of_eq {first second : Database}
    (same : second.accounts = first.accounts) : first.Solvent second := by
  intro row member
  rw [same] at member
  exact .inl member

/-- What is known about the surroundings of a program. -/
structure Setting where
  origin : Database → Prop
  drift : Database → Database → Prop
  later : Database → Database → Prop
  floor : Nat
  /-- What a process may see when it issues a call. -/
  permits : Database → Operation → Prop
  /-- What is known of the committed tables when a call is issued. -/
  holds : Database → Prop
  /-- What the clock may show when a call is issued. -/
  timely : Nat → Prop := fun _ => True
  /-- When the transaction of a process may have begun, and on which tables, when it issues
  a call. -/
  dated : Nat → Database → Operation → Prop := fun _ _ _ => True
  drift_refl : ∀ db, drift db db
  drift_trans : ∀ first second third, drift first second → drift second third → drift first third
  origin_drift : ∀ first second, origin first → drift first second → origin second
  later_drift : ∀ first second, drift first second → later first second
  later_side : ∀ first second, first.SameBooks second → later first second
  later_trans : ∀ first second third, later first second → later second third → later first third

namespace Setting

variable (setting : Setting)

/-- The call may be issued. -/
structure Issues (who : ProcessId) (op : Operation) (world : World) : Prop where
  permits : setting.permits (world.view who) op
  holds : setting.holds world.db
  timely : setting.timely world.clock
  dated : setting.dated (world.session who).now (world.base who) op

/-- The machine in which every call meets the setting's side condition. -/
def machine : Machine ProcessId Delivery Failure Operation.Reply World :=
  backend.restrict fun who _ op world => setting.Issues who op world

/-- The tables may have come about since the program started. -/
def Since (db : Database) : Prop := ∃ first, setting.origin first ∧ setting.later first db

/-- What a program may assume of the steps of the others. -/
structure Rely (who : ProcessId) (first second : World) : Prop where
  frame : first.Frame who second
  drift : setting.drift first.db second.db

/-- What a program promises of each of its steps, given its commits. -/
structure Grant (commit : Database → Database → Prop) (who : ProcessId)
    (first second : World) : Prop where
  frames : ∀ other, other ≠ who → first.Frame other second
  step : first.db.Beside second.db ∨ commit first.db second.db
  solvent : first.db.Solvent second.db

/-- The contract of the programs of a setting whose commits are as described. -/
def contract (commit : Database → Database → Prop) : Contract ProcessId World where
  inv := World.Sound
  rely := setting.Rely
  guarantee := Grant commit

/-- What the others may do over two stretches they may do over both. -/
theorem regular (commit : Database → Database → Prop) : (setting.contract commit).Regular where
  refl := fun who world => ⟨.refl who world, setting.drift_refl _⟩
  trans := fun _ _ _ _ left right =>
    ⟨left.frame.trans right.frame, setting.drift_trans _ _ _ left.drift right.drift⟩

/-- What a process keeps while nobody commits on its behalf. -/
structure Keeps (who : ProcessId) (first second : World) : Prop where
  session : ∀ session, first.sessions who = some session →
    ∃ log, second.sessions who = some { session with log := log }
  locks : ∀ row, first.rowLocks row = some who → second.rowLocks row = some who
  rows : ∀ row, first.rowLocks row = some who → first.db.AgreeAt second.db row
  persists : first.db.Persists second.db
  drift : setting.drift first.db second.db
  supplies : ∀ supply, first.next supply ≤ second.next supply

namespace Keeps

variable {setting} {who : ProcessId} {first second third : World}

/-- Nothing changed. -/
theorem refl (who : ProcessId) (world : World) : setting.Keeps who world world where
  session := fun session opened => ⟨session.log, opened⟩
  locks := fun _ held => held
  rows := fun row _ => Database.AgreeAt.refl _ row
  persists := .refl _
  drift := setting.drift_refl _
  supplies := fun _ => Nat.le_refl _

/-- What a process keeps over two stretches it keeps over both. -/
theorem trans (left : setting.Keeps who first second) (right : setting.Keeps who second third) :
    setting.Keeps who first third where
  session := by
    intro session opened
    obtain ⟨log, middle⟩ := left.session session opened
    obtain ⟨grown, last⟩ := right.session _ middle
    exact ⟨grown, last⟩
  locks := fun row held => right.locks row (left.locks row held)
  rows := fun row held => (left.rows row held).trans (right.rows row (left.locks row held))
  persists := left.persists.trans right.persists
  drift := setting.drift_trans _ _ _ left.drift right.drift
  supplies := fun supply => (left.supplies supply).trans (right.supplies supply)

/-- The committed tables have moved on as the setting allows. -/
theorem later (keeps : setting.Keeps who first second) : setting.later first.db second.db :=
  setting.later_drift _ _ keeps.drift

/-- A process keeps its own while the others move. -/
theorem of_rely (rely : setting.Rely who first second) : setting.Keeps who first second where
  session := by
    intro session opened
    refine ⟨session.log, ?_⟩
    rw [rely.frame.session, opened]
  locks := rely.frame.locks
  rows := rely.frame.rows
  persists := rely.frame.persists
  drift := rely.drift
  supplies := rely.frame.supplies

/-- It keeps its own through its own calls inside a transaction. -/
theorem of_inside (inside : first.Inside who second) : setting.Keeps who first second where
  session := by
    intro session opened
    obtain ⟨suffix, grown⟩ := inside.own session opened
    exact ⟨_, grown⟩
  locks := inside.held
  rows := fun row _ => by rw [inside.db]; exact Database.AgreeAt.refl _ row
  persists := by rw [inside.db]; exact .refl _
  drift := by rw [inside.db]; exact setting.drift_refl _
  supplies := inside.supplies

/-- A transaction that was open still is. -/
theorem opened (keeps : setting.Keeps who first second) (opened : first.sessions who ≠ none) :
    second.sessions who ≠ none := by
  obtain ⟨session, current⟩ := Option.ne_none_iff_exists'.mp opened
  obtain ⟨log, grown⟩ := keeps.session session current
  rw [grown]
  exact Option.some_ne_none _

end Keeps

/-- A step inside a transaction is within every guarantee. -/
theorem Grant.of_inside {commit : Database → Database → Prop} {who : ProcessId}
    {first second : World} (inside : first.Inside who second) : Grant commit who first second where
  frames := fun _ differs => inside.frame differs
  step := .inl (by rw [inside.db]; exact .refl _)
  solvent := .of_eq (by rw [inside.db])

/-! ## Inside a transaction -/

/-- How code inside a transaction ends: the transaction is still open, and a
returned value satisfied its condition when it was returned. -/
def Ends (who : ProcessId) {α : Type} (result : α → World → Prop) (first : World)
    (outcome : Except Failure α) (last : World) : Prop :=
  setting.Keeps who first last ∧ last.sessions who ≠ none ∧
    ∀ value, outcome = .ok value → ∃ middle, middle.Sound ∧ middle.sessions who ≠ none ∧
      setting.Keeps who first middle ∧ result value middle ∧ setting.Rely who middle last

variable (commit : Database → Database → Prop) (who : ProcessId)

/-- The code, run inside a transaction of the process, keeps the contract and
returns only with the stated result. -/
def Within {α : Type} (result : α → World → Prop) (body : Service α) (world : World) : Prop :=
  world.Sound → world.sessions who ≠ none →
    Safe setting.machine (setting.contract commit) who (setting.Ends who result world) body world

namespace Within

variable {setting commit who} {α β : Type} {world : World}

/-- A value that meets the result. -/
theorem ret {result : α → World → Prop} {value : α} (holds : result value world) :
    setting.Within commit who result (.ret value) world := by
  intro sound opened last rely _
  have keeps := Keeps.of_rely rely
  refine ⟨keeps, keeps.opened opened, fun returned same => ?_⟩
  cases same
  exact ⟨world, sound, opened, .refl who world, holds, rely⟩

/-- A failure promises no result. -/
theorem fail {result : α → World → Prop} (error : Failure) :
    setting.Within commit who result (.fail error) world := by
  intro _ opened last rely _
  have keeps := Keeps.of_rely rely
  exact ⟨keeps, keeps.opened opened, fun _ same => by cases same⟩

/-- A weaker result, which may use that the world is sound. -/
theorem mono {result weaker : α → World → Prop} {body : Service α}
    (within : setting.Within commit who result body world)
    (implies : ∀ value last, last.Sound → setting.Keeps who world last → result value last →
      weaker value last) : setting.Within commit who weaker body world := by
  intro sound opened
  refine (within sound opened).mono fun outcome last _ ended => ?_
  obtain ⟨keeps, stays, returned⟩ := ended
  refine ⟨keeps, stays, fun value same => ?_⟩
  obtain ⟨middle, valid, inside, kept, holds, rely⟩ := returned value same
  exact ⟨middle, valid, inside, kept, implies value middle valid kept holds, rely⟩

/-- The rest starts from a world the first part has led to. -/
theorem bind {result : α → World → Prop} {final : β → World → Prop} {body : Service α}
    {next : α → Service β} (first : setting.Within commit who result body world)
    (rest : ∀ value middle, middle.Sound → setting.Keeps who world middle → result value middle →
      setting.Within commit who final (next value) middle) :
    setting.Within commit who final (body.bind next) world := by
  intro sound opened
  apply Safe.bind (setting.regular commit) sound (first sound opened)
  · intro value later valid ended
    obtain ⟨_, _, returned⟩ := ended
    obtain ⟨middle, soundMiddle, inside, kept, holds, rely⟩ := returned value rfl
    have safe := rest value middle soundMiddle kept holds soundMiddle inside
    refine (safe.of_rely (setting.regular commit) rely).mono fun outcome last _ finished => ?_
    obtain ⟨keeps, stays, final⟩ := finished
    refine ⟨kept.trans keeps, stays, fun value same => ?_⟩
    obtain ⟨target, validTarget, insideTarget, keptTarget, holdsTarget, relyTarget⟩ :=
      final value same
    exact ⟨target, validTarget, insideTarget, kept.trans keptTarget, holdsTarget, relyTarget⟩
  · intro error later valid ended
    exact ⟨ended.1, ended.2.1, fun _ same => by cases same⟩

/-- A handler that runs after a failure of the body. -/
theorem tryCatch {result : α → World → Prop} {body : Service α} {handler : Failure → Service α}
    (first : setting.Within commit who result body world)
    (caught : ∀ error later, later.Sound → setting.Keeps who world later →
      setting.Within commit who result (handler error) later) :
    setting.Within commit who result (Program.tryCatch body handler) world := by
  have attempted : setting.Within commit who
      (fun (outcome : Except Failure α) last => ∀ value, outcome = .ok value → result value last)
      body.attempt world := by
    intro sound opened
    apply Safe.attempt
    refine (first sound opened).mono fun outcome last valid ended => ?_
    refine ⟨ended.1, ended.2.1, fun inner same => ?_⟩
    cases same
    cases outcome with
    | ok value =>
        obtain ⟨middle, valid, inside, kept, holds, rely⟩ := ended.2.2 value rfl
        refine ⟨middle, valid, inside, kept, fun returned same => ?_, rely⟩
        cases same
        exact holds
    | error error =>
        refine ⟨last, valid, ended.2.1, ended.1, fun returned same => ?_,
          (setting.regular commit).refl who last⟩
        cases same
  refine attempted.bind fun outcome middle valid kept holds => ?_
  cases outcome with
  | ok value => exact .ret (holds value rfl)
  | error error => exact caught error middle valid kept

/-- What follows a check may use its condition. -/
theorem require {result : Unit → World → Prop} {condition : Prop} [Decidable condition]
    {failure : Failure} (holds : condition → result () world) :
    setting.Within commit who result (Payroute.require condition failure) world := by
  unfold Payroute.require
  by_cases met : condition
  · rw [if_pos met]
    exact .ret (holds met)
  · rw [if_neg met]
    exact .fail failure

/-- What follows a lookup may use what was found. -/
theorem orThrow {result : α → World → Prop} {failure : Failure} {found : Option α}
    (holds : ∀ value, found = some value → result value world) :
    setting.Within commit who result (Payroute.orThrow failure found) world := by
  cases found with
  | none => exact .fail failure
  | some value => exact .ret (holds value rfl)

/-- A check before the rest. -/
theorem require_bind {final : β → World → Prop} {condition : Prop} [Decidable condition]
    {failure : Failure} {next : Unit → Service β}
    (rest : condition → setting.Within commit who final (next ()) world) :
    setting.Within commit who final ((Payroute.require condition failure).bind next) world := by
  unfold Payroute.require
  by_cases met : condition
  · rw [if_pos met]
    exact rest met
  · rw [if_neg met]
    exact .fail failure

/-- A lookup before the rest. -/
theorem orThrow_bind {final : β → World → Prop} {failure : Failure} {found : Option α}
    {next : α → Service β}
    (rest : ∀ value, found = some value → setting.Within commit who final (next value) world) :
    setting.Within commit who final ((Payroute.orThrow failure found).bind next) world := by
  cases found with
  | none => exact .fail failure
  | some value => exact rest value rfl

/-- A call that stays inside the transaction, whatever becomes of it. -/
theorem external {op : Operation} {result : op.Reply → World → Prop}
    (inside : ∀ middle, middle.Sound → middle.sessions who ≠ none →
      setting.Rely who world middle → middle.Inside who (middle.perform who op).2 ∧
        (middle.perform who op).2.Sound)
    (returns : ∀ middle, middle.Sound → setting.Rely who world middle →
      setting.Issues who op middle → ∀ reply,
      (middle.perform who op).1 = .ok reply → result reply (middle.perform who op).2) :
    setting.Within commit who result (Payroute.call op) world := by
  intro _ opened
  apply Safe.perform
  intro middle rely valid delivery ready
  have step : middle.Inside who (setting.machine.exec who delivery op middle).2 ∧
      (setting.machine.exec who delivery op middle).2.Sound := by
    rcases World.exec_state who delivery op middle with same | ran
    · change middle.Inside who (World.exec who delivery op middle).2 ∧
        (World.exec who delivery op middle).2.Sound
      rw [same]
      exact ⟨.refl who middle, valid⟩
    · change middle.Inside who (World.exec who delivery op middle).2 ∧
        (World.exec who delivery op middle).2.Sound
      rw [ran]
      exact inside middle valid ((Keeps.of_rely rely).opened opened) rely
  have kept := (Keeps.of_rely rely).trans (Keeps.of_inside step.1)
  refine ⟨step.2, Grant.of_inside step.1, fun last after _ => ?_⟩
  have keeps := kept.trans (Keeps.of_rely after)
  refine ⟨keeps, keeps.opened opened, fun reply returned => ?_⟩
  refine ⟨_, step.2, kept.opened opened, kept, ?_, after⟩
  have ran := World.exec_of_ok returned
  change (World.exec who delivery op middle).1 = .ok reply at returned
  change result reply (World.exec who delivery op middle).2
  rw [ran] at returned ⊢
  exact returns middle valid rely ready.2 reply returned

/-- A call that leaves the database alone. -/
theorem neutral {op : Operation} (neutral : op.Neutral) {result : op.Reply → World → Prop}
    (returns : ∀ middle, middle.Sound → setting.Rely who world middle →
      setting.Issues who op middle → ∀ reply,
      (middle.perform who op).1 = .ok reply → result reply (middle.perform who op).2) :
    setting.Within commit who result (Payroute.call op) world := by
  apply Within.external _ returns
  intro middle valid _ _
  have aside : middle.Aside (middle.perform who op).2 := World.perform_neutral neutral
  exact ⟨aside.inside who, aside.sound valid⟩

/-- A statement. It returns only if its row is neither locked by another process
nor stale. -/
theorem statement {statement : Statement} {result : statement.Reply → World → Prop}
    (needed : ∀ row, statement.needs = some row → world.rowLocks row = some who)
    (numbers : ∀ next, statement.Numbers next)
    (returns : ∀ middle, middle.Sound → setting.Rely who world middle →
      setting.Issues who (.sql statement) middle → ∀ outcome,
      statement.eval (middle.view who) (middle.session who) = .ok outcome →
      (∀ row, outcome.locks = some row → ¬ middle.Blocked who row ∧ ¬ middle.Stale who row) →
      result outcome.reply (middle.apply who outcome)) :
    setting.Within commit who result (Payroute.sql statement) world := by
  change setting.Within commit who result (Payroute.call (.sql statement)) world
  apply Within.external
  · intro middle valid stays rely
    obtain ⟨session, current⟩ := Option.ne_none_iff_exists'.mp stays
    exact World.execute_inside valid current
      (fun row needs => rely.frame.locks row (needed row needs)) (numbers _)
  · intro middle valid rely permitted reply returned
    rcases World.execute_cases middle who statement with ⟨error, failed⟩ |
      ⟨outcome, done, free, ran⟩
    · change (middle.execute who statement).1 = .ok reply at returned
      rw [failed] at returned
      cases returned
    · change (middle.execute who statement).1 = .ok reply at returned
      change result reply (middle.execute who statement).2
      rw [ran] at returned ⊢
      cases returned
      exact returns middle valid rely permitted outcome done free

end Within
end Setting
end Payroute
