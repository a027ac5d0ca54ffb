import Payroute.Effects.Waiting
import Payroute.Runs.Holding
import Payroute.Runs.Serial

/-! # Deadlocks between money movements

An operation waits for another one when its next statement needs a row that the other
one has locked and is not refused at once. Only balance updates can close a circle: the
row of the payment is the first one an operation asks for, and the sender's account of a
new payment is asked for with `NOWAIT`. A chargeback debits the recipient before it credits
the sender, whatever the other operations do, so chargebacks of payments in opposite
directions may wait for each other.
-/

namespace Payroute

open EffectSystem KeyedTable

/-! ## Waiting -/

/-- The row a process asks for next and has to wait for if another process holds it. Only the
locks of `SELECT ... FOR UPDATE` and `UPDATE` are modelled; the weaker `FOR KEY SHARE` locks
that the foreign keys of an insertion take are not. -/
def awaited (pool : Pool ProcessId Failure Operation.Reply World) (who : ProcessId) :
    Option RowId :=
  match pool.running who with
  | some (.call (.sql statement) _) =>
      if statement.nowait = true then none else statement.target (pool.shared.view who)
  | _ => none

/-- The first process waits for a row that the second one has locked. -/
def Waits (pool : Pool ProcessId Failure Operation.Reply World) : ProcessId → ProcessId → Prop :=
  WaitsFor (fun who row => awaited pool who = some row)
    (fun who row => pool.shared.rowLocks row = some who)

/-- Some process waits, over any number of others, for itself. -/
def Deadlocked (pool : Pool ProcessId Failure Operation.Reply World) : Prop :=
  ∃ who, Relation.TransGen (Waits pool) who who

section Waiting

variable {pool : Pool ProcessId Failure Operation.Reply World} {who : ProcessId}

theorem awaited_eq_some {row : RowId} (asks : awaited pool who = some row) :
    ∃ statement next, pool.running who = some (.call (.sql statement) next) ∧
      statement.nowait = false ∧ statement.target (pool.shared.view who) = some row := by
  unfold awaited at asks
  split at asks
  · next statement next current =>
    by_cases refused : statement.nowait = true
    · rw [if_pos refused] at asks
      cases asks
    · rw [if_neg refused] at asks
      exact ⟨statement, next, current, Bool.eq_false_iff.mpr refused, asks⟩
  · cases asks

/-- A process waits for another one exactly when its next call cannot be issued yet. -/
theorem waits_iff_not_ready {op : Operation} {next : Except Failure op.Reply → Service Unit}
    (current : pool.running who = some (.call op next)) :
    (∃ other, Waits pool who other) ↔ ¬ pool.shared.Ready who op := by
  constructor
  · intro waits ready
    obtain ⟨other, row, asks, held, differs⟩ := waits
    obtain ⟨statement, next, running, waiting, target⟩ := awaited_eq_some asks
    rw [running] at current
    cases current
    rcases ready with refused | free
    · rw [waiting] at refused
      cases refused
    · exact free row target ⟨other, held, differs⟩
  · intro blocked
    cases op with
    | sql statement =>
        have waiting : statement.nowait = false :=
          Bool.eq_false_iff.mpr fun refused => blocked (.inl refused)
        have held : ∃ row, statement.target (pool.shared.view who) = some row ∧
            pool.shared.Blocked who row := by
          by_contra none
          exact blocked (.inr fun row target held => none ⟨row, target, held⟩)
        obtain ⟨row, target, other, holds, differs⟩ := held
        refine ⟨other, row, ?_, holds, differs⟩
        change awaited pool who = some row
        unfold awaited
        rw [current]
        simp only [waiting, target, Bool.false_eq_true, if_false]
    | _ => exact (blocked trivial).elim

end Waiting

/-! ## The order of the accounts -/

/-- A running operation has its payment's row locked and changes the first account's
balance before the second one's. -/
def Leads (assigned : ProcessId → Command) (world : World) (first second : AccountId) : Prop :=
  ∃ who row, world.rowLocks (.transaction row.id) = some who ∧
    world.db.transactions.get? row.id = some row ∧ ∃ before after,
      (assigned who).lockOrder world.db row = before ++ second :: after ∧ first ∈ before ∧
      first ≠ second

/-- The operations that have a payment's row locked agree on an order of the accounts. -/
def LocksOrdered (assigned : ProcessId → Command) (world : World) : Prop :=
  ∀ account, ¬ Relation.TransGen (Leads assigned world) account account

/-- What may be locked before what: the payment's row comes first, then the accounts in
their order. -/
def Precedes (assigned : ProcessId → Command) (world : World) (held wanted : RowId) : Prop :=
  ∃ second, wanted = .account second ∧
    ∀ first, held = .account first → Leads assigned world first second

section Order

variable {assigned : ProcessId → Command} {world : World}

theorem leads_of_precedes {first : AccountId} {last : RowId}
    (path : Relation.TransGen (Precedes assigned world) (.account first) last) :
    ∃ second, last = .account second ∧ Relation.TransGen (Leads assigned world) first second := by
  induction path with
  | single step =>
      obtain ⟨second, same, leads⟩ := step
      exact ⟨second, same, .single (leads first rfl)⟩
  | tail _ step ih =>
      obtain ⟨middle, reached, path⟩ := ih
      obtain ⟨second, same, leads⟩ := step
      exact ⟨second, same, path.tail (leads middle reached)⟩

/-- Only accounts can close a circle. -/
theorem LocksOrdered.no_circle (ordered : LocksOrdered assigned world) (row : RowId) :
    ¬ Relation.TransGen (Precedes assigned world) row row := by
  intro circle
  have account : ∃ id, row = .account id := by
    cases circle with
    | single step => exact ⟨step.choose, step.choose_spec.1⟩
    | tail _ step => exact ⟨step.choose, step.choose_spec.1⟩
  obtain ⟨id, rfl⟩ := account
  obtain ⟨second, same, path⟩ := leads_of_precedes circle
  cases same
  exact ordered id path

/-- The order depends on the entries of the payment only. -/
theorem Command.lockOrder_congr {first second : Database} {row : Transaction}
    (same : second.entriesOf row.id = first.entriesOf row.id) (command : Command) :
    command.lockOrder second row = command.lockOrder first row := by
  cases command <;>
    simp only [Command.lockOrder, Database.debited, Database.originalDebits_congr same,
      Database.hasReversal_congr same]

end Order

namespace Locking

/-- What a process has locked precedes what it waits for. -/
theorem Obeys.precedes {deployment : Deployment} {assigned : ProcessId → Command}
    {pool : Pool ProcessId Failure Operation.Reply World} {phases : ProcessId → Phase}
    (valid : Valid deployment pool) (obeys : Obeys assigned pool phases) :
    TakenInOrder (fun who row => awaited pool who = some row)
      (fun who row => pool.shared.rowLocks row = some who) (Precedes assigned pool.shared) := by
  intro who held wanted holds asks blocked
  obtain ⟨other, taken, differs⟩ := blocked
  obtain ⟨statement, next, current, waiting, target⟩ := awaited_eq_some asks
  have foreign : pool.shared.rowLocks wanted ≠ some who := by
    intro own
    rw [taken] at own
    exact differs (Option.some.inj own)
  have fits := obeys.fits who
  have allowed := (obeys.follows who _ current).1
  have takes : ∃ guess later, Takes (assigned who) (phases who) (.sql statement) guess later := by
    obtain ⟨reply, later, moves⟩ := allowed
    cases reply with
    | ok value => exact ⟨value, later, moves⟩
    | error error => exact moves.2.2
  obtain ⟨guess, later, takes⟩ := takes
  generalize phases who = phase at fits takes
  cases takes with
  | single _ _ => exact (valid.inv.owned held who holds fits).elim
  | lockAccount _ | missAccount => cases waiting
  | lock _ _ | miss | lockReference _ | missReference | update => exact (fits.2 held holds).elim
  | reserve _ =>
      obtain ⟨account, _, same⟩ := Option.map_eq_some_iff.mp target
      subst same
      exact (foreign fits.1).elim
  | start =>
      obtain ⟨row, _, same⟩ := Option.map_eq_some_iff.mp target
      subst same
      exact (foreign fits.2).elim
  | close =>
      obtain ⟨row, _, same⟩ := Option.map_eq_some_iff.mp target
      subst same
      exact (foreign fits.2.1.held).elim
  | finish =>
      obtain ⟨row, _, same⟩ := Option.map_eq_some_iff.mp target
      subst same
      exact (foreign fits.1.held).elim
  | first _ _ =>
      obtain ⟨account, _, same⟩ := Option.map_eq_some_iff.mp target
      refine ⟨_, same.symm, fun first own => ?_⟩
      subst own
      exact (fits.2.2 first holds).elim
  | @move seen row done direction amount id order _ =>
      obtain ⟨account, _, same⟩ := Option.map_eq_some_iff.mp target
      subst same
      obtain ⟨owns, accounts⟩ := fits
      refine ⟨id, rfl, fun first own => ?_⟩
      subst own
      have agree := owns.agree
      obtain ⟨after, order⟩ := order
      refine ⟨who, row, owns.held, agree.1.trans owns.found, done, after, ?_, accounts first holds,
        ?_⟩
      · rw [Command.lockOrder_congr agree.2.1, ← order, List.append_assoc]
        rfl
      · intro same
        subst same
        exact foreign holds
  | idle _ idle _ =>
      cases statement with
      | select _ | updateEvent _ _ | insertEntry _ | insertQuote _ | insertHistory _ _ _ =>
          cases target
      | _ => exact idle.elim
  | insert _ | account _ | count | debits | post _ | note => cases target

end Locking

/-! ## Freedom from deadlocks -/

/-- Where the running operations agree on an order of the accounts, they are not
deadlocked. -/
theorem not_deadlocked_of_ordered (deployment : Deployment) (assigned : ProcessId → Command)
    {initial : World} (rest : initial.AtRest)
    {pool : Pool ProcessId Failure Operation.Reply World}
    (reached : Pool.Reachable backend (surroundings (Locking.Assigned deployment assigned))
      initial pool) (ordered : LocksOrdered assigned pool.shared) : ¬ Deadlocked pool := by
  obtain ⟨valid, phases, obeys⟩ := Locking.Obeys.reachable rest reached
  intro deadlocked
  obtain ⟨who, circle⟩ := deadlocked
  exact WaitsFor.no_circle (obeys.precedes valid) ordered.no_circle who circle

/-- A payment in the other direction. -/
def returnPayment : CreatePaymentDto where
  senderAccountId := 1
  recipientAccountId := 0
  sourceCurrency := "USD"
  destinationCurrency := "USD"
  amount := 50
  isPositive := by decide
  notSelfPayment := by decide

/-- Two completed payments in opposite directions. -/
def crossedWorld : World :=
  runAll sampleDeployment (sampleCompletion ++
    [(.createPayment returnPayment "other", []),
      (.process { sampleJob with transactionId := 1 }, []),
      (.processWebhook ⟨1, "completed"⟩ [] "secret", [])]) sampleWorld

theorem crossedWorld_run : SerialRun sampleDeployment (fun _ _ => True) sampleWorld crossedWorld :=
  runAll_run _ ⟨trivial, trivial, trivial, trivial, trivial, trivial, trivial⟩

theorem crossedWorld_atRest : crossedWorld.AtRest :=
  (crossedWorld_run.keeps (fun _ => True) (fun _ _ _ _ => trivial)
    (fun _ _ _ _ _ _ _ _ => trivial) sampleWorld_atRest trivial).1

/-- Both payments are refunded. -/
def crossedRefunds (who : ProcessId) : Command := .refundPayment who ⟨"wrong"⟩

/-- One refund has debited the recipient while the other one has not begun. -/
def sampleRefunding : List Turn :=
  [{ who := 0, starts := some (crossedRefunds 0), calls := 8 },
    { who := 1, starts := some (crossedRefunds 1), calls := 2 }]

theorem sampleRefunding_ordered :
    LocksOrdered crossedRefunds
      (takeTurns backend sampleDeployment sampleRefunding (Pool.quiet crossedWorld)).shared := by
  let world := (takeTurns backend sampleDeployment sampleRefunding (Pool.quiet crossedWorld)).shared
  have order : ∀ row ∈ world.db.transactions.rows,
      (world.rowLocks (.transaction row.id)).isSome = true →
      (crossedRefunds 0).lockOrder world.db row = [1, 0] := by decide +kernel
  have only : ∀ first second, Leads crossedRefunds world first second → first = 1 ∧ second = 0 := by
    intro first second leads
    obtain ⟨who, row, held, found, before, after, split, member, _⟩ := leads
    have listed := order row (Table.mem_of_get? found) (by rw [held]; rfl)
    have same : [1, 0] = before ++ second :: after := listed.symm.trans split
    cases before with
    | nil => cases member
    | cons head rest =>
        cases rest with
        | nil =>
            cases same
            exact ⟨List.mem_singleton.mp member, rfl⟩
        | cons next rest => simp at same
  intro account circle
  obtain ⟨_, starts, _⟩ := Relation.TransGen.head'_iff.mp circle
  obtain ⟨_, _, ends⟩ := Relation.TransGen.tail'_iff.mp circle
  have first := (only _ _ starts).1
  rw [(only _ _ ends).2] at first
  cases first

theorem not_deadlocked_of_ordered_sample :
    ¬ Deadlocked (takeTurns backend sampleDeployment sampleRefunding
      (Pool.quiet crossedWorld)) := by
  refine not_deadlocked_of_ordered sampleDeployment crossedRefunds crossedWorld_atRest ?_
    sampleRefunding_ordered
  refine takeTurns_steps (by decide +kernel) fun turn taken command started => ?_
  simp only [sampleRefunding, List.mem_cons, List.not_mem_nil, or_false] at taken
  rcases taken with rfl | rfl
  · cases started
    rfl
  · cases started
    rfl

/-- Each refund debits its recipient before either of them credits its sender. -/
def sampleCrossing : List Turn :=
  [{ who := 0, starts := some (crossedRefunds 0), calls := 8 },
    { who := 1, starts := some (crossedRefunds 1), calls := 10 },
    { who := 0, calls := 2 }]

/-- Refunds of two payments in opposite directions wait for each other. -/
theorem crossed_refunds_deadlock :
    ∃ (deployment : Deployment) (assigned : ProcessId → Command) (initial : World)
      (pool : Pool ProcessId Failure Operation.Reply World), initial.AtRest ∧
      Pool.Reachable backend (surroundings (Locking.Assigned deployment assigned)) initial pool ∧
      Deadlocked pool := by
  let pool := takeTurns backend sampleDeployment sampleCrossing (Pool.quiet crossedWorld)
  have reached : Pool.Reachable backend
      (surroundings (Locking.Assigned sampleDeployment crossedRefunds)) crossedWorld pool := by
    refine takeTurns_steps (by decide +kernel) fun turn taken command started => ?_
    simp only [sampleCrossing, List.mem_cons, List.not_mem_nil, or_false] at taken
    rcases taken with rfl | rfl | rfl
    · cases started
      rfl
    · cases started
      rfl
    · cases started
  have first : Waits pool 0 1 := ⟨.account 0, by decide +kernel, by decide +kernel, by decide⟩
  have second : Waits pool 1 0 := ⟨.account 1, by decide +kernel, by decide +kernel, by decide⟩
  exact ⟨sampleDeployment, crossedRefunds, crossedWorld, pool, crossedWorld_atRest, reached, 0,
    .tail (.single first) second⟩

end Payroute
