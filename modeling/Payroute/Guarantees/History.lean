import Payroute.Commits.Counting
import Payroute.Guarantees.ExactlyOnce
import Payroute.Isolation.Stamping
import Payroute.Services.Listings

/-! # The history a client sees

Both rows of a new payment are written in one transaction and carry one timestamp, and
the query that lists them sorts by nothing else.
-/

namespace Payroute

open EffectSystem KeyedTable

/-- The list is a path from the opening of the payment. -/
structure IsPath (history : List TransactionStateHistory) : Prop where
  starts : history.head?.map (fun row => (row.fromState, row.toState)) =
    some (none, TransactionStatus.initiated.text)
  linked : history.IsChain fun earlier later => later.fromState = some earlier.toState

/-- Whatever order the database gives to rows with equal timestamps, the history that
`findById` returns for the payment is its path. -/
def PathShown (db : Database) (id : TransactionId) : Prop :=
  ∀ byCreatedAt byTimestamp details,
    PaymentsService.findById byCreatedAt byTimestamp db db db id = .ok details →
      IsPath details.stateHistory

/-- The history has the first two rows of the payment, with one timestamp. -/
def Database.OpenedAtOnce (db : Database) (id : TransactionId) : Prop :=
  ∃ now,
    { transactionId := id, fromState := none
      toState := TransactionStatus.initiated.text, timestamp := now } ∈ db.stateHistory ∧
    { transactionId := id, fromState := some TransactionStatus.initiated.text
      toState := TransactionStatus.processing.text, timestamp := now } ∈ db.stateHistory

/-! ## An order that hides the path -/

/-- A sorting that puts opening rows after the others of their time. -/
def openingLast (first second : TransactionStateHistory) : Prop :=
  first.timestamp < second.timestamp ∨
    first.timestamp = second.timestamp ∧ (first.fromState = none → second.fromState = none)

instance : DecidableRel openingLast := fun _ _ => inferInstanceAs (Decidable (_ ∨ _))

instance : Std.Total openingLast where
  total first second := by
    unfold openingLast
    rcases Nat.lt_trichotomy first.timestamp second.timestamp with less | same | more
    · exact .inl (.inl less)
    · by_cases opening : first.fromState = none
      · exact .inr (.inr ⟨same.symm, fun _ => opening⟩)
      · exact .inl (.inr ⟨same, fun absurd => (opening absurd).elim⟩)
    · exact .inr (.inl more)

instance : IsTrans TransactionStateHistory openingLast where
  trans first second third left right := by
    unfold openingLast at *
    rcases left with less | ⟨same, opening⟩
    · rcases right with further | ⟨equal, _⟩
      · exact .inl (less.trans further)
      · exact .inl (equal ▸ less)
    · rcases right with further | ⟨equal, onward⟩
      · exact .inl (same ▸ further)
      · exact .inr ⟨same.trans equal, onward ∘ opening⟩

/-- The order by timestamp that puts opening rows last. -/
def OrderBy.openingLast : OrderBy TransactionStateHistory.timestamp where
  order := List.insertionSort Payroute.openingLast
  perm := List.perm_insertionSort _
  sorted := by
    intro rows
    refine (List.pairwise_insertionSort _ rows).imp fun {first second} earlier => ?_
    rcases earlier with less | ⟨same, _⟩
    · exact less.le
    · exact same.le

def OrderBy.stable {α : Type} (column : α → Nat) : OrderBy column where
  order := List.insertionSort fun first second => column first ≤ column second
  perm := List.perm_insertionSort _
  sorted := List.pairwise_insertionSort _

/-- Only the first row of a path opens it. -/
theorem IsPath.of_mem_tail {first : TransactionStateHistory} {rest : List TransactionStateHistory}
    (path : IsPath (first :: rest)) {row : TransactionStateHistory} (member : row ∈ rest) :
    row.fromState ≠ none := by
  have linked := path.linked
  clear path
  induction rest generalizing first with
  | nil => cases member
  | cons next others ih =>
      rw [List.isChain_cons_cons] at linked
      rcases List.mem_cons.mp member with rfl | later
      · rw [linked.1]
        exact Option.some_ne_none _
      · exact ih later linked.2

/-- A history whose opening rows share a timestamp is not always shown as a path. -/
theorem Database.OpenedAtOnce.hidden {db : Database} {id : TransactionId}
    (opened : db.OpenedAtOnce id) {row : Transaction}
    (found : db.transactions.get? id = some row) : ¬ PathShown db id := by
  intro shown
  have path := shown (.stable _) .openingLast _ (by
    unfold PaymentsService.findById
    rw [found]
    rfl)
  change IsPath (List.insertionSort openingLast (db.historyOf id)) at path
  obtain ⟨now, opening, reserved⟩ := opened
  have sorted := List.pairwise_insertionSort openingLast (db.historyOf id)
  have listed : ∀ row : TransactionStateHistory, row ∈ db.stateHistory → row.transactionId = id →
      row ∈ List.insertionSort openingLast (db.historyOf id) := fun row member owner =>
    (List.mem_insertionSort openingLast).mpr (List.mem_filter.mpr ⟨member, decide_eq_true owner⟩)
  have shownOpening := listed _ opening rfl
  have shownReserved := listed _ reserved rfl
  generalize List.insertionSort openingLast (db.historyOf id) = rows at *
  cases rows with
  | nil => cases shownOpening
  | cons first rest =>
      rcases List.mem_cons.mp shownOpening with same | later
      · -- The opening row is first, and so sorted before the other one of its time.
        subst same
        rcases List.mem_cons.mp shownReserved with absurd | later
        · cases absurd
        · rcases List.rel_of_pairwise_cons sorted later with less | ⟨_, absurd⟩
          · exact absurd less (Nat.lt_irrefl now)
          · cases absurd rfl
      · exact path.of_mem_tail later rfl

/-! ## Concurrent runs -/

section Runs

variable {deployment : Deployment} {admitted : Command → Prop}
  {first second pool : Pool ProcessId Failure Operation.Reply World} {initial : World}

/-- A step of a pool keeps the times of the open transactions. -/
theorem World.Stamped.step (stamped : first.shared.Stamped)
    (step : Pool.Step backend (surroundings (Command.Starts deployment admitted)) first second) :
    second.shared.Stamped ∧ first.shared.db.Stamps second.shared.db := by
  cases step with
  | spawn who body free started => exact ⟨stamped, .of_eq rfl⟩
  | call who choice op next current ready => exact stamped.exec choice op
  | finish who ended => exact ⟨stamped, .of_eq rfl⟩
  | crash who alive => exact ⟨stamped.release, .of_eq rfl⟩
  | drift next moved =>
      refine ⟨stamped.mono fun other session found => ?_, .of_eq (by rw [World.Elapses.db moved])⟩
      rw [← World.Elapses.sessions moved]
      exact found

/-- A payment that is opened by a commit with one timestamp. -/
theorem Creates.openedAtOnce {setting : Setting} {dto : CreatePaymentDto} {row : Transaction}
    {before after : Database} (creates : Creates setting dto row before after)
    (stamps : before.Stamps after) : after.OpenedAtOnce row.id := by
  obtain ⟨quote, entry, opened, reserved, _, _, _, unrecorded, _, _, _, _, _, _, _, _, _, _, rfl⟩ :=
    creates
  obtain ⟨now, added⟩ := stamps
  have fresh : ∀ recorded : TransactionStateHistory, recorded.transactionId = row.id →
      recorded ∈ (openingDossier row entry opened reserved).history → recorded.timestamp = now ∧
        recorded ∈ ((openingOf quote row entry opened reserved).apply before).stateHistory := by
    intro recorded owner member
    have there : recorded ∈
        ((openingOf quote row entry opened reserved).apply before).stateHistory :=
      List.mem_append_right _ member
    refine ⟨(added recorded there).resolve_left fun old => ?_, there⟩
    have listed : recorded ∈ before.historyOf row.id :=
      List.mem_filter.mpr ⟨old, decide_eq_true owner⟩
    rw [unrecorded] at listed
    cases listed
  obtain ⟨openedNow, openedThere⟩ := fresh _ rfl List.mem_cons_self
  obtain ⟨reservedNow, reservedThere⟩ := fresh _ rfl (List.mem_cons_of_mem _ List.mem_cons_self)
  change opened = now at openedNow
  change reserved = now at reservedNow
  subst openedNow reservedNow
  exact ⟨reserved, openedThere, reservedThere⟩

/-- Commits keep the openings of the payments there are. -/
theorem Command.Commits.openedAtOnce {setting : Setting} {command : Command}
    {before after : Database} (commits : command.Commits setting deployment before after)
    (stamps : before.Stamps after)
    (opened : ∀ row ∈ before.transactions.rows, before.OpenedAtOnce row.id) :
    ∀ row ∈ after.transactions.rows, after.OpenedAtOnce row.id := by
  have grown : ∀ row ∈ before.transactions.rows, after.OpenedAtOnce row.id := by
    obtain ⟨changes, _, rfl⟩ := commits.posts
    intro row member
    obtain ⟨now, opening, reserved⟩ := opened row member
    exact ⟨now, List.mem_append_left _ opening, List.mem_append_left _ reserved⟩
  intro row member
  rcases commits.carries with carries | ⟨dto, created, creates, _⟩
  · obtain ⟨old, there, _⟩ := carries row.id row (Table.get?_of_mem member)
    have named : old.id = row.id := Table.key_of_get? there
    rw [← named]
    exact grown old (Table.mem_of_get? there)
  · rcases creates.within member with rfl | old
    · exact creates.openedAtOnce stamps
    · exact grown row old

/-- Concurrent operations open every payment at once. -/
theorem pool_openedAtOnce (rest : initial.AtRest) (empty : initial.db.transactions.rows = [])
    (reached : Pool.Reachable backend (surroundings (Command.Starts deployment admitted)) initial
      pool) : ∀ row ∈ pool.shared.db.transactions.rows, pool.shared.db.OpenedAtOnce row.id := by
  have held : concurrent.Valid (Command.CommitsOf concurrent deployment admitted)
      (fun _ _ _ => True) pool ∧ pool.shared.Stamped ∧
      ∀ row ∈ pool.shared.db.transactions.rows, pool.shared.db.OpenedAtOnce row.id := by
    induction reached with
    | refl =>
        refine ⟨Setting.valid_quiet rest, fun who session opened => ?_, fun row member => ?_⟩
        · change initial.sessions who = some session at opened
          rw [rest.sessions] at opened
          cases opened
        · change row ∈ initial.db.transactions.rows at member
          rw [empty] at member
          cases member
    | tail _ step ih =>
        obtain ⟨valid, stamped, opened⟩ := ih
        obtain ⟨kept, stamps⟩ := stamped.step step
        obtain ⟨later, beside | ⟨command, _, commits⟩⟩ := Command.pool_step valid step
        · refine ⟨later, kept, ?_⟩
          unfold Database.OpenedAtOnce
          rw [beside.books.transactions, beside.books.stateHistory]
          exact opened
        · exact ⟨later, kept, commits.openedAtOnce stamps opened⟩
  exact held.2.2

end Runs

/-- In no state that concurrent operations reach is the history that a client sees of a
payment certain to be its path. -/
theorem path_never_certain (deployment : Deployment) (admitted : Command → Prop) {initial : World}
    (rest : initial.AtRest) (empty : initial.db.transactions.rows = [])
    {pool : Pool ProcessId Failure Operation.Reply World}
    (reached : Pool.Reachable backend (surroundings (Command.Starts deployment admitted)) initial
      pool) {row : Transaction} (member : row ∈ pool.shared.db.transactions.rows) :
    ¬ PathShown pool.shared.db row.id :=
  (pool_openedAtOnce rest empty reached row member).hidden (Table.get?_of_mem member)

/-- One payment is created. -/
def sampleOpening : List Turn := [{ who := 0, starts := some (.createPayment samplePayment "key") }]

theorem sampleOpening_reachable : Pool.Reachable backend
    (surroundings (Command.Starts sampleDeployment Command.Undisputed)) sampleWorld
    (takeTurns backend sampleDeployment sampleOpening (Pool.quiet sampleWorld)) := by
  refine takeTurns_commands (by decide +kernel) ?_
  simp [sampleOpening, Command.Undisputed]

theorem path_never_certain_sample :
    let pool := takeTurns backend sampleDeployment sampleOpening (Pool.quiet sampleWorld)
    ∃ row ∈ pool.shared.db.transactions.rows, ¬ PathShown pool.shared.db row.id := by
  intro pool
  have one : ∃ row ∈ pool.shared.db.transactions.rows, row.id = 0 := by decide +kernel
  have reached : Pool.Reachable backend
      (surroundings (Command.Starts sampleDeployment Command.Undisputed)) sampleWorld pool :=
    sampleOpening_reachable
  clear_value pool
  obtain ⟨row, member, _⟩ := one
  exact ⟨row, member,
    path_never_certain sampleDeployment Command.Undisputed sampleWorld_atRest rfl reached member⟩

/-- The history of a payment just created may be listed from its second row. -/
theorem opening_hidden :
    ¬ ∀ (deployment : Deployment) (initial : World)
      (pool : Pool ProcessId Failure Operation.Reply World), initial.AtRest →
      initial.db.transactions.rows = [] →
      Pool.Reachable backend (surroundings (Command.Starts deployment Command.Undisputed)) initial
        pool →
      ∀ row ∈ pool.shared.db.transactions.rows, PathShown pool.shared.db row.id := by
  intro claimed
  let pool := takeTurns backend sampleDeployment sampleOpening (Pool.quiet sampleWorld)
  have one : ∃ row ∈ pool.shared.db.transactions.rows, row.id = 0 := by decide +kernel
  obtain ⟨row, member, named⟩ := one
  have shown := claimed sampleDeployment sampleWorld pool sampleWorld_atRest rfl
    sampleOpening_reachable row member
  have opened : pool.shared.db.OpenedAtOnce row.id := by
    rw [named]
    exact ⟨sampleWorld.clock, by decide +kernel, by decide +kernel⟩
  exact opened.hidden (Table.get?_of_mem member) shown

end Payroute
