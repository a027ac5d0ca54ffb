import Payroute.Effects.Protocol
import Payroute.Runs.Calls

/-! # The order in which operations lock rows

Every operation that moves money opens one transaction. A refund, a resolution, a
delivery and a dead letter lock the row of their payment first and then change balances
in an order that the payment and its ledger entries determine; the creation of a payment
locks the sender's account and then only rows nobody else can hold. The phases below say
which rows a process may have locked and which one it may ask for next.
-/

namespace Payroute

open EffectSystem Program KeyedTable

deriving instance Inhabited for TransactionStatus, EntryType, Transaction, LedgerEntry, FxQuote

/-- Every call can be answered. -/
theorem Operation.reply_nonempty (op : Operation) : Nonempty op.Reply := by
  cases op with
  | sql statement =>
      cases statement with
      | select query => cases query <;> exact ⟨default⟩
      | _ => exact ⟨default⟩
  | _ => exact ⟨default⟩

/-! ## The order -/

instance (db : Database) (id : TransactionId) : Decidable (db.HasReversal id) :=
  inferInstanceAs (Decidable (∃ entry ∈ _, _))

/-- The accounts that a compensation credits, one for each original debit. -/
def Database.debited (db : Database) (id : TransactionId) : List AccountId :=
  (db.originalDebits id).map LedgerEntry.accountId

/-- The accounts whose balances the operation changes while it has the payment's row
locked, in the order of the changes. -/
def Command.lockOrder (db : Database) (row : Transaction) : Command → List AccountId
  | .refundPayment _ _ =>
      if row.status.Allows TransactionStatus.reversed.text ∧ ¬ db.HasReversal row.id then
        if row.status = .completed then [row.recipientAccountId, row.senderAccountId]
        else db.debited row.id
      else []
  | .resolveDispute _ dto =>
      if dto.action = .reverse ∧ row.status.Allows TransactionStatus.reversed.text ∧
          ¬ db.HasReversal row.id then [row.recipientAccountId, row.senderAccountId]
      else []
  | .processWebhook payload _ _ =>
      if row.status.Allows payload.status then
        if payload.status = "completed" then [row.recipientAccountId]
        else if payload.status = "failed" then db.debited row.id
        else []
      else []
  | .onProviderJobExhausted _ _ =>
      if row.status = .processing ∧ ¬ db.HasReversal row.id then db.debited row.id else []
  | _ => []

/-! ## The phases -/

namespace Locking

/-- Which rows a process has locked. `seen` are the tables at the moment it locked the
row of its payment. -/
inductive Phase where
  | outside
  | begun (isolation : Isolation)
  | reserving (sender : AccountId)
  | opened (sender : AccountId) (id : TransactionId)
  | looking (seen : Database) (row : Transaction)
  | moving (seen : Database) (row : Transaction) (done : List AccountId)
  | closing

/-- The phases in which calls that need no row change nothing. -/
def Phase.Settled : Phase → Prop
  | .reserving _ | .opened _ _ | .moving _ _ _ | .closing => True
  | _ => False

/-- A call inside a transaction that needs no lock on an account or a payment. -/
def Idle : Operation → Prop
  | .sql (.select _) | .sql (.updateEvent _ _) | .sql (.insertEntry _) | .sql (.insertQuote _)
  | .sql (.insertHistory _ _ _) | .cacheGet _ | .cacheSet _ _ _ | .now => True
  | _ => False

/-- A call that neither begins nor ends a transaction. -/
def Single : Operation → Prop
  | .begin _ | .commit | .rollback => False
  | _ => True

/-- The answered calls of an operation. -/
inductive Takes (command : Command) : Phase → (op : Operation) → op.Reply → Phase → Prop
  | single {op : Operation} (single : Single op) (value : op.Reply) :
      Takes command .outside op value .outside
  | begin (isolation : Isolation) :
      Takes command .outside (.begin isolation) () (.begun isolation)
  | commit {phase : Phase} (inside : phase ≠ .outside) : Takes command phase .commit () .outside
  | rollback {phase : Phase} (inside : phase ≠ .outside) : Takes command phase .rollback () .outside
  | idle {phase : Phase} {op : Operation} (settled : phase.Settled) (idle : Idle op)
      (value : op.Reply) : Takes command phase op value phase
  | lockAccount {isolation : Isolation} {id : AccountId} (found : Account) :
      Takes command (.begun isolation) (.sql (.lockAccount id)) (some found) (.reserving id)
  | missAccount {isolation : Isolation} {id : AccountId} :
      Takes command (.begun isolation) (.sql (.lockAccount id)) none .closing
  | insert {sender : AccountId} {draft : TransactionDraft} (row : Transaction) :
      Takes command (.reserving sender) (.sql (.insertTransaction draft)) row
        (.opened sender row.id)
  | reserve {sender : AccountId} {id : TransactionId} {direction : EntryType} {amount : Text}
      (value : Option Int) :
      Takes command (.opened sender id) (.sql (.updateBalance direction amount sender)) value
        (.opened sender id)
  | start {sender : AccountId} {id : TransactionId} {patch : TransactionPatch} :
      Takes command (.opened sender id) (.sql (.updateTransaction id patch)) () (.opened sender id)
  | lock {id : TransactionId} {nowait : Bool} {seen : Database} {row : Transaction}
      (same : row.id = id) (found : seen.transactions.get? id = some row) :
      Takes command (.begun .readCommitted) (.sql (.lockTransaction id nowait)) (some row)
        (.looking seen row)
  | miss {id : TransactionId} {nowait : Bool} :
      Takes command (.begun .readCommitted) (.sql (.lockTransaction id nowait)) none .closing
  | lockReference {reference : ProviderReference} {seen : Database} {row : Transaction}
      (found : seen.transactions.get? row.id = some row) :
      Takes command (.begun .readCommitted) (.sql (.lockTransactionByReference reference))
        (some row) (.looking seen row)
  | missReference {reference : ProviderReference} :
      Takes command (.begun .readCommitted) (.sql (.lockTransactionByReference reference)) none
        .closing
  | update {isolation : Isolation} {id : TransactionId} {patch : TransactionPatch} :
      Takes command (.begun isolation) (.sql (.updateTransaction id patch)) () .closing
  | account {seen : Database} {row : Transaction} {id : AccountId} (value : Option Account) :
      Takes command (.looking seen row) (.sql (.select (.account id))) value (.looking seen row)
  | count {seen : Database} {row : Transaction} :
      Takes command (.looking seen row) (.sql (.select (.reversalCount row.id)))
        (Query.eval seen (.reversalCount row.id)) (.looking seen row)
  | debits {seen : Database} {row : Transaction} :
      Takes command (.looking seen row) (.sql (.select (.originalDebits row.id)))
        (seen.originalDebits row.id) (.looking seen row)
  | post {seen : Database} {row : Transaction} {draft : EntryDraft} (entry : LedgerEntry) :
      Takes command (.looking seen row) (.sql (.insertEntry draft)) entry (.moving seen row [])
  | first {seen : Database} {row : Transaction} {direction : EntryType} {amount : Text}
      {id : AccountId} (next : [id] <+: command.lockOrder seen row) (value : Option Int) :
      Takes command (.looking seen row) (.sql (.updateBalance direction amount id)) value
        (.moving seen row [id])
  | move {seen : Database} {row : Transaction} {done : List AccountId} {direction : EntryType}
      {amount : Text} {id : AccountId} (next : done ++ [id] <+: command.lockOrder seen row)
      (value : Option Int) :
      Takes command (.moving seen row done) (.sql (.updateBalance direction amount id)) value
        (.moving seen row (done ++ [id]))
  | close {seen : Database} {row : Transaction} {patch : TransactionPatch} :
      Takes command (.looking seen row) (.sql (.updateTransaction row.id patch)) () .closing
  | finish {seen : Database} {row : Transaction} {done : List AccountId}
      {patch : TransactionPatch} :
      Takes command (.moving seen row done) (.sql (.updateTransaction row.id patch)) () .closing
  | note {seen : Database} {row : Transaction} {id : TransactionId} {fromState : Option String}
      {toState : String} :
      Takes command (.looking seen row) (.sql (.insertHistory id fromState toState)) () .closing

/-- Where a process stands after a call that failed. -/
def Phase.failed : Phase → Operation → Phase
  | .outside, .begin _ => .closing
  | .outside, _ => .outside
  | _, _ => .closing

/-- The calls of an operation, answered or not. -/
def Moves (command : Command) : Protocol Failure Operation.Reply Phase :=
  fun phase op reply later =>
    match reply with
    | .ok value => Takes command phase op value later
    | .error _ => op.isRemote = true ∧ later = phase.failed op ∧
        ∃ value next, Takes command phase op value next

section Rules

variable {command : Command} {phase : Phase} {α β : Type}

/-- How code inside a transaction ends: the transaction is not ended yet. -/
def Inside (next : α → Phase → Prop) : Except Failure α → Phase → Prop
  | .ok value, last => next value last
  | .error _, last => last ≠ .outside

/-- Code of the operation that runs inside a transaction. -/
abbrev Runs (command : Command) (next : α → Phase → Prop) (body : Service α)
    (phase : Phase) : Prop :=
  Follows (Moves command) (Inside next) body phase

theorem Phase.failed_inside (inside : phase ≠ .outside) (op : Operation) :
    phase.failed op = .closing := by
  cases phase with
  | outside => exact (inside rfl).elim
  | begun _ | reserving _ | opened _ _ | looking _ _ | moving _ _ _ | closing => rfl

theorem Phase.Settled.inside (settled : phase.Settled) : phase ≠ .outside := by
  cases phase with
  | outside => exact settled.elim
  | begun _ | reserving _ | opened _ _ | looking _ _ | moving _ _ _ | closing =>
      intro absurd
      cases absurd

theorem closing_inside : Phase.closing ≠ .outside := fun absurd => by cases absurd

/-- One raised call. -/
theorem follows_call {op : Operation} {post : Except Failure op.Reply → Phase → Prop}
    (allowed : ∃ value next, Takes command phase op value next)
    (taken : ∀ value next, Takes command phase op value next → post (.ok value) next)
    (failed : op.isRemote = true → ∀ error, post (.error error) (phase.failed op)) :
    Follows (Moves command) post (call op) phase := by
  obtain ⟨value, next, move⟩ := allowed
  refine .perform ⟨.ok value, next, move⟩ fun reply later moved => ?_
  cases reply with
  | ok value => exact taken value later moved
  | error error =>
      obtain ⟨remote, rfl, _⟩ := moved
      exact failed remote error

/-- One raised call inside a transaction. -/
theorem runs_call {op : Operation} {next : op.Reply → Phase → Prop} (inside : phase ≠ .outside)
    (allowed : ∃ value later, Takes command phase op value later)
    (taken : ∀ value later, Takes command phase op value later → next value later) :
    Runs command next (call op) phase := by
  refine follows_call allowed taken fun _ error => ?_
  rw [Phase.failed_inside inside]
  exact closing_inside

theorem runs_bind (middle : α → Phase → Prop) {next : β → Phase → Prop} {body : Service α}
    {f : α → Service β} (first : Runs command middle body phase)
    (rest : ∀ value later, middle value later → Runs command next (f value) later) :
    Runs command next (body.bind f) phase :=
  first.bind rest fun _ _ inside => inside

theorem runs_mono {next weaker : α → Phase → Prop} {body : Service α}
    (runs : Runs command next body phase)
    (implies : ∀ value last, next value last → weaker value last) :
    Runs command weaker body phase := by
  refine Follows.mono runs fun outcome last ended => ?_
  cases outcome with
  | ok value => exact implies value last ended
  | error error => exact ended

theorem runs_fail {next : α → Phase → Prop} (inside : phase ≠ .outside) (failure : Failure) :
    Runs command next (.fail failure) phase := inside

theorem runs_guard {condition : Prop} [Decidable condition] {failure : Failure}
    (inside : phase ≠ .outside) :
    Runs command (fun _ last => condition ∧ last = phase) (require condition failure) phase := by
  unfold require
  by_cases met : condition
  · rw [if_pos met]
    exact ⟨met, rfl⟩
  · rw [if_neg met]
    exact runs_fail inside failure

theorem runs_require {condition : Prop} [Decidable condition] {failure : Failure}
    {next : β → Phase → Prop} {f : Unit → Service β} (inside : phase ≠ .outside)
    (rest : condition → Runs command next (f ()) phase) :
    Runs command next ((require condition failure).bind f) phase := by
  refine runs_bind _ (runs_guard inside) fun _ later reached => ?_
  obtain ⟨met, rfl⟩ := reached
  exact rest met

theorem runs_orThrow {failure : Failure} {found : Option α} {next : β → Phase → Prop}
    {f : α → Service β} (inside : phase ≠ .outside)
    (rest : ∀ value, found = some value → Runs command next (f value) phase) :
    Runs command next ((orThrow failure found).bind f) phase := by
  cases found with
  | none => exact runs_fail inside failure
  | some value => exact rest value rfl

/-- A call that needs no row leaves a settled phase as it is. -/
theorem idle_stays {op : Operation} {value : op.Reply} {later : Phase} (settled : phase.Settled)
    (idle : Idle op) (taken : Takes command phase op value later) : later = phase := by
  cases taken with
  | idle _ _ _ => rfl
  | single _ _ | begin _ => exact settled.elim
  | commit _ | rollback _ => exact idle.elim
  | lockAccount _ | missAccount | lock _ _ | miss | lockReference _ | missReference =>
      exact settled.elim
  | insert _ | reserve _ | start | move _ _ | finish => exact idle.elim
  | update | account _ | count | debits | post _ | first _ _ | close | note =>
      exact settled.elim

/-- A call that needs no row, in a settled phase. -/
theorem runs_idle {op : Operation} {next : β → Phase → Prop} {f : op.Reply → Service β}
    (settled : phase.Settled) (idle : Idle op)
    (rest : ∀ value, Runs command next (f value) phase) :
    Runs command next ((call op).bind f) phase := by
  have runs : Runs command (fun _ last => last = phase) (call op) phase :=
    runs_call settled.inside ⟨op.reply_nonempty.some, phase, .idle settled idle _⟩
      fun value later taken => idle_stays settled idle taken
  refine runs_bind _ runs fun value later same => ?_
  rw [same]
  exact rest value

/-- A last call that needs no row, in a settled phase. -/
theorem runs_last {op : Operation} (settled : phase.Settled) (idle : Idle op) :
    Runs command (fun _ last => last = phase) (call op) phase := by
  refine runs_call settled.inside ⟨op.reply_nonempty.some, phase, .idle settled idle _⟩ ?_
  exact fun value later taken => idle_stays settled idle taken

end Rules

/-! ## Ledger -/

section Ledger

variable {command : Command} {seen : Database} {row : Transaction} {β : Type}

/-- The operation has its payment's row locked and may have changed some of the balances. -/
inductive Busy (seen : Database) (row : Transaction) : List AccountId → Phase → Prop
  | looking : Busy seen row [] (.looking seen row)
  | moving (done : List AccountId) : Busy seen row done (.moving seen row done)

theorem Busy.inside {done : List AccountId} {phase : Phase} (busy : Busy seen row done phase) :
    phase ≠ .outside := by
  cases busy <;> exact fun absurd => by cases absurd

/-- An account is read. -/
theorem runs_account {done : List AccountId} {phase : Phase} (busy : Busy seen row done phase)
    {id : AccountId} {next : β → Phase → Prop} {f : Option Account → Service β}
    (rest : ∀ value, Runs command next (f value) phase) :
    Runs command next ((sql (.select (.account id))).bind f) phase := by
  cases busy with
  | looking =>
      refine runs_bind (fun _ last => last = .looking seen row) ?_ ?_
      · refine runs_call (fun absurd => by cases absurd) ⟨none, _, .account none⟩ ?_
        intro value later taken
        cases taken with
        | account _ => rfl
        | idle settled _ _ => exact settled.elim
      · intro value later same
        rw [same]
        exact rest value
  | moving done => exact runs_idle trivial trivial rest

/-- An entry is written. -/
theorem runs_post {done : List AccountId} {phase : Phase} (busy : Busy seen row done phase)
    {draft : EntryDraft} {next : β → Phase → Prop} {f : LedgerEntry → Service β}
    (rest : ∀ value, Runs command next (f value) (.moving seen row done)) :
    Runs command next ((sql (.insertEntry draft)).bind f) phase := by
  cases busy with
  | looking =>
      refine runs_bind (fun _ last => last = .moving seen row []) ?_ ?_
      · refine runs_call (fun absurd => by cases absurd) ⟨default, _, .post default⟩ ?_
        intro value later taken
        cases taken with
        | post _ => rfl
        | idle settled _ _ => exact settled.elim
      · intro value later same
        rw [same]
        exact rest value
  | moving done => exact runs_idle trivial trivial rest

/-- The next balance of the order is changed. -/
theorem runs_move {done : List AccountId} {phase : Phase} (busy : Busy seen row done phase)
    {direction : EntryType} {amount : Text} {id : AccountId}
    (ordered : done ++ [id] <+: command.lockOrder seen row)
    {next : β → Phase → Prop} {f : Option Int → Service β}
    (rest : ∀ value, Runs command next (f value) (.moving seen row (done ++ [id]))) :
    Runs command next ((sql (.updateBalance direction amount id)).bind f) phase := by
  refine runs_bind (fun _ last => last = .moving seen row (done ++ [id])) ?_ ?_
  · cases busy with
    | looking =>
        refine runs_call (fun absurd => by cases absurd) ⟨none, _, .first ordered none⟩ ?_
        intro value later taken
        cases taken with
        | first _ _ => rfl
        | idle settled _ _ => exact settled.elim
    | moving done =>
        refine runs_call (fun absurd => by cases absurd) ⟨none, _, .move ordered none⟩ ?_
        intro value later taken
        cases taken with
        | move _ _ => rfl
        | idle _ absurd _ => exact absurd.elim
  · intro value later same
    rw [same]
    exact rest value

/-- The payment's status is changed; no balance follows. -/
theorem runs_status {done : List AccountId} {phase : Phase} (busy : Busy seen row done phase)
    {id : TransactionId} (own : row.id = id) {patch : TransactionPatch} :
    Runs command (fun _ last => last = .closing) (sql (.updateTransaction id patch)) phase := by
  subst own
  cases busy with
  | looking =>
      refine runs_call (fun absurd => by cases absurd) ⟨(), _, .close⟩ ?_
      intro value later taken
      cases taken with
      | close => rfl
      | idle settled _ _ => exact settled.elim
  | moving done =>
      refine runs_call (fun absurd => by cases absurd) ⟨(), _, .finish⟩ ?_
      intro value later taken
      cases taken with
      | finish => rfl
      | idle _ absurd _ => exact absurd.elim

theorem runs_debit {done : List AccountId} {phase : Phase} (busy : Busy seen row done phase)
    {id : AccountId} {amount : Text} {transactionId : TransactionId}
    (ordered : done ++ [id] <+: command.lockOrder seen row) :
    Runs command (fun _ last => last = .moving seen row (done ++ [id]))
      (LedgerService.debit id amount transactionId) phase := by
  refine runs_account busy fun found => runs_orThrow busy.inside fun account _ => ?_
  refine runs_move busy ordered fun balance => ?_
  refine runs_require (fun absurd => by cases absurd) fun _ => ?_
  exact runs_last trivial trivial

theorem runs_credit {done : List AccountId} {phase : Phase} (busy : Busy seen row done phase)
    {id : AccountId} {amount : Text} {transactionId : TransactionId}
    (ordered : done ++ [id] <+: command.lockOrder seen row) :
    Runs command (fun _ last => last = .moving seen row (done ++ [id]))
      (LedgerService.credit id amount transactionId) phase := by
  refine runs_account busy fun found => runs_orThrow busy.inside fun account _ => ?_
  refine runs_post busy fun entry => ?_
  exact runs_move (.moving done) ordered fun _ => rfl

theorem runs_compensateAll {id : TransactionId} (debits : List LedgerEntry)
    {done : List AccountId} {phase : Phase} (busy : Busy seen row done phase)
    (ordered : done ++ debits.map LedgerEntry.accountId <+: command.lockOrder seen row) :
    Runs command (fun _ last => ∃ all, Busy seen row all last)
      (LedgerService.compensateAll id debits) phase := by
  induction debits generalizing done phase with
  | nil => exact ⟨done, busy⟩
  | cons debit rest ih =>
      have split : done ++ (debit :: rest).map LedgerEntry.accountId =
          (done ++ [debit.accountId]) ++ rest.map LedgerEntry.accountId := by simp
      rw [split] at ordered
      have once : Runs command (fun _ last => last = .moving seen row (done ++ [debit.accountId]))
          (LedgerService.compensate id debit) phase := by
        refine runs_post busy fun entry => ?_
        exact runs_move (.moving done) ((List.prefix_append _ _).trans ordered) fun _ => rfl
      refine runs_bind _ once fun entry later same => ?_
      rw [same]
      exact runs_bind _ (ih (.moving _) ordered) fun entries last busy => busy

/-- The original debits are those of the tables the operation saw. -/
theorem runs_createCompensatingEntries {id : TransactionId} (own : row.id = id)
    (ordered : seen.debited row.id <+: command.lockOrder seen row) :
    Runs command (fun _ last => ∃ all, Busy seen row all last)
      (LedgerService.createCompensatingEntries id) (.looking seen row) := by
  subst own
  refine runs_bind
    (fun debits last => debits = seen.originalDebits row.id ∧ last = .looking seen row)
    ?_ ?_
  · refine runs_call (fun absurd => by cases absurd) ⟨_, _, .debits⟩ ?_
    intro value later taken
    cases taken with
    | debits => exact ⟨rfl, rfl⟩
    | idle settled _ _ => exact settled.elim
  · intro debits later read
    obtain ⟨rfl, rfl⟩ := read
    exact runs_compensateAll _ .looking ordered

/-- Whether the ledger is marked is decided by the tables the operation saw. -/
theorem runs_hasBeenReversed {id : TransactionId} (own : row.id = id) :
    Runs command
      (fun reversed last => (reversed = true ↔ seen.HasReversal row.id) ∧ last = .looking seen row)
      (LedgerService.hasBeenReversed id) (.looking seen row) := by
  subst own
  refine runs_bind (fun count last =>
    count = Query.eval seen (.reversalCount row.id) ∧ last = .looking seen row) ?_ ?_
  · refine runs_call (fun absurd => by cases absurd) ⟨_, _, .count⟩ ?_
    intro value later taken
    cases taken with
    | count => exact ⟨rfl, rfl⟩
    | idle settled _ _ => exact settled.elim
  · intro count later read
    obtain ⟨rfl, rfl⟩ := read
    refine ⟨?_, rfl⟩
    rw [decide_eq_true_iff]
    exact hasReversal_iff_count seen row.id

/-- The recipient's account comes before the sender's. -/
theorem runs_chargeBack (ordered : ¬ seen.HasReversal row.id →
      command.lockOrder seen row = [row.recipientAccountId, row.senderAccountId]) :
    Runs command (fun _ last => ∃ all, Busy seen row all last) (PaymentsService.chargeBack row)
      (.looking seen row) := by
  refine runs_bind _ (runs_hasBeenReversed rfl) fun reversed later known => ?_
  obtain ⟨known, rfl⟩ := known
  cases reversed with
  | true => exact ⟨[], .looking⟩
  | false =>
      have order := ordered fun marked => by cases known.mpr marked
      refine runs_bind _ (runs_debit .looking (by rw [order]; exact ⟨[row.senderAccountId], rfl⟩))
        ?_
      intro entry later same
      rw [same]
      refine runs_bind _ (runs_credit (.moving _) (by rw [order]; exact List.prefix_rfl)) ?_
      intro entry later same
      rw [same]
      exact ⟨_, .moving _⟩

theorem runs_returnFunds {id : TransactionId} (own : row.id = id)
    (ordered : ¬ seen.HasReversal row.id → command.lockOrder seen row = seen.debited row.id) :
    Runs command (fun _ last => ∃ all, Busy seen row all last) (PaymentsService.returnFunds id)
      (.looking seen row) := by
  refine runs_bind _ (runs_hasBeenReversed own) fun reversed later known => ?_
  obtain ⟨known, rfl⟩ := known
  cases reversed with
  | true => exact ⟨[], .looking⟩
  | false =>
      have order := ordered fun marked => by cases known.mpr marked
      refine runs_bind _ (runs_createCompensatingEntries own
        (by simp only [order, List.prefix_rfl])) ?_
      exact fun entries later busy => busy

/-- A change of status that is recorded. -/
theorem runs_mark {done : List AccountId} {phase : Phase} (busy : Busy seen row done phase)
    {id : TransactionId} (own : row.id = id) {patch : TransactionPatch}
    {fromState : Option String} {toState : String} :
    Runs command (fun _ last => last = .closing)
      (do
        sql (.updateTransaction id patch)
        sql (.insertHistory id fromState toState)) phase := by
  refine runs_bind _ (runs_status busy own) fun _ later same => ?_
  rw [same]
  exact runs_last trivial trivial

end Ledger

/-! ## Transactions -/

section Transactions

variable {command : Command} {α β : Type}

/-- Code that begins and ends no transaction. -/
theorem follows_single {body : Service α} (only : body.OnlyCalls Single) :
    Follows (Moves command) (fun _ last => last = .outside) body .outside := by
  refine .of_onlyCalls only ?_ ?_
  · exact fun op single => ⟨.ok op.reply_nonempty.some, .outside, .single single _⟩
  · intro op reply later single moved
    cases reply with
    | ok value =>
        cases moved with
        | single _ _ => rfl
        | begin _ => exact single.elim
        | commit inside | rollback inside => exact single.elim
        | idle settled _ _ => exact settled.elim
    | error error =>
        obtain ⟨_, rfl, _⟩ := moved
        cases op with
        | begin _ => exact single.elim
        | _ => rfl

theorem single_call {op : Operation} (single : Single op) : (call op).OnlyCalls Single :=
  onlyCalls_perform single

/-- Parts of an operation that leave no transaction open. -/
theorem follows_bind {body : Service α} {f : α → Service β}
    (first : Follows (Moves command) (fun _ last => last = .outside) body .outside)
    (rest : ∀ value, Follows (Moves command) (fun _ last => last = .outside) (f value) .outside) :
    Follows (Moves command) (fun _ last => last = .outside) (body.bind f) .outside := by
  refine first.bind ?_ fun _ _ ended => ended
  intro value later same
  rw [same]
  exact rest value

/-- A transaction ends outside, however it ends. -/
theorem follows_transaction {isolation : Isolation} {body : Service α}
    (runs : Runs command (fun _ last => last ≠ .outside) body (.begun isolation)) :
    Follows (Moves command) (fun _ last => last = .outside) (transaction isolation body)
      .outside := by
  have begins : Follows (Moves command) (fun outcome last => match outcome with
      | .ok _ => last = .begun isolation
      | .error _ => last ≠ .outside) (call (.begin isolation)) .outside := by
    refine follows_call ⟨(), _, .begin isolation⟩ ?_ fun _ _ => closing_inside
    intro value later taken
    cases taken with
    | begin _ => rfl
    | single absurd _ => exact absurd.elim
    | idle settled _ _ => exact settled.elim
  have ends : ∀ later : Phase, later ≠ .outside → Follows (Moves command)
      (fun outcome last => match outcome with
        | .ok _ => last = .outside
        | .error _ => last ≠ .outside) (call .commit) later := by
    intro later inside
    refine follows_call ⟨(), _, .commit inside⟩ ?_ fun _ _ => ?_
    · intro value last taken
      cases taken with
      | commit _ => rfl
      | single absurd _ => exact absurd.elim
      | idle _ absurd _ => exact absurd.elim
    · rw [Phase.failed_inside inside]
      exact closing_inside
  have rolls : ∀ later : Phase, later ≠ .outside → Follows (Moves command)
      (fun _ last => last = .outside) (call .rollback) later := by
    intro later inside
    refine follows_call ⟨(), _, .rollback inside⟩ ?_ fun absurd => by cases absurd
    intro value last taken
    cases taken with
    | rollback _ => rfl
    | single absurd _ => exact absurd.elim
    | idle _ absurd _ => exact absurd.elim
  have committed : Follows (Moves command) (fun outcome last => match outcome with
      | .ok _ => last = .outside
      | .error _ => last ≠ .outside)
      (do
        call (.begin isolation)
        let value ← body
        call .commit
        return value) .outside := by
    refine begins.bind ?_ fun _ _ inside => inside
    intro _ started same
    rw [same]
    refine runs.bind ?_ fun _ _ inside => inside
    intro value later inside
    exact (ends later inside).bind (fun _ _ ended => ended) fun _ _ inside => inside
  refine committed.tryCatch (fun _ _ ended => ended) ?_
  intro error later inside
  exact (rolls later inside).bind (fun _ _ ended => ended) fun _ _ ended => ended

/-- A transaction followed by the release of a Redis lock. -/
theorem follows_underLock {isolation : Isolation} {body : Service α} {key : LockKey}
    {token : LockToken}
    (runs : Runs command (fun _ last => last ≠ .outside) body (.begun isolation)) :
    Follows (Moves command) (fun _ last => last = .outside)
      (tryFinally (transaction isolation body) (releaseLock key token)) .outside := by
  refine (follows_transaction runs).tryFinally ?_
  intro outcome later same
  rw [same]
  exact Follows.swallow (follows_single (single_call trivial)) fun _ _ ended => ⟨rfl, ended⟩

/-- What a locking read of a payment leaves. -/
def Found (own : Transaction → Prop) : Option Transaction → Phase → Prop
  | none, last => last = .closing
  | some row, last => own row ∧ ∃ seen, last = .looking seen row

theorem runs_lockTransaction {id : TransactionId} {nowait : Bool} :
    Runs command (Found fun row => row.id = id) (sql (.lockTransaction id nowait))
      (.begun .readCommitted) := by
  refine runs_call (fun absurd => by cases absurd) ⟨none, _, .miss⟩ ?_
  intro value later taken
  cases taken with
  | lock same _ => exact ⟨same, _, rfl⟩
  | miss => exact rfl
  | idle settled _ _ => exact settled.elim

theorem runs_lockTransactionByReference {reference : ProviderReference} :
    Runs command (Found fun _ => True) (sql (.lockTransactionByReference reference))
      (.begun .readCommitted) := by
  refine runs_call (fun absurd => by cases absurd) ⟨none, _, .missReference⟩ ?_
  intro value later taken
  cases taken with
  | lockReference _ => exact ⟨trivial, _, rfl⟩
  | missReference => exact rfl
  | idle settled _ _ => exact settled.elim

/-- The payment's row is locked first. -/
theorem runs_lock {own : Transaction → Prop} {body : Service (Option Transaction)}
    {next : β → Phase → Prop} {f : Option Transaction → Service β} {phase : Phase}
    (locks : Runs command (Found own) body phase) (missed : Runs command next (f none) .closing)
    (found : ∀ seen row, own row → Runs command next (f (some row)) (.looking seen row)) :
    Runs command next (body.bind f) phase := by
  refine runs_bind _ locks fun reply later reached => ?_
  cases reply with
  | none =>
      change later = .closing at reached
      rw [reached]
      exact missed
  | some row =>
      obtain ⟨own, seen, rfl⟩ := reached
      exact found seen row own

/-- A status change that needs no lock beforehand. -/
theorem runs_update {isolation : Isolation} {id : TransactionId} {patch : TransactionPatch}
    {fromState : Option String} {toState : String} :
    Runs command (fun _ last => last ≠ .outside)
      (do
        sql (.updateTransaction id patch)
        sql (.insertHistory id fromState toState)) (.begun isolation) := by
  refine runs_bind (fun _ last => last = .closing) ?_ ?_
  · refine runs_call (fun absurd => by cases absurd) ⟨(), _, .update⟩ ?_
    intro value later taken
    cases taken with
    | update => rfl
    | idle settled _ _ => exact settled.elim
  · intro _ later same
    rw [same]
    exact runs_mono (runs_last trivial trivial) fun _ _ same => by rw [same]; exact closing_inside

end Transactions

/-! ## Operations -/

section Operations

open PaymentsService

theorem runs_refundBody (id : TransactionId) (dto : RefundPaymentDto) :
    Runs (.refundPayment id dto) (fun _ last => last ≠ .outside) (refundBody id)
      (.begun .readCommitted) := by
  have locks : Runs (.refundPayment id dto) (Found fun row => row.id = id) (lockForRefund id)
      (.begun .readCommitted) := by
    refine Follows.tryCatch runs_lockTransaction (fun _ _ ended => ended) fun error later inside =>
      ?_
    by_cases refused : error.couldNotObtainLock = true
    · rw [if_pos refused]
      exact inside
    · rw [if_neg refused]
      exact inside
  refine runs_lock locks (runs_fail closing_inside _) fun seen row own => ?_
  refine runs_require (fun absurd => by cases absurd) fun allowed => ?_
  have ledger : Runs (.refundPayment id dto) (fun _ last => ∃ all, Busy seen row all last)
      (refundLedger id row) (.looking seen row) := by
    unfold refundLedger
    by_cases completed : row.status = .completed
    · rw [if_pos completed]
      refine runs_chargeBack fun unmarked => ?_
      simp only [Command.lockOrder]
      rw [if_pos ⟨allowed, unmarked⟩, if_pos completed]
    · rw [if_neg completed]
      refine runs_returnFunds own fun unmarked => ?_
      simp only [Command.lockOrder]
      rw [if_pos ⟨allowed, unmarked⟩, if_neg completed]
  refine runs_bind _ ledger fun _ later busy => ?_
  obtain ⟨all, busy⟩ := busy
  exact runs_mono (runs_mark busy own) fun _ _ same => by rw [same]; exact closing_inside

theorem runs_reverseBody (id : TransactionId) (dto : ResolveDisputeDto)
    (reverse : dto.action = .reverse) :
    Runs (.resolveDispute id dto) (fun _ last => last ≠ .outside) (reverseBody id)
      (.begun .readCommitted) := by
  refine runs_lock runs_lockTransaction (runs_fail closing_inside _) fun seen row own => ?_
  refine runs_require (fun absurd => by cases absurd) fun allowed => ?_
  have ledger : Runs (.resolveDispute id dto) (fun _ last => ∃ all, Busy seen row all last)
      (chargeBack row) (.looking seen row) := by
    refine runs_chargeBack fun unmarked => ?_
    simp only [Command.lockOrder]
    rw [if_pos ⟨reverse, allowed, unmarked⟩]
  refine runs_bind _ ledger fun _ later busy => ?_
  obtain ⟨all, busy⟩ := busy
  exact runs_mono (runs_mark busy own) fun _ _ same => by rw [same]; exact closing_inside

theorem runs_exhaustedBody (id : TransactionId) (jobId : JobId) (failedReason : String) :
    Runs (.onProviderJobExhausted jobId failedReason) (fun _ last => last ≠ .outside)
      (DeadLetterHandler.exhaustedBody id) (.begun .readCommitted) := by
  refine runs_lock runs_lockTransaction closing_inside fun seen row own => ?_
  change Runs _ _ (if row.status = .processing then _ else _) _
  by_cases processing : row.status = .processing
  · rw [if_pos processing]
    have ledger : Runs (.onProviderJobExhausted jobId failedReason)
        (fun _ last => ∃ all, Busy seen row all last) (returnFunds id) (.looking seen row) := by
      refine runs_returnFunds own fun unmarked => ?_
      simp only [Command.lockOrder]
      rw [if_pos ⟨processing, unmarked⟩]
    refine runs_bind _ ledger fun _ later busy => ?_
    obtain ⟨all, busy⟩ := busy
    exact runs_mono (runs_mark busy own) fun _ _ same => by rw [same]; exact closing_inside
  · rw [if_neg processing]
    exact fun absurd => by cases absurd

/-- After a delivery has changed the payment, the rest needs no lock. -/
theorem runs_settle {seen : Database} {row : Transaction} {payload : WebhookPayloadDto}
    {rawBody : List UInt8} {signature : String} (allowed : row.status.Allows payload.status) :
    Runs (.processWebhook payload rawBody signature)
      (fun _ last => last = .looking seen row ∨ last = .closing)
      (WebhooksService.settle row payload.status) (.looking seen row) := by
  unfold WebhooksService.settle
  by_cases completed : payload.status = "completed"
  · rw [if_pos completed]
    have order : Command.lockOrder seen row (.processWebhook payload rawBody signature) =
        [row.recipientAccountId] := by
      simp only [Command.lockOrder]
      rw [if_pos allowed, if_pos completed]
    refine runs_bind _ (runs_credit .looking (by rw [order]; exact List.prefix_rfl)) ?_
    intro entry later same
    rw [same]
    refine runs_idle trivial trivial fun completedAt => ?_
    exact runs_mono (runs_status (.moving _) rfl) fun _ _ same => .inr same
  · rw [if_neg completed]
    by_cases failed : payload.status = "failed"
    · rw [if_pos failed]
      have order : Command.lockOrder seen row (.processWebhook payload rawBody signature) =
          seen.debited row.id := by
        simp only [Command.lockOrder]
        rw [if_pos allowed, if_neg completed, if_pos failed]
      refine runs_bind _ (runs_createCompensatingEntries rfl
        (by simp only [order, List.prefix_rfl])) ?_
      intro entries later busy
      obtain ⟨all, busy⟩ := busy
      exact runs_mono (runs_status busy rfl) fun _ _ same => .inr same
    · rw [if_neg failed]
      exact .inl rfl

theorem runs_webhookBody (payload : WebhookPayloadDto) (rawBody : List UInt8) (signature : String)
    (eventId : Nat) :
    Runs (.processWebhook payload rawBody signature) (fun _ last => last ≠ .outside)
      (WebhooksService.webhookBody payload eventId) (.begun .readCommitted) := by
  refine runs_lock runs_lockTransactionByReference ?_ fun seen row _ => ?_
  · exact runs_idle trivial trivial fun _ => closing_inside
  · refine runs_bind (fun _ last => last = .closing) ?_ ?_
    · refine runs_require (fun absurd => by cases absurd) fun allowed => ?_
      refine runs_bind _ (runs_settle allowed) fun _ later reached => ?_
      have noted : Runs (.processWebhook payload rawBody signature)
          (fun _ last => last = .closing)
          (sql (.insertHistory row.id (some row.status.text) payload.status)) later := by
        rcases reached with rfl | rfl
        · refine runs_call (fun absurd => by cases absurd) ⟨(), _, .note⟩ ?_
          intro value later taken
          cases taken with
          | note => rfl
          | idle settled _ _ => exact settled.elim
        · exact runs_last trivial trivial
      refine runs_bind _ noted fun _ last same => ?_
      rw [same]
      exact runs_idle trivial trivial fun processedAt => runs_last trivial trivial
    · intro _ later same
      rw [same]
      exact closing_inside

theorem runs_lockSender {command : Command} {next : Account → Phase → Prop} (id : AccountId)
    (reached : ∀ account, next account (.reserving id)) :
    Runs command next (lockSender id) (.begun .serializable) := by
  have locks : Runs command (fun found last => match found with
      | none => last = .closing
      | some _ => last = .reserving id) (sql (.lockAccount id)) (.begun .serializable) := by
    refine runs_call (fun absurd => by cases absurd) ⟨none, _, .missAccount⟩ ?_
    intro value later taken
    cases taken with
    | lockAccount _ => rfl
    | missAccount => rfl
    | idle settled _ _ => exact settled.elim
  have finds : Runs command next (AccountsService.lockForUpdate id) (.begun .serializable) := by
    refine runs_bind _ locks fun found later same => ?_
    cases found with
    | none =>
        rw [same]
        exact runs_fail closing_inside _
    | some account =>
        rw [same]
        exact reached account
  refine Follows.tryCatch finds (fun _ _ ended => ended) fun error later inside => ?_
  by_cases refused : error.couldNotObtainLock = true
  · rw [if_pos refused]
    exact inside
  · rw [if_neg refused]
    exact inside

theorem runs_createQuote {command : Command} {phase : Phase} (settled : phase.Settled)
    (fromCurrency toCurrency : String) (sourceAmount : Text) :
    Runs command (fun _ last => last = phase)
      (FxService.createQuote fromCurrency toCurrency sourceAmount) phase := by
  have rates : Runs command (fun _ last => last = phase)
      (FxService.getRate fromCurrency toCurrency) phase := by
    unfold FxService.getRate
    by_cases same : fromCurrency = toCurrency
    · rw [if_pos same]
      exact rfl
    · rw [if_neg same]
      refine runs_idle settled trivial fun cached => ?_
      have computes : Runs command (fun _ last => last = phase) (do
          let rate ← orThrow
            (.badRequest s!"Unsupported currency pair: {fromCurrency} → {toCurrency}")
            (FxService.simulatedRates fromCurrency toCurrency)
          call (.cacheSet (.rate fromCurrency toCurrency) (.rate rate) FxService.rateCacheTtlMs)
          return rate) phase :=
        runs_orThrow settled.inside fun rate _ => runs_idle settled trivial fun _ => rfl
      cases cached with
      | none => exact computes
      | some value =>
          cases value with
          | rate units => exact rfl
          | response _ _ | page _ | stats _ => exact computes
  refine runs_bind _ rates fun rate later same => ?_
  rw [same]
  exact runs_idle settled trivial fun now => runs_last settled trivial

/-- The sender's account and the new payment are the only rows the creation changes. -/
theorem runs_reserveFunds {command : Command} (deployment : Deployment) (dto : CreatePaymentDto) :
    Runs command (fun _ last => last ≠ .outside) (reserveFunds deployment dto)
      (.begun .serializable) := by
  refine runs_bind (fun _ last => last = .reserving dto.senderAccountId)
    (runs_lockSender _ fun _ => rfl) fun sender later same => ?_
  rw [same]
  have reserving : (Phase.reserving dto.senderAccountId).Settled := trivial
  refine runs_require reserving.inside fun _ => ?_
  have recipient : Runs command (fun _ last => last = .reserving dto.senderAccountId)
      (checkRecipient dto) (.reserving dto.senderAccountId) := by
    refine runs_idle reserving trivial fun found => runs_orThrow reserving.inside fun _ _ => ?_
    exact runs_mono (runs_guard reserving.inside) fun _ _ reached => reached.2
  refine runs_bind _ recipient fun _ later same => ?_
  rw [same]
  have limits : Runs command (fun _ last => last = .reserving dto.senderAccountId)
      (checkLimits deployment dto) (.reserving dto.senderAccountId) := by
    refine runs_require reserving.inside fun _ => runs_idle reserving trivial fun now => ?_
    refine runs_idle reserving trivial fun count => runs_require reserving.inside fun _ => ?_
    refine runs_idle reserving trivial fun volume => ?_
    exact runs_mono (runs_guard reserving.inside) fun _ _ reached => reached.2
  refine runs_bind _ limits fun _ later same => ?_
  rw [same]
  refine runs_bind _ (runs_createQuote reserving _ _ _) fun fxQuote later same => ?_
  rw [same]
  refine runs_idle reserving trivial fun now => runs_require reserving.inside fun _ => ?_
  have inserts : Runs command
      (fun saved last => last = .opened dto.senderAccountId (Transaction.id saved))
      (sql (.insertTransaction
        { senderAccountId := dto.senderAccountId
          recipientAccountId := dto.recipientAccountId
          sourceCurrency := dto.sourceCurrency
          destinationCurrency := dto.destinationCurrency
          sourceAmount := numberText dto.amount
          destinationAmount := fxQuote.destinationAmount
          fxRate := fxQuote.rate
          fxQuoteId := fxQuote.id
          status := .initiated })) (.reserving dto.senderAccountId) := by
    refine runs_call reserving.inside ⟨default, _, .insert default⟩ ?_
    intro value later taken
    cases taken with
    | insert _ => rfl
    | idle _ absurd _ => exact absurd.elim
  refine runs_bind _ inserts fun saved later same => ?_
  rw [same]
  have opened : (Phase.opened dto.senderAccountId saved.id).Settled := trivial
  refine runs_idle opened trivial fun _ => ?_
  have debits : Runs command (fun _ last => last = .opened dto.senderAccountId saved.id)
      (LedgerService.debit dto.senderAccountId (numberText dto.amount) saved.id)
      (.opened dto.senderAccountId saved.id) := by
    refine runs_idle opened trivial fun found => runs_orThrow opened.inside fun account _ => ?_
    refine runs_bind (fun _ last => last = .opened dto.senderAccountId saved.id) ?_ ?_
    · refine runs_call opened.inside ⟨none, _, .reserve none⟩ ?_
      intro value later taken
      cases taken with
      | reserve _ => rfl
      | idle _ absurd _ => exact absurd.elim
    · intro balance later same
      rw [same]
      exact runs_require opened.inside fun _ => runs_last opened trivial
  refine runs_bind _ debits fun _ later same => ?_
  rw [same]
  refine runs_bind (fun _ last => last = .opened dto.senderAccountId saved.id) ?_ ?_
  · refine runs_call opened.inside ⟨(), _, .start⟩ ?_
    intro value later taken
    cases taken with
    | start => rfl
    | idle _ absurd _ => exact absurd.elim
  · intro _ later same
    rw [same]
    exact runs_idle opened trivial fun _ => opened.inside

/-! ### Whole operations -/

theorem single_invalidatePaymentCaches : invalidatePaymentCaches.OnlyCalls Single :=
  .bind (.swallow (single_call trivial)) fun _ => .swallow (single_call trivial)

theorem single_findTransaction (id : TransactionId) : (findTransaction id).OnlyCalls Single :=
  .bind (single_call trivial) fun _ => onlyCalls_orThrow _ _

variable {command : Command}

/-- What follows a change of a payment. -/
theorem follows_reread (id : TransactionId) :
    Follows (Moves command) (fun _ last => last = .outside)
      (do
        invalidatePaymentCaches
        sql (.select (.transaction id))) .outside :=
  follows_single (.bind single_invalidatePaymentCaches fun _ => single_call trivial)

/-- A refund and a resolution take their Redis lock outside the transaction. -/
theorem follows_acquire {β : Type} {key : LockKey} {ttlMs : Nat} {failure : Failure}
    {f : LockToken → Service β}
    (rest : ∀ token, Follows (Moves command) (fun _ last => last = .outside) (f token) .outside) :
    Follows (Moves command) (fun _ last => last = .outside)
      (do
        let token ← acquireLock key ttlMs
        let token ← orThrow failure token
        f token) .outside := by
  refine follows_bind (follows_single (single_call trivial)) fun token => ?_
  cases token with
  | none => rfl
  | some token => exact rest token

theorem follows_createPayment (deployment : Deployment) (dto : CreatePaymentDto)
    (idempotencyKey : String) :
    Follows (Moves command) (fun _ last => last = .outside)
      (createPayment deployment dto idempotencyKey) .outside := by
  refine follows_bind ?_ fun saved => ?_
  · exact follows_acquire fun token => follows_underLock (runs_reserveFunds deployment dto)
  · exact follows_single (.bind (single_call trivial) fun _ =>
      .bind single_invalidatePaymentCaches fun _ => trivial)

theorem follows_refundPayment (id : TransactionId) (dto : RefundPaymentDto) :
    Follows (Moves (.refundPayment id dto)) (fun _ last => last = .outside)
      (refundPayment id dto) .outside := by
  refine follows_bind (follows_single (single_findTransaction id)) fun row => ?_
  refine follows_bind (follows_single (onlyCalls_require _ _)) fun _ => ?_
  refine follows_acquire fun token => ?_
  refine follows_bind (follows_underLock (runs_refundBody id dto)) fun _ => ?_
  exact follows_bind (follows_single (single_call trivial)) fun _ => follows_reread id

theorem follows_raiseDispute (id : TransactionId) (dto : DisputePaymentDto) :
    Follows (Moves command) (fun _ last => last = .outside) (raiseDispute id dto) .outside := by
  refine follows_bind (follows_single (single_findTransaction id)) fun row => ?_
  refine follows_bind (follows_single (onlyCalls_require _ _)) fun _ => ?_
  exact follows_bind (follows_transaction runs_update) fun _ => follows_reread id

theorem follows_resolveDispute (id : TransactionId) (dto : ResolveDisputeDto) :
    Follows (Moves (.resolveDispute id dto)) (fun _ last => last = .outside)
      (resolveDispute id dto) .outside := by
  refine follows_bind (follows_single (single_findTransaction id)) fun row => ?_
  refine follows_bind (follows_single (onlyCalls_require _ _)) fun _ => ?_
  refine follows_bind ?_ fun _ => follows_reread id
  cases action : dto.action with
  | reverse =>
      refine follows_acquire fun token => ?_
      refine follows_bind (follows_underLock (runs_reverseBody id dto action)) fun _ => ?_
      exact follows_single (single_call trivial)
  | reject => exact follows_transaction runs_update

theorem follows_onProviderJobExhausted (jobId : JobId) (failedReason : String) :
    Follows (Moves (.onProviderJobExhausted jobId failedReason)) (fun _ last => last = .outside)
      (DeadLetterHandler.onProviderJobExhausted jobId failedReason) .outside := by
  refine follows_bind (follows_single (single_call trivial)) fun found => ?_
  cases found with
  | none => rfl
  | some job =>
      change Follows _ _ (if job.attemptsMade < job.attempts then _ else _) _
      by_cases left : job.attemptsMade < job.attempts
      · rw [if_pos left]
        rfl
      · rw [if_neg left]
        refine Follows.swallow (follows_bind ?_ fun _ => follows_single (single_call trivial))
          fun _ _ ended => ended
        exact follows_transaction (runs_exhaustedBody _ jobId failedReason)

theorem single_announce (row : Transaction) (payload : WebhookPayloadDto) :
    (WebhooksService.announce row payload).OnlyCalls Single := by
  unfold WebhooksService.announce
  split
  · exact single_call trivial
  · split
    · exact single_call trivial
    · trivial

theorem follows_processWebhook (deployment : Deployment) (payload : WebhookPayloadDto)
    (rawBody : List UInt8) (signature : String) :
    Follows (Moves (.processWebhook payload rawBody signature)) (fun _ last => last = .outside)
      (WebhooksService.processWebhook deployment payload rawBody signature) .outside := by
  refine follows_bind (follows_single (single_call trivial)) fun inserted => ?_
  cases inserted with
  | none => rfl
  | some event =>
      change Follows _ _ (WebhooksService.handleEvent payload _ event.id) _
      unfold WebhooksService.handleEvent
      split
      · refine follows_bind ?_ fun processed => ?_
        · refine Follows.tryCatch
            (follows_transaction (runs_webhookBody payload rawBody signature event.id))
            (fun _ _ ended => ended) fun error later same => ?_
          rw [same]
          exact follows_single (.bind (.swallow (single_call trivial)) fun _ => trivial)
        · cases processed with
          | none => rfl
          | some row =>
              exact follows_single (.bind single_invalidatePaymentCaches fun _ =>
                single_announce row payload)
      · exact follows_single (single_call trivial)

theorem single_process (data : ProviderJobData) :
    (ProviderProcessor.process data).OnlyCalls Single :=
  ProviderProcessor.onlyCalls_process data (fun _ => trivial) (fun _ => trivial)
    (fun _ _ => trivial) (fun _ _ => trivial) fun _ => trivial

/-- Every operation follows the protocol. -/
theorem follows_program (deployment : Deployment) (command : Command) :
    Follows (Moves command) (fun _ last => last = .outside) (command.program deployment)
      .outside := by
  cases command with
  | createPayment dto idempotencyKey =>
      exact follows_bind (follows_createPayment deployment dto idempotencyKey) fun _ => rfl
  | process data => exact follows_single (single_process data)
  | processWebhook payload rawBody signature =>
      exact follows_processWebhook deployment payload rawBody signature
  | onProviderJobExhausted jobId failedReason =>
      exact follows_onProviderJobExhausted jobId failedReason
  | refundPayment id dto => exact follows_bind (follows_refundPayment id dto) fun _ => rfl
  | raiseDispute id dto => exact follows_bind (follows_raiseDispute id dto) fun _ => rfl
  | resolveDispute id dto => exact follows_bind (follows_resolveDispute id dto) fun _ => rfl
  | retryStuckPayments =>
      refine follows_single
        (StuckPaymentScheduler.sweeping_retryStuckPayments.mono fun op sweeps => ?_)
      cases op with
      | begin _ | commit | rollback => exact sweeps.elim
      | _ => trivial
  | cleanupExpiredIdempotencyKeys =>
      exact follows_single (.bind (single_call trivial) fun _ => single_call trivial)
  | cleanupOldProcessedWebhookEvents =>
      exact follows_single (.bind (single_call trivial) fun _ => single_call trivial)

end Operations

end Locking
end Payroute
