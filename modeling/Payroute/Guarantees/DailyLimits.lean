import Payroute.Commits.Counting
import Payroute.Runs.Serial

/-! # Daily limits in serial runs

In serial runs the payments of an account that count are within the limits of every
day, as long as the limits leave room for each disputed payment that is taken back
to `completed`.
-/

namespace Payroute

open EffectSystem KeyedTable PaymentsService

/-- The operation takes the disputed payment back to `completed`. -/
def Command.Reinstates (deployment : Deployment) (world : World)
    (row : Transaction) : Command → Prop
  | .processWebhook payload rawBody signature =>
      payload.status = "completed" ∧
      WebhooksService.verifySignature deployment rawBody signature = true ∧
      world.db.byReference payload.reference = some row ∧
      world.db.webhookEvents.get? (payload.reference, payload.status) = none
  | .resolveDispute id dto => dto.action = .reject ∧ row.id = id
  | _ => False

/-- The limits of its day leave room for a disputed payment that the operation takes
back. -/
def Command.LeavesRoom (deployment : Deployment) (world : World) (command : Command) : Prop :=
  ∀ row ∈ world.db.transactions.rows, row.status = .disputed →
    command.Reinstates deployment world row →
    deployment.Admits row
      (world.db.outgoingOn row.senderAccountId (startOfDay row.createdAt))

instance (deployment : Deployment) (world : World) (row : Transaction) (command : Command) :
    Decidable (command.Reinstates deployment world row) :=
  match command with
  | .processWebhook _ _ _ | .resolveDispute _ _ => inferInstanceAs (Decidable (_ ∧ _))
  | .createPayment _ _ | .process _ | .onProviderJobExhausted _ _ | .refundPayment _ _
  | .raiseDispute _ _ | .retryStuckPayments | .cleanupExpiredIdempotencyKeys
  | .cleanupOldProcessedWebhookEvents => .isFalse id

instance (deployment : Deployment) (world : World) (command : Command) :
    Decidable (command.LeavesRoom deployment world) :=
  inferInstanceAs (Decidable (∀ row ∈ world.db.transactions.rows, _))

section Commits

variable {deployment : Deployment} {world : World} {command : Command} {first second : Database}

/-- In a serial run a payment that counts again was disputed, and it is the only one. -/
theorem Command.Restores.serial {id : TransactionId} {row : Transaction}
    (restores : command.Restores (serial world) deployment first row)
    (found : first.transactions.get? id = some row) :
    world.db.SameBooks first ∧
      (row.status ∈ Database.countedStatuses ∨
        row.status = .disputed ∧ command.Reinstates deployment world row) := by
  cases command with
  | processWebhook payload rawBody signature =>
      obtain ⟨disputed, completed, signed, looks, patch, events, marks⟩ := restores
      obtain ⟨absent, same⟩ := serial_marks marks
      exact ⟨same, .inr ⟨disputed, completed, signed, serial_looksUp same looks, absent⟩⟩
  | resolveDispute wanted dto =>
      obtain ⟨reject, named, checked, read, allowed⟩ := restores
      refine ⟨serial_since read.since, ?_⟩
      have same : checked = row := by
        have key : row.id = id := Table.key_of_get? found
        have there := (serial_read read).1
        rw [← named, key] at there
        exact Option.some.inj (there.symm.trans found)
      rcases allows_completed (same ▸ allowed) with processing | disputed
      · rw [processing]
        exact .inl counted_processing
      · exact .inr ⟨disputed, reject, named⟩
  | _ => exact restores.elim

theorem Command.Reinstates.unique {row other : Transaction}
    (reinstates : command.Reinstates deployment world row)
    (again : command.Reinstates deployment world other)
    (member : row ∈ world.db.transactions.rows) (present : other ∈ world.db.transactions.rows) :
    row = other := by
  cases command with
  | processWebhook payload rawBody signature =>
      exact Option.some.inj (reinstates.2.2.1.symm.trans again.2.2.1)
  | resolveDispute id dto =>
      exact world.db.transactions.eq_of_key_eq member present (reinstates.2.trans again.2.symm)
  | _ => exact reinstates.elim

/-- What counts after a commit counted before it, or was taken back. -/
theorem Command.CarriesAll.outgoingOn
    (carries : command.CarriesAll (serial world) deployment first second) {accountId : AccountId}
    {start : Nat} {row : Transaction} (counted : row ∈ second.outgoingOn accountId start) :
    ∃ old ∈ first.transactions.rows, old.terms = row.terms ∧ old.senderAccountId = accountId ∧
      startOfDay old.createdAt = start ∧
      (old ∈ first.outgoingOn accountId start ∨
        world.db.SameBooks first ∧ old.status = .disputed ∧
          command.Reinstates deployment world old) := by
  obtain ⟨member, sender, counts, day⟩ := Database.mem_outgoingOn.mp counted
  obtain ⟨old, found, carried⟩ := carries row.id row (Table.get?_of_mem member)
  have columns : ∀ {α : Type} (field : Transaction → α), field old.terms = field row.terms :=
    fun field => congrArg field carried.terms
  have owner : old.senderAccountId = accountId :=
    (columns Transaction.senderAccountId).trans sender
  have dated : startOfDay old.createdAt = start := by
    have created : old.createdAt = row.createdAt := columns Transaction.createdAt
    rw [created]
    exact day
  have there := Table.mem_of_get? found
  refine ⟨old, there, carried.terms, owner, dated, ?_⟩
  rcases carried.counts counts with before | restores
  · exact .inl (Database.mem_outgoingOn.mpr ⟨there, owner, before, dated⟩)
  · obtain ⟨same, before | ⟨disputed, reinstates⟩⟩ := restores.serial found
    · exact .inl (Database.mem_outgoingOn.mpr ⟨there, owner, before, dated⟩)
    · exact .inr ⟨same, disputed, reinstates⟩

/-- A commit that opens no payment stays within the limits if it leaves room. -/
theorem Command.CarriesAll.allows (room : command.LeavesRoom deployment world)
    (carries : command.CarriesAll (serial world) deployment first second)
    (nonneg : first.Nonnegative) {accountId : AccountId} {start : Nat}
    (allows : deployment.Allows (first.outgoingOn accountId start)) :
    deployment.Allows (second.outgoingOn accountId start) := by
  have distinct := second.outgoingOn_distinct accountId start
  have positive : ∀ old ∈ first.outgoingOn accountId start, 0 ≤ old.sourceAmount :=
    fun old counted => nonneg old (Database.mem_outgoingOn.mp counted).1
  by_cases restored : ∃ old ∈ first.transactions.rows, old.senderAccountId = accountId ∧
      startOfDay old.createdAt = start ∧ world.db.SameBooks first ∧ old.status = .disputed ∧
      command.Reinstates deployment world old
  -- The payment taken back is admitted beside those that counted before.
  · obtain ⟨back, member, sender, day, same, disputed, reinstates⟩ := restored
    have present : back ∈ world.db.transactions.rows := same.transactions ▸ member
    have admits := room back present disputed reinstates
    rw [sender, day, ← same.outgoingOn] at admits
    refine admits.allows.within distinct ?_ ?_
    · intro row counted
      obtain ⟨old, there, terms, _, _, before | ⟨_, _, again⟩⟩ := carries.outgoingOn counted
      · exact ⟨old, List.mem_cons_of_mem _ before, terms⟩
      · have unique : old = back :=
          again.unique reinstates (same.transactions ▸ there) present
        rw [unique] at terms
        exact ⟨back, List.mem_cons_self, terms⟩
    · intro old listed
      rcases List.mem_cons.mp listed with rfl | counted
      · exact nonneg old member
      · exact positive old counted
  · refine allows.within distinct (fun row counted => ?_) positive
    obtain ⟨old, there, terms, sender, day, before | ⟨same, disputed, again⟩⟩ :=
      carries.outgoingOn counted
    · exact ⟨old, before, terms⟩
    · exact (restored ⟨old, there, sender, day, same, disputed, again⟩).elim

/-- A commit that leaves room stays within the limits of every day. -/
theorem Command.Commits.allows (exact : deployment.arithmetic = .decimals)
    (room : command.LeavesRoom deployment world)
    (commits : command.Commits (serial world) deployment first second)
    (nonneg : first.Nonnegative) {accountId : AccountId} {start : Nat}
    (allows : deployment.Allows (first.outgoingOn accountId start)) :
    deployment.Allows (second.outgoingOn accountId start) := by
  rcases commits.carries with carries | ⟨dto, row, creates, checked⟩
  · exact carries.allows room nonneg allows
  · obtain ⟨seen, clock, _, drift, timely, created, _, _, limited, _⟩ := checked
    cases drift
    cases timely
    have opened : row.createdAt = world.clock := created
    rw [← opened] at limited
    have admits := limited.admits creates.sender.2 (deployment.showsExcess_decimals exact _ _)
    exact creates.allows admits (.refl first _) nonneg nonneg allows

end Commits

/-- Where amounts are added exactly, each account is within the limits of every day in
every state of a serial run whose operations leave room for the disputed payments they
take back. -/
theorem daily_limits_hold (deployment : Deployment) (exact : deployment.arithmetic = .decimals)
    {initial last : World} (rest : initial.AtRest) (empty : initial.db.transactions.rows = [])
    (run : SerialRun deployment (fun world command => command.LeavesRoom deployment world)
      initial last) (accountId : AccountId) (start : Nat) :
    deployment.Allows (last.db.outgoingOn accountId start) := by
  have allowed : ∀ accountId start, deployment.Allows (initial.db.outgoingOn accountId start) := by
    intro accountId start
    rw [Database.outgoingOn_of_empty empty]
    exact deployment.allows_nil
  have kept : last.AtRest ∧ last.db.Nonnegative ∧ ∀ accountId start,
      deployment.Allows (last.db.outgoingOn accountId start) := by
    refine SerialRun.keeps (fun db => db.Nonnegative ∧ ∀ accountId start,
      deployment.Allows (db.outgoingOn accountId start)) ?_ ?_ rest
      ⟨Database.nonnegative_of_empty empty, allowed⟩ run
    · intro first second beside held
      obtain ⟨nonneg, allows⟩ := held
      refine ⟨nonneg.sameBooks beside.books, fun accountId start => ?_⟩
      rw [beside.books.outgoingOn]
      exact allows accountId start
    · intro world command first second _ room commits held
      obtain ⟨nonneg, allows⟩ := held
      exact ⟨commits.nonnegative nonneg, fun accountId start =>
        commits.allows exact room nonneg (allows accountId start)⟩
  exact kept.2.2 accountId start

/-- A deployment that adds amounts exactly and allows one payment a day. -/
def exactDeployment : Deployment := { singlePayment with arithmetic := .decimals }

/-- The payment is completed, disputed and taken back. -/
def sampleTakenBack : List (Command × List Delivery) :=
  sampleCompletion ++ [(.raiseDispute 0 ⟨"fraud"⟩, []), (.resolveDispute 0 ⟨.reject⟩, [])]

theorem daily_limits_hold_sample :
    let last := runAll exactDeployment sampleTakenBack sampleWorld
    last.db.outgoingOn 0 0 ≠ [] ∧
      ∀ accountId start, exactDeployment.Allows (last.db.outgoingOn accountId start) := by
  intro last
  have run : SerialRun exactDeployment
      (fun world command => command.LeavesRoom exactDeployment world) sampleWorld last :=
    runAll_run sampleTakenBack (by decide +kernel)
  exact ⟨by decide +kernel, daily_limits_hold exactDeployment rfl sampleWorld_atRest rfl run⟩

/-- A second payment is made before the dispute of the first is rejected. -/
def sampleOverrun : List (Command × List Delivery) :=
  sampleCompletion ++ [(.raiseDispute 0 ⟨"fraud"⟩, []), (.createPayment samplePayment "other", []),
    (.resolveDispute 0 ⟨.reject⟩, [])]

/-- A disputed payment does not count, and nothing is checked when it counts again. -/
theorem rejection_exceeds_limit :
    ¬ ∀ (deployment : Deployment) (initial last : World), initial.AtRest →
      deployment.arithmetic = .decimals → initial.db.transactions.rows = [] →
      SerialRun deployment (fun _ _ => True) initial last →
      startOfDay last.clock = startOfDay initial.clock →
      ∀ accountId, deployment.Allows (last.db.outgoingOn accountId (startOfDay last.clock)) := by
  intro claimed
  have run : SerialRun exactDeployment (fun _ _ => True) sampleWorld
      (runAll exactDeployment sampleOverrun sampleWorld) :=
    runAll_run sampleOverrun (by decide +kernel)
  have allows := claimed exactDeployment sampleWorld _ sampleWorld_atRest rfl rfl run
    (by decide +kernel) 0
  exact absurd allows.count (by decide +kernel)

end Payroute
