import Payroute.Commits.Counting
import Payroute.Runs.Serial

/-! # Concurrent payments stay within the limits

A payment commits only if its sender's account has not changed since its
transaction began. Every payment changes its sender's account, so the limits of a
payment are checked against all payments of the sender that are committed before
it. What the checks compare is a sum of doubles, and they are about the day on which
they are made, not the one on which the payment's transaction began.
-/

namespace Payroute

open EffectSystem KeyedTable PaymentsService

/-- The operation is not one of the dispute endpoints. -/
def Command.Plain : Command → Prop
  | .raiseDispute _ _ => False
  | .resolveDispute _ _ => False
  | _ => True

instance (command : Command) : Decidable command.Plain :=
  match command with
  | .raiseDispute _ _ | .resolveDispute _ _ => .isFalse id
  | .createPayment _ _ | .process _ | .processWebhook _ _ _ | .onProviderJobExhausted _ _
  | .refundPayment _ _ | .retryStuckPayments | .cleanupExpiredIdempotencyKeys
  | .cleanupOldProcessedWebhookEvents => .isTrue trivial

/-- No payment is disputed. -/
def Database.Calm (db : Database) : Prop :=
  ∀ id row, db.transactions.get? id = some row → row.status ≠ .disputed

/-- Where no payment is disputed, none becomes so, and an account whose version is the
same has no further payments that count. -/
def Database.Shrinks (first second : Database) : Prop :=
  first.Calm → second.Calm ∧ ∀ id account, first.accounts.get? id = some account →
    ∃ later, second.accounts.get? id = some later ∧ account.version ≤ later.version ∧
      (later.version = account.version → first.Includes second id)

namespace Database

theorem calm_of_empty {db : Database} (empty : db.transactions.rows = []) : db.Calm := by
  intro id row found
  have member := Table.mem_of_get? found
  rw [empty] at member
  cases member

theorem Shrinks.refl (db : Database) : db.Shrinks db := fun calm =>
  ⟨calm, fun id account found => ⟨account, found, Nat.le_refl _, fun _ => .refl db id⟩⟩

theorem Shrinks.trans {first second third : Database} (left : first.Shrinks second)
    (right : second.Shrinks third) : first.Shrinks third := by
  intro calm
  obtain ⟨calm, before⟩ := left calm
  obtain ⟨calm, after⟩ := right calm
  refine ⟨calm, fun id account found => ?_⟩
  obtain ⟨middle, there, grown, includes⟩ := before id account found
  obtain ⟨last, reached, grownLater, includesLater⟩ := after id middle there
  refine ⟨last, reached, grown.trans grownLater, fun same => ?_⟩
  have unchanged : middle.version = account.version := by omega
  exact (includes unchanged).trans (includesLater (by omega))

end Database

section Commits

variable {setting : Setting} {deployment : Deployment} {first second : Database}

/-- Without disputes nothing counts again. -/
theorem Command.CarriesAll.includes {command : Command} (plain : command.Plain)
    (carries : command.CarriesAll setting deployment first second) (calm : first.Calm) :
    second.Calm ∧ ∀ id, first.Includes second id := by
  constructor
  · intro id row found disputed
    obtain ⟨old, before, carried⟩ := carries id row found
    rcases carried.disputes disputed with disputed | ⟨_, _, rfl⟩
    · exact calm id old before disputed
    · exact plain
  · intro accountId id row found _
    obtain ⟨old, before, carried⟩ := carries id row found
    refine ⟨old, before, carried.terms, fun counted => ?_⟩
    rcases carried.counts counted with counts | restores
    · exact counts
    · cases command with
      | processWebhook payload rawBody signature => exact (calm id old before restores.1).elim
      | resolveDispute _ _ => exact plain.elim
      | _ => exact restores.elim

section Creates

variable {dto : CreatePaymentDto} {row : Transaction}

theorem Creates.calm (creates : Creates setting dto row first second) (calm : first.Calm) :
    second.Calm := by
  intro id other found
  rcases creates.within (Table.mem_of_get? found) with rfl | old
  · exact TransactionStatus.noConfusion
  · exact calm _ other (Table.get?_of_mem old)

/-- The other senders have no further payments. -/
theorem Creates.includes (creates : Creates setting dto row first second) {id : AccountId}
    (other : id ≠ dto.senderAccountId) : first.Includes second id := by
  intro wanted found there sender
  have named : found.id = wanted := Table.key_of_get? there
  rcases creates.within (Table.mem_of_get? there) with rfl | old
  · exact (other (sender.symm.trans creates.sender.1)).elim
  · rw [← named]
    exact ⟨found, Table.get?_of_mem old, rfl, fun counts => counts⟩

/-- A payment that commits was covered by its sender's balance. -/
theorem Creates.covered (creates : Creates setting dto row first second)
    (solvent : first.Solvent second) :
    ∃ account, first.accounts.get? dto.senderAccountId = some account ∧
      dto.amount ≤ account.balance := by
  obtain ⟨account, found, _⟩ := creates.denominates
  refine ⟨account, found, ?_⟩
  rcases solvent _ (Table.mem_of_get? (creates.account found)) with old | ⟨nonneg, _⟩
  · have same := first.accounts.eq_of_key_eq old (Table.mem_of_get? found) rfl
    exact (Nat.succ_ne_self _ (congrArg Account.version same)).elim
  · change 0 ≤ account.balance + -dto.amount at nonneg
    omega

end Creates

/-- A commit without disputes lets counted payments only shrink or changes the version of
their sender's account. -/
theorem Command.Plain.shrinks {command : Command} (plain : command.Plain)
    (commits : command.Commits setting deployment first second) : first.Shrinks second := by
  intro calm
  have versions : ∀ id account, first.accounts.get? id = some account →
      ∃ later, second.accounts.get? id = some later ∧ account.version ≤ later.version := by
    intro id account found
    obtain ⟨changes, _, rfl⟩ := commits.posts
    exact changes.versions found
  rcases commits.carries with carries | ⟨dto, row, creates, _⟩
  · obtain ⟨kept, includes⟩ := carries.includes plain calm
    refine ⟨kept, fun id account found => ?_⟩
    obtain ⟨later, there, grown⟩ := versions id account found
    exact ⟨later, there, grown, fun _ => includes id⟩
  · refine ⟨creates.calm calm, fun id account found => ?_⟩
    by_cases sender : id = dto.senderAccountId
    · subst sender
      refine ⟨_, creates.account found, Nat.le_succ _, fun same => ?_⟩
      exact (Nat.succ_ne_self _ same).elim
    · obtain ⟨later, there, grown⟩ := versions id account found
      exact ⟨later, there, grown, fun _ => creates.includes sender⟩

end Commits

theorem Database.SameBooks.shrinks {first second : Database} (same : first.SameBooks second) :
    first.Shrinks second := by
  obtain ⟨accounts, transactions, _, _⟩ := same
  unfold Database.Shrinks Database.Calm Database.Includes
  rw [accounts, transactions]
  exact Database.Shrinks.refl first

/-! ## Runs -/

/-- The day whose volume the call asks for. -/
def Operation.volumeDay : Operation → Option Nat
  | .sql (.select (.outgoingVolume _ start)) => some start
  | _ => none

/-- The payment the call inserts. -/
def Operation.opening : Operation → Option TransactionDraft
  | .sql (.insertTransaction draft) => some draft
  | _ => none

/-- What makes the checks of a payment say what they are for: the volume is asked for of
the day on which the payment's transaction began, and where the payment takes that volume
over the limit, the comparison shows it. -/
def Deployment.Judges (deployment : Deployment) (startedAt : Nat) (seen : Database)
    (op : Operation) : Prop :=
  (∀ start ∈ op.volumeDay, start = startOfDay startedAt) ∧
    ∀ draft ∈ op.opening, ∀ amount ∈ numericOfText draft.sourceAmount,
      deployment.ShowsExcess
        ((seen.outgoing draft.senderAccountId (startOfDay startedAt)).map
          Transaction.sourceAmount).sum amount

instance (deployment : Deployment) (startedAt : Nat) (seen : Database) (op : Operation) :
    Decidable (deployment.Judges startedAt seen op) :=
  inferInstanceAs (Decidable (_ ∧ _))

/-- The setting in which every payment is judged so. -/
def judged (deployment : Deployment) : Setting := guarded (fun _ _ => True) deployment.Judges

/-- The states that concurrent operations without disputes reach where every payment is
judged so. -/
abbrev Judged (deployment : Deployment) :
    Pool ProcessId Failure Operation.Reply World → Pool ProcessId Failure Operation.Reply World →
      Prop :=
  Pool.Steps (judged deployment).machine (surroundings (Command.Starts deployment Command.Plain))

/-- The setting of a run that ends in `last`. The committed tables of its calls are those
of states on the way. -/
def arriving (deployment : Deployment) (initial : World)
    (last : Pool ProcessId Failure Operation.Reply World) : Setting where
  origin := fun _ => True
  drift := Database.Shrinks
  later := fun _ _ => True
  floor := 0
  permits := fun _ _ => True
  holds := fun db => ∃ middle : Pool ProcessId Failure Operation.Reply World,
    Judged deployment (Pool.quiet initial) middle ∧ Judged deployment middle last ∧
      middle.shared.db = db
  dated := deployment.Judges
  drift_refl := .refl
  drift_trans := fun _ _ _ left right => left.trans right
  origin_drift := fun _ _ _ _ => trivial
  later_drift := fun _ _ _ => trivial
  later_side := fun _ _ _ => trivial
  later_trans := fun _ _ _ _ _ => trivial

section Runs

variable {deployment : Deployment} {initial : World}
  {pool last : Pool ProcessId Failure Operation.Reply World}

/-- The commits of a run that ends in `last`. -/
abbrev Arrives (deployment : Deployment) (initial : World)
    (last : Pool ProcessId Failure Operation.Reply World) : Database → Database → Prop :=
  Command.CommitsOf (arriving deployment initial last) deployment Command.Plain

theorem arriving_shared (deployment : Deployment) (initial : World)
    (last : Pool ProcessId Failure Operation.Reply World) :
    (arriving deployment initial last).Shared (Arrives deployment initial last) where
  origin := fun _ => trivial
  floor := rfl
  drifts := by
    rintro first second (beside | ⟨command, plain, commits⟩)
    · exact beside.books.shrinks
    · exact plain.shrinks commits

/-- A run is one of the setting of any later state of it. -/
theorem arriving_steps (reached : Judged deployment (Pool.quiet initial) pool)
    (onward : Judged deployment pool last) :
    Pool.Steps (arriving deployment initial last).machine
      (surroundings (Command.Starts deployment Command.Plain)) (Pool.quiet initial) pool := by
  apply Setting.steps_of_guarded
  · intro middle earlier later
    exact ⟨⟨middle, earlier, later.trans onward, rfl⟩, trivial⟩
  · exact reached

theorem Judged.reached (run : Judged deployment (Pool.quiet initial) pool) :
    Pool.Reachable backend (surroundings (Command.Starts deployment Command.Plain)) initial pool :=
  Relation.ReflTransGen.mono (fun _ _ => Pool.Step.unrestrict) _ _ run

theorem Judged.calm (run : Judged deployment (Pool.quiet initial) pool) (rest : initial.AtRest)
    (calm : initial.db.Calm) : pool.shared.db.Calm := by
  refine Command.pool_keeps Database.Calm ?_ ?_ (Setting.valid_quiet rest) calm
    (Setting.steps_of_backend concurrent_unguarded run.reached)
  · exact fun _ _ beside calm => (beside.books.shrinks calm).1
  · exact fun _ _ _ plain commits _ calm => (plain.shrinks commits calm).1

theorem Judged.nonnegative (run : Judged deployment (Pool.quiet initial) pool)
    (rest : initial.AtRest) (nonneg : initial.db.Nonnegative) : pool.shared.db.Nonnegative :=
  Command.pool_keeps Database.Nonnegative (fun _ _ beside nonneg => nonneg.sameBooks beside.books)
    (fun _ _ _ _ commits _ nonneg => commits.nonnegative nonneg) (Setting.valid_quiet rest) nonneg
    (Setting.steps_of_backend concurrent_unguarded run.reached)

/-- A payment that commits was checked in a state of the run against all that counts when
it commits. -/
theorem Creates.arrives {first second : Database} {dto : CreatePaymentDto} {row : Transaction}
    (creates : Creates (arriving deployment initial last) dto row first second)
    (checked : Checked (arriving deployment initial last) deployment dto row first)
    (rest : initial.AtRest) (calm : initial.db.Calm) (nonneg : initial.db.Nonnegative) :
    ∃ earlier : Pool ProcessId Failure Operation.Reply World,
      Judged deployment (Pool.quiet initial) earlier ∧ Judged deployment earlier last ∧
      earlier.shared.db.Nonnegative ∧
      earlier.shared.db.Includes first dto.senderAccountId ∧
      first.accounts.get? dto.senderAccountId =
        earlier.shared.db.accounts.get? dto.senderAccountId ∧
      deployment.Admits row
        (earlier.shared.db.outgoing dto.senderAccountId (startOfDay row.createdAt)) := by
  obtain ⟨seen, clock, ⟨earlier, reached, onward, rfl⟩, shrinks, _, _, same, _, limited,
    looked, draft, sender, text, inserted⟩ := checked
  have today : startOfDay clock = startOfDay row.createdAt := looked.1 _ rfl
  rw [today] at limited
  obtain ⟨_, later⟩ := shrinks (reached.calm rest calm)
  have includes : earlier.shared.db.Includes first dto.senderAccountId := by
    obtain ⟨account, found, _⟩ := creates.denominates
    obtain ⟨current, there, _, includes⟩ := later _ account (same.symm.trans found)
    rw [found] at there
    cases there
    exact includes rfl
  have shows := inserted.2 draft rfl dto.amount (by
    rw [text]
    exact numericOfText_numberText _)
  rw [sender] at shows
  exact ⟨earlier, reached, onward, reached.nonnegative rest nonneg, includes, same,
    limited.admits creates.sender.2 shows⟩

/-- Every state of a run is within the limits of every day. -/
theorem Judged.within (run : Judged deployment (Pool.quiet initial) pool) (rest : initial.AtRest)
    (empty : initial.db.transactions.rows = []) (accountId : AccountId) (start : Nat) :
    deployment.Allows (pool.shared.db.outgoingOn accountId start) := by
  have begun := Database.nonnegative_of_empty empty
  have unstarted := Database.calm_of_empty empty
  have allowed : ∀ accountId start, deployment.Allows (initial.db.outgoingOn accountId start) := by
    intro accountId start
    rw [Database.outgoingOn_of_empty empty]
    exact deployment.allows_nil
  have shared := arriving_shared deployment initial pool
  have kept : pool.shared.db.Calm ∧ pool.shared.db.Nonnegative ∧ ∀ accountId start,
      deployment.Allows (pool.shared.db.outgoingOn accountId start) := by
    refine shared.keeps (Command.starts_outside shared fun _ _ made => made)
      (fun db => db.Calm ∧ db.Nonnegative ∧ ∀ accountId start,
        deployment.Allows (db.outgoingOn accountId start)) ?_ ?_
      (Setting.valid_quiet rest) ⟨unstarted, begun, allowed⟩ (arriving_steps run .refl)
    · rintro first second beside ⟨calm, nonneg, allows⟩
      have books := beside.books
      refine ⟨(books.shrinks calm).1, nonneg.sameBooks books, fun accountId start => ?_⟩
      rw [books.outgoingOn]
      exact allows accountId start
    · rintro first second ⟨command, plain, commits⟩ _ ⟨calm, nonneg, allows⟩
      refine ⟨(plain.shrinks commits calm).1, commits.nonnegative nonneg, fun accountId start => ?_⟩
      rcases commits.carries with carries | ⟨dto, row, creates, checked⟩
      · refine (allows accountId start).within (second.outgoingOn_distinct _ _)
          ((carries.includes plain calm).2 accountId).outgoingOn fun old counted => ?_
        exact nonneg old (Database.mem_outgoingOn.mp counted).1
      · obtain ⟨earlier, _, _, before, includes, _, admits⟩ :=
          creates.arrives checked rest unstarted begun
        exact creates.allows admits includes before nonneg (allows accountId start)
  exact kept.2.2 accountId start

/-- A step that changes the books is a commit of the run up to it. -/
theorem Judged.commit (run : Judged deployment (Pool.quiet initial) pool) (rest : initial.AtRest)
    {next : Pool ProcessId Failure Operation.Reply World}
    (step : Pool.Step (judged deployment).machine
      (surroundings (Command.Starts deployment Command.Plain)) pool next)
    (changes : ¬ pool.shared.db.SameBooks next.shared.db) :
    ∃ command : Command, command.Plain ∧
      command.Commits (arriving deployment initial pool) deployment pool.shared.db next.shared.db ∧
      pool.shared.db.Solvent next.shared.db := by
  have shared := arriving_shared deployment initial pool
  have starts : ∀ who body, Command.Starts deployment Command.Plain who body → ∀ world,
      (arriving deployment initial pool).Outside _ who (fun _ _ => True) body world :=
    Command.starts_outside shared fun _ _ made => made
  have compatible := shared.compatible starts
  have valid := (Pool.Valid.steps compatible (Setting.valid_quiet rest)
    (arriving_steps run .refl)).1
  have last : Pool.Step (arriving deployment initial pool).machine
      (surroundings (Command.Starts deployment Command.Plain)) pool next := by
    cases step with
    | spawn who body free started => exact .spawn who body free started
    | call who choice op rest current ready =>
        exact Pool.Step.call (M := (arriving deployment initial pool).machine) who choice op rest
          current ⟨ready.1, trivial, ⟨pool, run, .refl, rfl⟩, trivial, ready.2.dated⟩
    | finish who ended => exact .finish who ended
    | crash who alive => exact .crash who alive
    | drift next moved => exact .drift next moved
  have changed := (valid.step compatible last).2
  clear last step
  generalize next.shared = final at changed changes ⊢
  cases changed with
  | none state => exact (changes (.refl _)).elim
  | guaranteed who granted =>
      rcases granted.step with beside | ⟨command, plain, commits⟩
      · exact (changes beside.books).elim
      · exact ⟨command, plain, commits, granted.solvent⟩
  | drifted moved =>
      refine (changes ?_).elim
      rw [World.Elapses.db moved]
      exact .refl _
  | crashed who state => exact (changes (.refl _)).elim

end Runs

/-- Where every payment is checked on the day on which its transaction began, and the sum
of doubles shows each excess, each account is within the limits of every day in every
state that concurrent operations without disputes reach. The limits and the balance leave
room for a payment that commits next in an earlier state of the run, in which everything
already counted that counts when it commits. -/
theorem limits_hold (deployment : Deployment) {initial : World} (rest : initial.AtRest)
    (empty : initial.db.transactions.rows = [])
    {pool : Pool ProcessId Failure Operation.Reply World}
    (run : Judged deployment (Pool.quiet initial) pool) :
    (∀ accountId start, deployment.Allows (pool.shared.db.outgoingOn accountId start)) ∧
    ∀ next row,
      Pool.Step (judged deployment).machine
        (surroundings (Command.Starts deployment Command.Plain)) pool next →
      pool.shared.db.transactions.get? row.id = none →
      next.shared.db.transactions.get? row.id = some row →
      ∃ (earlier : Pool ProcessId Failure Operation.Reply World) (account : Account),
        Judged deployment (Pool.quiet initial) earlier ∧ Judged deployment earlier pool ∧
        earlier.shared.db.Includes pool.shared.db row.senderAccountId ∧
        deployment.Admits row
          (earlier.shared.db.outgoing row.senderAccountId (startOfDay row.createdAt)) ∧
        earlier.shared.db.accounts.get? row.senderAccountId = some account ∧
        row.sourceAmount ≤ account.balance := by
  refine ⟨run.within rest empty, ?_⟩
  intro next row step absent present
  have begun := Database.nonnegative_of_empty empty
  have unstarted := Database.calm_of_empty empty
  have calm := run.calm rest unstarted
  obtain ⟨command, plain, commits, solvent⟩ := run.commit rest step fun same => by
    rw [same.transactions, absent] at present
    cases present
  rcases commits.carries with carries | ⟨dto, opened, creates, checked⟩
  · obtain ⟨old, before, _⟩ := carries row.id row present
    rw [absent] at before
    cases before
  have shape : row = { opened with status := .processing } := by
    rcases creates.within (Table.mem_of_get? present) with shape | old
    · exact shape
    · have before := Table.get?_of_mem old
      exact absurd (before.symm.trans absent) (Option.some_ne_none _)
  obtain ⟨sender, amount⟩ := creates.sender
  obtain ⟨earlier, before, onward, _, includes, same, admits⟩ :=
    creates.arrives checked rest unstarted begun
  obtain ⟨account, found, covered⟩ := creates.covered solvent
  have named : row.senderAccountId = dto.senderAccountId := by
    rw [shape]
    exact sender
  have paid : row.sourceAmount = opened.sourceAmount := by rw [shape]
  have created : row.createdAt = opened.createdAt := by rw [shape]
  rw [named, created]
  refine ⟨earlier, account, before, onward, includes, ⟨admits.count, ?_⟩, same.symm.trans found, ?_⟩
  · rw [paid]
    exact admits.volume
  · rw [paid, amount]
    exact covered

/-- Two payments of the same sender, the second of which exceeds the limit. -/
def sampleRivals : List Turn :=
  [{ who := 0, starts := some (.createPayment samplePayment "first") },
    { who := 1, starts := some (.createPayment samplePayment "second") }]

instance (deployment : Deployment) (who : ProcessId) (choice : Delivery) (op : Operation)
    (world : World) : Decidable ((judged deployment).machine.ready who choice op world) :=
  inferInstanceAs (Decidable ((guarded _ _).machine.ready who choice op world))

theorem limits_hold_sample :
    let pool := takeTurns (judged singlePayment).machine singlePayment sampleRivals
      (Pool.quiet sampleWorld)
    pool.shared.db.transactions.rows.length = 1 ∧ ∀ accountId start,
      singlePayment.Allows (pool.shared.db.outgoingOn accountId start) := by
  intro pool
  have run : Judged singlePayment (Pool.quiet sampleWorld) pool :=
    takeTurns_commands (by decide +kernel) (by decide +kernel)
  have one : pool.shared.db.transactions.rows.length = 1 := by decide +kernel
  exact ⟨one, (limits_hold singlePayment sampleWorld_atRest rfl run).1⟩

/-- The limits the service has where none are configured. -/
def defaultLimits : Deployment :=
  { sampleDeployment with
    maxAmountPerTransaction := 100_000_000 * 10 ^ 8
    maxPaymentsPerAccountPerDay := 50
    maxDailyVolumePerAccount := 500_000_000 * 10 ^ 8 }

/-- A world with a wealthy sender. -/
def wealthyWorld : World :=
  { sampleWorld with
    db := { sampleWorld.db with
      accounts := sampleAccounts.put
        { id := 0, currency := "USD", balance := 600_000_000 * 10 ^ 8, version := 0 } } }

theorem wealthyWorld_atRest : wealthyWorld.AtRest where
  sessions := fun _ => rfl
  rowLocks := fun _ => rfl
  fresh := fun _ _ => ⟨rfl, rfl, rfl⟩
  below := ⟨fun _ member => (List.not_mem_nil member).elim,
    fun _ member => (List.not_mem_nil member).elim⟩

/-- A payment of some amount, by some process. -/
def paymentTurn (who : ProcessId) (amount : Nat) (isPositive : 0 < amount) : Turn :=
  { who := who
    starts := some (.createPayment { samplePayment with amount := amount, isPositive := isPositive }
      "key") }

/-- Four payments of `100000000`, one of `99999999.99999633` and one of `0.0000037`. -/
def sampleExcess : List Turn :=
  (List.range 4).map (paymentTurn · (100_000_000 * 10 ^ 8) (by decide)) ++
    [paymentTurn 4 99_999_999_99999633 (by decide), paymentTurn 5 370 (by decide)]

/-- The sum of doubles does not show that the last payment exceeds the volume of the day. -/
theorem doubles_exceed_limit :
    ¬ ∀ (deployment : Deployment) (initial : World)
      (pool : Pool ProcessId Failure Operation.Reply World), initial.AtRest →
      initial.db.transactions.rows = [] →
      Pool.Reachable backend (surroundings (Command.Starts deployment Command.Plain)) initial pool →
      ∀ accountId, deployment.Allows
        (pool.shared.db.outgoingOn accountId (startOfDay pool.shared.clock)) := by
  intro claimed
  have reached : Pool.Reachable backend
      (surroundings (Command.Starts defaultLimits Command.Plain)) wealthyWorld
      (takeTurns backend defaultLimits sampleExcess (Pool.quiet wealthyWorld)) :=
    takeTurns_commands (by decide +kernel) (by decide +kernel)
  have allows := claimed defaultLimits wealthyWorld _ wealthyWorld_atRest rfl reached 0
  exact absurd allows.volume (by decide +kernel)

end Payroute
