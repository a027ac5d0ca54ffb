import Payroute.Commits.Requests
import Payroute.Runs.Solo

/-! # What creating a payment leaves

A creation that runs alone either leaves the books as they were and fails, or
reserves the funds and returns, or reserves the funds and fails all the same. The
last happens exactly where the answer to the commit is lost or the job does not
get into the queue.
-/

namespace Payroute

open EffectSystem KeyedTable Program PaymentsService

/-- The books after a payment was opened and its amount taken from the sender. -/
structure Database.Reserves (dto : CreatePaymentDto) (saved : Transaction)
    (first second : Database) : Prop where
  status : saved.status = .processing
  sender : saved.senderAccountId = dto.senderAccountId
  recipient : saved.recipientAccountId = dto.recipientAccountId
  amount : saved.sourceAmount = dto.amount
  fresh : first.transactions.get? saved.id = none
  unposted : first.entriesOf saved.id = []
  transactions : second.transactions = first.transactions.put saved
  accounts : second.accounts = adjust first.accounts (dto.senderAccountId, -dto.amount)
  ledgerEntries : ∃ entry : LedgerEntry,
    entry.terms = debitTerms saved.id dto.senderAccountId dto.sourceCurrency dto.amount ∧
      second.ledgerEntries = first.ledgerEntries ++ [entry]
  stateHistory : ∃ opened reserved, second.stateHistory = first.stateHistory ++
    [{ transactionId := saved.id, fromState := none
       toState := TransactionStatus.initiated.text, timestamp := opened },
      { transactionId := saved.id, fromState := some TransactionStatus.initiated.text
        toState := TransactionStatus.processing.text, timestamp := reserved }]

section Reserves

variable {dto : CreatePaymentDto} {saved row : Transaction} {first second third : Database}

theorem Creates.reserves {setting : Setting} (creates : Creates setting dto row first second) :
    first.Reserves dto { row with status := .processing } second := by
  obtain ⟨quote, entry, opened, reserved, _, fresh, entries, _, sender, recipient, _, _, amount, _,
    _, _, _, terms, rfl⟩ := creates
  have owner : entry.accountId = dto.senderAccountId := congrArg EntryTerms.accountId terms
  have paid : entry.amount = -dto.amount := congrArg EntryTerms.amount terms
  refine ⟨rfl, sender, recipient, amount, fresh, entries, ?_, ?_, ⟨entry, terms, rfl⟩,
    opened, reserved, rfl⟩
  · change patchRow (first.transactions.put row) (row.id, { status := some .processing }) = _
    have found : (first.transactions.put row).get? row.id = some row := Table.get?_put_self _ row
    simp only [patchRow, found]
    exact Table.put_put_of_fresh _ fresh rfl
  · change adjust first.accounts (entry.accountId, entry.amount) = _
    rw [owner, paid]

theorem Database.Reserves.rows (reserves : first.Reserves dto saved second) :
    second.transactions.rows = first.transactions.rows ++ [saved] := by
  rw [reserves.transactions]
  exact Table.rows_put_of_fresh _ reserves.fresh

theorem Database.Reserves.changes (reserves : first.Reserves dto saved second) :
    ¬ first.SameBooks second := by
  intro same
  have rows := reserves.rows
  rw [same.transactions] at rows
  exact absurd (congrArg List.length rows) (by simp)

theorem Database.SameBooks.reserves (same : first.SameBooks second)
    (reserves : second.Reserves dto saved third) : first.Reserves dto saved third where
  status := reserves.status
  sender := reserves.sender
  recipient := reserves.recipient
  amount := reserves.amount
  fresh := by
    rw [← same.transactions]
    exact reserves.fresh
  unposted := by
    unfold Database.entriesOf
    rw [← same.ledgerEntries]
    exact reserves.unposted
  transactions := by
    rw [← same.transactions]
    exact reserves.transactions
  accounts := by
    rw [← same.accounts]
    exact reserves.accounts
  ledgerEntries := by
    rw [← same.ledgerEntries]
    exact reserves.ledgerEntries
  stateHistory := by
    rw [← same.stateHistory]
    exact reserves.stateHistory

theorem Database.Reserves.trans (reserves : first.Reserves dto saved second)
    (same : second.SameBooks third) : first.Reserves dto saved third where
  status := reserves.status
  sender := reserves.sender
  recipient := reserves.recipient
  amount := reserves.amount
  fresh := reserves.fresh
  unposted := reserves.unposted
  transactions := same.transactions.trans reserves.transactions
  accounts := same.accounts.trans reserves.accounts
  ledgerEntries := by
    rw [same.ledgerEntries]
    exact reserves.ledgerEntries
  stateHistory := by
    rw [same.stateHistory]
    exact reserves.stateHistory

end Reserves

/-! ## Calls that fail before they take effect -/

/-- A commit does not lose its answer, and a job gets into the queue. -/
def Dependable : Operation → Delivery → Prop
  | .commit, delivery => delivery ≠ .unacknowledged
  | .queueAdd _ _ _, delivery => delivery = .delivered
  | _, _ => True

instance : (op : Operation) → (delivery : Delivery) → Decidable (Dependable op delivery)
  | .commit, delivery => inferInstanceAs (Decidable (delivery ≠ .unacknowledged))
  | .queueAdd _ _ _, delivery => inferInstanceAs (Decidable (delivery = .delivered))
  | .begin _, _ | .rollback, _ | .sql _, _ | .acquireLock _ _, _ | .releaseLock _ _, _
  | .cacheGet _, _ | .cacheSet _ _ _, _ | .cacheDelete _, _ | .cacheDeleteLists, _
  | .queueGet _, _ | .queueRemove _, _ | .scheduleCallback _ _, _ | .emit _, _ | .now, _
  | .sleep _, _ | .observe _, _ => .isTrue trivial

/-- The calls of a run with what became of them. -/
abbrev CallLog := List (Operation × Delivery)

def CallLog.Dependable (log : CallLog) : Prop := ∀ entry ∈ log, Payroute.Dependable entry.1 entry.2

/-- Calls that neither commit nor add a job. -/
def Operation.Harmless : Operation → Prop
  | .commit | .queueAdd _ _ _ => False
  | _ => True

theorem Operation.Harmless.dependable {op : Operation} (harmless : op.Harmless)
    (delivery : Delivery) : Dependable op delivery := by
  cases op with
  | commit => exact harmless.elim
  | queueAdd _ _ _ => exact harmless.elim
  | _ => trivial

theorem Operation.Inside.harmless {op : Operation} (inside : op.Inside) : op.Harmless := by
  cases op with
  | sql _ | cacheGet _ | cacheSet _ _ _ | now => trivial
  | _ => exact inside.elim

theorem Operation.Idle.harmless {op : Operation} (idle : op.Idle) : op.Harmless := by
  cases op with
  | commit => exact idle.1.elim
  | queueAdd _ _ _ => exact idle.2.elim
  | _ => trivial

theorem CallLog.dependable_append {log calls : CallLog} :
    CallLog.Dependable (log ++ calls) ↔ log.Dependable ∧ calls.Dependable :=
  List.forall_mem_append

theorem CallLog.dependable_concat {log : CallLog} {op : Operation} {delivery : Delivery} :
    CallLog.Dependable (log ++ [(op, delivery)]) ↔ log.Dependable ∧
      Payroute.Dependable op delivery := by
  rw [dependable_append]
  exact and_congr_right fun _ => List.forall_mem_singleton

/-- Only harmless calls were made in between. -/
def CallLog.Extends (log later : CallLog) : Prop :=
  ∃ calls : CallLog, later = log ++ calls ∧ calls.Dependable

theorem CallLog.Extends.dependable {log later : CallLog} (more : log.Extends later) :
    later.Dependable ↔ log.Dependable := by
  obtain ⟨calls, rfl, harmless⟩ := more
  exact dependable_append.trans (and_iff_left harmless)

theorem CallLog.Extends.mem {log later : CallLog} (more : log.Extends later)
    {entry : Operation × Delivery} (member : entry ∈ log) : entry ∈ later := by
  obtain ⟨calls, rfl, _⟩ := more
  exact List.mem_append_left _ member

/-! ## Running alone with the calls recorded -/

section Recorded

variable {who : ProcessId} {α : Type} {world : World} {log : CallLog}

/-- The backend with its calls recorded, where any call may fail. -/
abbrev Tracked (who : ProcessId) {α : Type} (post : Except Failure α → World × CallLog → Prop)
    (body : Service α) (world : World) (log : CallLog) : Prop :=
  Solo backend.recorded (fun _ _ => True) who post body (world, log)

theorem tracked_call (op : Operation) {post : Except Failure op.Reply → World × CallLog → Prop}
    (each : ∀ delivery, post (World.exec who delivery op world).1
      ((World.exec who delivery op world).2, log ++ [(op, delivery)])) :
    Tracked who post (call op) world log :=
  Solo.perform fun delivery _ => each delivery

/-- Code that neither commits nor adds a job. -/
theorem tracked_harmless {post : Except Failure α → World → Prop} {body : Service α}
    {allowed : Operation → Prop} (solo : Solo backend (fun _ _ => True) who post body world)
    (only : body.OnlyCalls allowed) (harmless : ∀ op, allowed op → op.Harmless) :
    Tracked who (fun outcome last => post outcome last.1 ∧ log.Extends last.2) body world log := by
  intro choices _
  rw [Machine.run_recorded]
  refine ⟨solo choices fun _ _ => trivial, _, rfl, fun entry member => ?_⟩
  exact (harmless _ (backend.calls_allowed who only choices world entry member)).dependable entry.2

/-- What code inside a transaction has drafted when it runs alone. -/
theorem solo_within {first start : World} {commit : Database → Database → Prop}
    {result : α → World → Prop} {body : Service α}
    (within : (serial first).Within commit who result body start) (sound : start.Sound)
    (alone : start.Alone who) (opened : start.sessions who ≠ none)
    (clock : start.clock = first.clock) :
    Solo backend (fun _ _ => True) who (fun outcome last => last.Sound ∧ last.Alone who ∧
      ∀ value, outcome = .ok value → ∃ middle, result value middle ∧
        (serial first).Rely who middle last) body start := by
  intro choices _
  have safe := within sound opened
  have ordered := Setting.orderly
    (fun _ _ same => serial_issues (same.trans clock)) safe sound alone choices
  obtain ⟨ends, kept, path⟩ := Safe.run ((serial first).regular commit) safe sound ordered
  rw [Setting.run_machine] at ends kept path
  refine ⟨kept, (Setting.Grant.path path).1 alone, fun value returned => ?_⟩
  obtain ⟨middle, _, _, _, holds, rely⟩ := ends.2.2 value returned
  exact ⟨middle, holds, rely⟩

end Recorded

/-! ## The database transaction -/

/-- How a creation that started in `first` may end. -/
def Reserved (dto : CreatePaymentDto) (first : World) (outcome : Except Failure Transaction)
    (last : World) (log : CallLog) : Prop :=
  (∃ saved, outcome = .ok saved ∧ first.db.Reserves dto saved last.db ∧ log.Dependable ∧
    (.commit, .delivered) ∈ log) ∨
  (∃ error, outcome = .error error ∧ first.db.SameBooks last.db ∧ log.Dependable) ∨
  ∃ error saved, outcome = .error error ∧ first.db.Reserves dto saved last.db ∧ ¬ log.Dependable

section Transaction

variable {who : ProcessId} {dto : CreatePaymentDto} {deployment : Deployment} {world : World}
  {log : CallLog}

/-- What the body of the transaction leaves to be committed. -/
theorem solo_reserveFunds (rest : world.AtRest) (deployment : Deployment) (dto : CreatePaymentDto) :
    Solo backend (fun _ _ => True) who (fun outcome last => last.Sound ∧ last.Alone who ∧
      last.db = world.db ∧ world.Silent last ∧ ∀ saved, outcome = .ok saved →
        world.db.Reserves dto saved (last.commit who).db)
      (reserveFunds deployment dto) (world.begin who .serializable) := by
  have opened : (world.begin who .serializable).sessions who ≠ none := by
    change Function.update world.sessions who _ who ≠ none
    rw [Function.update_self]
    exact Option.some_ne_none _
  have alone : (world.begin who .serializable).Alone who := by
    intro other differs
    exact (Function.update_of_ne differs _ _).trans (rest.sessions other)
  have inner := (inner_reserveFunds deployment dto).mono fun _ => Operation.Inner.inside
  have within : (serial world).Within (fun _ _ => False) who
      (Setting.Within.Opens (serial world) who deployment dto) (reserveFunds deployment dto)
      (world.begin who .serializable) :=
    Setting.Within.reserveFunds world (serial_issues rfl)
      ⟨world.db, rfl, Database.SameBooks.refl _⟩ deployment dto
  have drafts := solo_within within (World.begin_sound rest.sound) alone opened rfl
  have stays : Solo backend (fun _ _ => True) who (fun _ last => last.db = world.db ∧
      last.sessions who ≠ none) (reserveFunds deployment dto) (world.begin who .serializable) := by
    refine Solo.keeps (fun last : World => last.db = world.db ∧ last.sessions who ≠ none) ?_ inner
      ⟨rfl, opened⟩
    intro delivery op later inside held
    obtain ⟨same, stays⟩ := World.exec_inside delivery inside held.2
    exact ⟨same.trans held.1, stays⟩
  have silent : Solo backend (fun _ _ => True) who (fun _ last => world.Silent last)
      (reserveFunds deployment dto) (world.begin who .serializable) :=
    solo_silent (⟨rfl, rfl, rfl, rfl⟩ : world.Silent (world.begin who .serializable))
      (inner.mono fun _ => Operation.Inside.silent)
  refine ((drafts.and stays).and silent).mono fun outcome last ended => ?_
  obtain ⟨⟨⟨sound, alone, drafted⟩, same, _⟩, quiet⟩ := ended
  refine ⟨sound, alone, same, quiet, fun saved returned => ?_⟩
  obtain ⟨middle, ⟨row, changes, rfl, drafts, creates⟩, rely⟩ := drafted saved returned
  have opens := (creates last rely).1
  rw [same] at opens
  have done : (last.commit who).db = changes.apply last.db := (drafts.frame rely.frame).commits
  rw [done, same]
  exact opens.reserves

/-- What the database transaction leaves before a failure of it is raised again. -/
structure Reserving (dto : CreatePaymentDto) (first : World) (who : ProcessId)
    (outcome : Except Failure Transaction) (last : World) (log : CallLog) : Prop where
  sound : last.Sound
  alone : last.Alone who
  silent : first.Silent last
  closed : ∀ saved, outcome = .ok saved → last.sessions who = none
  reserved : Reserved dto first outcome last log

/-- A failure before the commit. -/
theorem Reserving.failed {error : Failure} {last : World} (sound : last.Sound)
    (alone : last.Alone who) (silent : world.Silent last) (same : last.db = world.db)
    (clean : log.Dependable) : Reserving dto world who (.error error) last log where
  sound := sound
  alone := alone
  silent := silent
  closed := fun _ absurd => by cases absurd
  reserved := .inr (.inl ⟨error, rfl, same ▸ .refl _, clean⟩)

theorem Reserved.error {error other : Failure} {last final : World} {later : CallLog}
    (reserved : Reserved dto world (.error error) last log) (same : final.db = last.db)
    (dependable : later.Dependable ↔ log.Dependable) :
    Reserved dto world (.error other) final later := by
  unfold Reserved at reserved ⊢
  rw [same, dependable]
  rcases reserved with ⟨_, absurd, _⟩ | ⟨_, _, books, clean⟩ | ⟨_, saved, _, reserves, unclean⟩
  · cases absurd
  · exact .inr (.inl ⟨other, rfl, books, clean⟩)
  · exact .inr (.inr ⟨other, saved, rfl, reserves, unclean⟩)

/-- The start of the transaction. -/
theorem tracked_begin (rest : world.AtRest) (clean : log.Dependable) (dto : CreatePaymentDto) :
    Tracked who (fun outcome last => last.2.Dependable ∧
        (outcome = .ok () ∧ last.1 = world.begin who .serializable ∨
          (∃ error, outcome = .error error) ∧ Reserving dto world who (.error .unavailable) last.1
            last.2))
      (call (.begin .serializable)) world log := by
  have alone : (world.begin who .serializable).Alone who := fun other differs =>
    (Function.update_of_ne differs _ _).trans (rest.sessions other)
  refine tracked_call (.begin .serializable) fun delivery => ?_
  have clean : CallLog.Dependable (log ++ [(.begin .serializable, delivery)]) :=
    CallLog.dependable_concat.mpr ⟨clean, trivial⟩
  refine ⟨clean, ?_⟩
  cases delivery with
  | delivered => exact .inl ⟨rfl, rfl⟩
  | lost => exact .inr ⟨⟨_, rfl⟩, .failed rest.sound (rest.alone who) (.refl _) rfl clean⟩
  | unacknowledged =>
      exact .inr ⟨⟨_, rfl⟩, .failed (World.begin_sound rest.sound) alone ⟨rfl, rfl, rfl, rfl⟩ rfl
        clean⟩

/-- The commit, which may fail before or after it took effect. -/
theorem tracked_commit {saved : Transaction} {last : World} (sound : last.Sound)
    (alone : last.Alone who) (silent : world.Silent last) (same : last.db = world.db)
    (clean : log.Dependable) (reserves : world.db.Reserves dto saved (last.commit who).db) :
    Tracked who (fun outcome final =>
        Reserving dto world who (outcome.map fun _ => saved) final.1 final.2)
      (call .commit) last log := by
  have closed : (last.commit who).sessions who = none := Function.update_self _ _ _
  have ended : (last.commit who).Alone who := fun other differs =>
    (Function.update_of_ne differs _ _).trans (alone other differs)
  have quiet : world.Silent (last.commit who) := ⟨silent.1, silent.2, silent.3, silent.4⟩
  refine tracked_call .commit fun delivery => ?_
  cases delivery with
  | delivered =>
      refine ⟨World.commit_sound sound, ended, quiet, fun _ _ => closed,
        .inl ⟨saved, rfl, reserves, ?_, List.mem_append_right _ List.mem_cons_self⟩⟩
      exact CallLog.dependable_concat.mpr ⟨clean, by decide⟩
  | lost =>
      exact .failed sound alone silent same (CallLog.dependable_concat.mpr ⟨clean, by decide⟩)
  | unacknowledged =>
      refine ⟨World.commit_sound sound, ended, quiet, fun _ _ => closed,
        .inr (.inr ⟨_, saved, rfl, reserves, ?_⟩)⟩
      exact fun dependable => (CallLog.dependable_concat.mp dependable).2 rfl

/-- A rollback leaves what was committed. -/
theorem tracked_rollback {error : Failure} {last : World}
    (reserving : Reserving dto world who (.error error) last log) :
    Tracked who (fun _ final => final.1.AtRest ∧ world.Silent final.1 ∧
        ∀ other, Reserved dto world (.error other) final.1 final.2)
      (call .rollback) last log := by
  refine tracked_call .rollback fun delivery => ?_
  have silent := reserving.silent
  refine ⟨.of_sound (World.release_sound reserving.sound) fun other => ?_,
    ⟨silent.1, silent.2, silent.3, silent.4⟩, fun other => reserving.reserved.error rfl ?_⟩
  · by_cases same : other = who
    · rw [same]
      exact Function.update_self _ _ _
    · exact (Function.update_of_ne same _ _).trans (reserving.alone other same)
  · exact CallLog.dependable_concat.trans (and_iff_left trivial)

/-- The database transaction, whose commit may fail in two ways. -/
theorem tracked_reserve (rest : world.AtRest) (clean : log.Dependable) (deployment : Deployment)
    (dto : CreatePaymentDto) :
    Tracked who (fun outcome last => last.1.AtRest ∧ world.Silent last.1 ∧
        Reserved dto world outcome last.1 last.2)
      (transaction .serializable (reserveFunds deployment dto)) world log := by
  have attempted : Tracked who (fun outcome last => Reserving dto world who outcome last.1 last.2)
      (do
        call (.begin .serializable)
        let value ← reserveFunds deployment dto
        call .commit
        return value) world log := by
    refine (tracked_begin rest clean dto).bind ?_ ?_
    · intro _ start begun
      obtain ⟨start, log⟩ := start
      obtain ⟨clean, ⟨_, same⟩ | ⟨⟨_, absurd⟩, _⟩⟩ := begun
      swap
      · cases absurd
      change start = _ at same
      subst same
      have drafts : Tracked who _ (reserveFunds deployment dto)
        (world.begin who .serializable) log :=
        tracked_harmless (solo_reserveFunds rest deployment dto)
          (inner_reserveFunds deployment dto) fun _ inner => inner.inside.harmless
      refine drafts.bind ?_ ?_
      · intro saved last drafted
        obtain ⟨last, log⟩ := last
        obtain ⟨⟨sound, alone, same, silent, reserves⟩, cleaned⟩ := drafted
        refine (tracked_commit sound alone silent same (cleaned.dependable.mpr clean)
          (reserves saved rfl)).bind ?_ ?_
        · exact fun _ final ended => .ret ended
        · exact fun error final ended => ended
      · intro error last drafted
        obtain ⟨⟨sound, alone, same, silent, _⟩, cleaned⟩ := drafted
        exact .failed sound alone silent same (cleaned.dependable.mpr clean)
    · intro error last begun
      obtain ⟨clean, ⟨absurd, _⟩ | ⟨_, reserving⟩⟩ := begun
      · cases absurd
      · exact { reserving with closed := fun _ absurd => by cases absurd
                               reserved := reserving.reserved.error rfl Iff.rfl }
  refine attempted.tryCatch ?_ ?_
  · intro saved last ended
    refine ⟨.of_sound ended.sound fun other => ?_, ended.silent, ended.reserved⟩
    by_cases same : other = who
    · rw [same]
      exact ended.closed saved rfl
    · exact ended.alone other same
  · intro error last failed
    refine (tracked_rollback failed).bind ?_ ?_
    · intro _ final ended
      obtain ⟨rested, quiet, reserved⟩ := ended
      exact .fail ⟨rested, quiet, reserved error⟩
    · intro other final ended
      obtain ⟨rested, quiet, reserved⟩ := ended
      exact ⟨rested, quiet, reserved other⟩

theorem Reserved.congr {start last : World} {outcome : Except Failure Transaction}
    (reserved : Reserved dto start outcome last log) (same : start.db = world.db) :
    Reserved dto world outcome last log := by
  unfold Reserved at reserved ⊢
  rw [← same]
  exact reserved

/-- The part of a creation under the lock of the sender's account. -/
theorem tracked_commitPayment (rest : world.AtRest) (clean : log.Dependable)
    (deployment : Deployment) (dto : CreatePaymentDto) :
    Tracked who (fun outcome last => last.1.AtRest ∧ world.Silent last.1 ∧
        Reserved dto world outcome last.1 last.2)
      (commitPayment deployment dto) world log := by
  have idle : ∀ {α : Type} {body : Service α} {start : World} {before : CallLog},
      world.Still start → before.Dependable → body.OnlyCalls Operation.Idle →
      Tracked who (fun _ last => world.Still last.1 ∧ last.2.Dependable) body start before := by
    intro α body start before still clean only
    refine (tracked_harmless (solo_still still only) only fun _ idle => idle.harmless).mono ?_
    exact fun _ _ ended => ⟨ended.1, ended.2.dependable.mpr clean⟩
  have fails : ∀ {error : Failure} {last : World × CallLog}, world.Still last.1 ∧
    last.2.Dependable →
      last.1.AtRest ∧ world.Silent last.1 ∧ Reserved dto world (.error error) last.1 last.2 := by
    intro error last ended
    obtain ⟨still, clean⟩ := ended
    exact ⟨still.rest, still.silent, .inr (.inl ⟨error, rfl, still.db ▸ .refl _, clean⟩)⟩
  refine (idle rest.still clean (idle_acquireLock _ _)).bind (fun token second acquired => ?_)
    fun _ _ ended => fails ended
  refine (idle acquired.1 acquired.2 (onlyCalls_orThrow _ _)).bind (fun token third taken => ?_)
    fun _ _ ended => fails ended
  obtain ⟨still, clean⟩ := taken
  refine (tracked_reserve still.rest clean deployment dto).tryFinally ?_
  intro outcome later reserved
  obtain ⟨rested, silent, reserved⟩ := reserved
  have only : (call (.releaseLock (.account dto.senderAccountId) token)).OnlyCalls
      Operation.Idle := onlyCalls_perform ⟨trivial, trivial⟩
  refine Solo.swallow (tracked_harmless (solo_still rested.still only) only
    fun _ idle => idle.harmless) fun _ last released => ?_
  obtain ⟨after, more⟩ := released
  refine ⟨rfl, after.rest, (still.silent.trans silent).trans after.silent, ?_⟩
  refine Reserved.congr ?_ still.db
  unfold Reserved at reserved ⊢
  rw [after.db, more.dependable]
  exact reserved.imp_left fun ⟨saved, returned, reserves, clean, committed⟩ =>
    ⟨saved, returned, reserves, clean, more.mem committed⟩

end Transaction

/-! ## The whole operation -/

/-- The numbers the queue has not handed out yet are unused. -/
def World.QueueNumbered (world : World) : Prop :=
  ∀ n, world.next .job ≤ n → world.jobs.get? (.serial n) = none

/-- Calls that add no job leave the numbers of the queue unused. -/
theorem World.QueueNumbered.exec {world : World} (numbered : world.QueueNumbered)
    (who : ProcessId) (delivery : Delivery) {op : Operation} (silent : op.Silent) :
    (World.exec who delivery op world).2.QueueNumbered := by
  intro n beyond
  rw [(world.exec_silent who delivery silent).jobs]
  refine numbered n (le_trans ?_ beyond)
  rcases World.exec_state who delivery op world with same | ran
  · rw [same]
  · rw [ran]
    exact world.perform_next who op .job

/-- How a creation that started in `first` may end. -/
def Created (dto : CreatePaymentDto) (idempotencyKey : String) (first : World)
    (outcome : Except Failure Transaction) (last : World) (log : CallLog) : Prop :=
  (∃ saved, outcome = .ok saved ∧ first.db.Reserves dto saved last.db ∧ log.Dependable ∧
    (.commit, .delivered) ∈ log ∧ (first.QueueNumbered → ∃ job : ProviderJob,
      first.jobs.get? job.id = none ∧ last.jobs = first.jobs.put job ∧ job.state = .waiting ∧
      job.data = providerJob dto idempotencyKey saved)) ∨
  (∃ error, outcome = .error error ∧ first.db.SameBooks last.db ∧ last.jobs = first.jobs ∧
    log.Dependable) ∨
  ∃ error saved, outcome = .error error ∧ first.db.Reserves dto saved last.db ∧ ¬ log.Dependable

section Creation

variable {who : ProcessId} {dto : CreatePaymentDto} {deployment : Deployment} {world : World}
  {log : CallLog} {idempotencyKey : String}

theorem silent_commitPayment (deployment : Deployment) (dto : CreatePaymentDto) :
    (commitPayment deployment dto).OnlyCalls Operation.Silent := by
  have silent : ∀ {α : Type} {body : Service α}, body.OnlyCalls Operation.Idle →
      body.OnlyCalls Operation.Silent := fun only => only.mono fun _ idle => idle.2
  have reserves := (inner_reserveFunds deployment dto).mono fun _ inner => inner.inside.silent
  exact .bind (silent (idle_acquireLock _ _)) fun _ => .bind (onlyCalls_orThrow _ _) fun _ =>
    .tryFinally (onlyCalls_transaction trivial trivial trivial reserves)
      (silent (idle_releaseLock _ _))

/-- Adding the job, once the funds are reserved. -/
theorem tracked_queueAdd {saved : Transaction} {start : World} (rest : start.AtRest)
    (clean : log.Dependable) (committed : (.commit, .delivered) ∈ log)
    (reserves : world.db.Reserves dto saved start.db) (jobs : start.jobs = world.jobs)
    (numbered : world.QueueNumbered → start.QueueNumbered) :
    Tracked who (fun outcome last => last.1.AtRest ∧
        Created dto idempotencyKey world (outcome.map fun _ => saved) last.1 last.2)
      (call (.queueAdd (providerJob dto idempotencyKey saved) providerJobAttempts none)) start
      log := by
  refine tracked_call (.queueAdd _ _ _) fun delivery => ?_
  have aside : start.Aside
    (World.exec who delivery (.queueAdd (providerJob dto idempotencyKey saved)
      providerJobAttempts none) start).2 := World.exec_neutral trivial
  refine ⟨rest.aside aside, ?_⟩
  have unanswered : delivery ≠ .delivered → Created dto idempotencyKey world
      (.error .unavailable)
        (World.exec who delivery (.queueAdd (providerJob dto idempotencyKey saved)
        providerJobAttempts none) start).2
      (log ++ [(.queueAdd (providerJob dto idempotencyKey saved) providerJobAttempts none,
        delivery)]) := by
    intro unanswered
    refine .inr (.inr ⟨_, saved, rfl, ?_, fun dependable => ?_⟩)
    · rw [aside.db]
      exact reserves
    · exact unanswered (CallLog.dependable_concat.mp dependable).2
  cases delivery with
  | lost => exact unanswered (by decide)
  | unacknowledged => exact unanswered (by decide)
  | delivered =>
      refine .inl ⟨saved, rfl, ?_, CallLog.dependable_concat.mpr ⟨clean, rfl⟩,
        List.mem_append_left _ committed, fun unused => ?_⟩
      · rw [aside.db]
        exact reserves
      · have fresh := numbered unused _ (Nat.le_refl _)
        rw [jobs] at fresh
        refine ⟨{ id := .serial (start.next .job), data := providerJob dto idempotencyKey saved
                  attempts := providerJobAttempts, attemptsMade := 0, state := .waiting },
          fresh, ?_, rfl, rfl⟩
        change (start.queueAdd _ _ none).jobs = _
        unfold World.queueAdd
        simp only [Option.getD_none, jobs, fresh]

theorem tracked_createPayment (rest : world.AtRest) (clean : log.Dependable)
    (deployment : Deployment) (dto : CreatePaymentDto) (idempotencyKey : String) :
    Tracked who (fun outcome last => last.1.AtRest ∧
        Created dto idempotencyKey world outcome last.1 last.2)
      (createPayment deployment dto idempotencyKey) world log := by
  have numbers : Tracked who (fun _ last => world.QueueNumbered → last.1.QueueNumbered)
      (commitPayment deployment dto) world log :=
    Solo.keeps (fun last : World × CallLog => world.QueueNumbered → last.1.QueueNumbered)
      (fun delivery op later silent held numbered => (held numbered).exec who delivery silent)
      (silent_commitPayment deployment dto) id
  refine ((tracked_commitPayment rest clean deployment dto).and numbers).bind ?_ ?_
  · intro saved start reserved
    obtain ⟨start, log⟩ := start
    obtain ⟨⟨rested, silent, reserved⟩, numbered⟩ := reserved
    rcases reserved with ⟨_, same, reserves, clean, committed⟩ | ⟨_, absurd, _⟩ | ⟨_, _, absurd, _⟩
    · cases same
      refine (tracked_queueAdd rested clean committed reserves silent.jobs numbered).bind ?_ ?_
      · intro _ last added
        obtain ⟨rested, created⟩ := added
        refine (tracked_harmless (solo_invalidatePaymentCaches rested.still)
          idle_invalidatePaymentCaches fun _ idle => idle.harmless).bind ?_ ?_
        · intro _ final dropped
          obtain ⟨⟨_, still⟩, more⟩ := dropped
          refine .ret ⟨still.rest, ?_⟩
          rcases created with ⟨_, same, reserves, clean, committed, queued⟩ | ⟨_, absurd, _⟩ |
            ⟨_, _, absurd, _⟩
          · cases same
            refine .inl ⟨saved, rfl, still.db ▸ reserves, more.dependable.mpr clean,
              more.mem committed, fun unused => ?_⟩
            rw [still.silent.jobs]
            exact queued unused
          · cases absurd
          · cases absurd
        · intro _ _ dropped
          cases dropped.1.1
      · intro error last added
        exact added
    · cases absurd
    · cases absurd
  · intro error last reserved
    obtain ⟨⟨rested, silent, reserved⟩, _⟩ := reserved
    refine ⟨rested, ?_⟩
    rcases reserved with ⟨_, absurd, _⟩ | ⟨_, _, same, clean⟩ | ⟨_, saved, _, reserves, unclean⟩
    · cases absurd
    · exact .inr (.inl ⟨error, rfl, same, silent.jobs, clean⟩)
    · exact .inr (.inr ⟨error, saved, rfl, reserves, unclean⟩)

end Creation
end Payroute
