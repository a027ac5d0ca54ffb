import Payroute.Effects.Solo
import Payroute.Runs.Calls
import Payroute.Runs.Serial

/-! # Operations run alone, step by step

What the parts of an operation leave when it runs alone: outside of its database
transactions only its events, jobs and submissions show, and a transaction that
fails leaves the database as it was, unless the answer to its commit is lost.
-/

namespace Payroute

open EffectSystem KeyedTable Program

namespace Operation

/-- Nobody outside the backend sees the call. -/
def Silent : Operation → Prop
  | .emit _ | .queueAdd _ _ _ | .queueRemove _ | .scheduleCallback _ _ | .observe _ => False
  | _ => True

/-- The call emits no event. -/
def Mute : Operation → Prop
  | .emit _ => False
  | _ => True

theorem Inner.mute {op : Operation} (inner : op.Inner) : op.Mute := by
  cases op with
  | emit _ => exact inner.elim
  | _ => trivial

theorem Sweeping.mute {op : Operation} (sweeping : op.Sweeping) : op.Mute := by
  cases op with
  | emit _ => exact sweeping.elim
  | _ => trivial

/-- The call neither changes the database nor is it seen. -/
def Idle (op : Operation) : Prop := op.Neutral ∧ op.Silent

theorem Inside.silent {op : Operation} (inside : op.Inside) : op.Silent := by
  cases op with
  | sql _ | cacheGet _ | cacheSet _ _ _ | now => trivial
  | _ => exact inside.elim

end Operation

namespace World

/-- Nothing was seen from outside. -/
structure Silent (first second : World) : Prop where
  emitted : second.emitted = first.emitted
  jobs : second.jobs = first.jobs
  callbacks : second.callbacks = first.callbacks
  journal : second.journal = first.journal

namespace Silent

variable {first second third : World}

theorem refl (world : World) : world.Silent world := ⟨rfl, rfl, rfl, rfl⟩

theorem trans (left : first.Silent second) (right : second.Silent third) : first.Silent third :=
  ⟨right.1.trans left.1, right.2.trans left.2, right.3.trans left.3, right.4.trans left.4⟩

end Silent

theorem perform_silent (world : World) (who : ProcessId) {op : Operation} (silent : op.Silent) :
    world.Silent (world.perform who op).2 := by
  cases op with
  | sql statement =>
      have apart := execute_apart world who statement
      exact ⟨apart.emitted, apart.jobs, apart.callbacks, apart.journal⟩
  | acquireLock key ttlMs =>
      change world.Silent (world.acquireLock key ttlMs).2
      unfold acquireLock
      cases world.redisLocks key with
      | none => exact ⟨rfl, rfl, rfl, rfl⟩
      | some _ => exact ⟨rfl, rfl, rfl, rfl⟩
  | releaseLock key token =>
      change world.Silent (world.releaseLock key token)
      unfold releaseLock
      by_cases holds : (world.redisLocks key).map RedisLock.token = some token
      · rw [if_pos holds]
        exact ⟨rfl, rfl, rfl, rfl⟩
      · rw [if_neg holds]
        exact .refl world
  | queueAdd _ _ _ | queueRemove _ | scheduleCallback _ _ | emit _ | observe _ => exact silent.elim
  | _ => exact ⟨rfl, rfl, rfl, rfl⟩

theorem exec_silent (world : World) (who : ProcessId) (delivery : Delivery) {op : Operation}
    (silent : op.Silent) : world.Silent (exec who delivery op world).2 := by
  rcases exec_state who delivery op world with same | ran
  · rw [same]
    exact .refl world
  · rw [ran]
    exact world.perform_silent who silent

/-- Only one kind of call emits. -/
theorem exec_emitted (world : World) (who : ProcessId) (delivery : Delivery) {op : Operation}
    (mute : op.Mute) : (exec who delivery op world).2.emitted = world.emitted := by
  by_cases silent : op.Silent
  · exact (world.exec_silent who delivery silent).emitted
  · rcases exec_state who delivery op world with same | ran
    · rw [same]
    · rw [ran]
      cases op with
      | emit event => exact mute.elim
      | queueAdd data attempts jobId =>
          change (world.queueAdd data attempts jobId).emitted = world.emitted
          unfold queueAdd
          simp only
          split
          · rfl
          · rfl
      | queueRemove id => rfl
      | scheduleCallback amount currency => rfl
      | observe note => rfl
      | _ => exact (silent trivial).elim

/-- Identifiers are handed out in order. -/
theorem perform_next (world : World) (who : ProcessId) (op : Operation) (supply : Supply) :
    world.next supply ≤ (world.perform who op).2.next supply := by
  have draws : ∀ drawn : Supply, world.next supply ≤ (world.draw drawn).next supply := by
    intro drawn
    by_cases same : supply = drawn
    · rw [same]
      exact (Nat.le_succ _).trans_eq (Function.update_self _ _ world.next).symm
    · exact (Function.update_of_ne same _ world.next).symm.le
  cases op with
  | sql statement =>
      change _ ≤ (world.execute who statement).2.next supply
      rcases execute_cases world who statement with ⟨error, refused⟩ | ⟨outcome, _, _, ran⟩
      · rw [refused]
      · rw [ran]
        change _ ≤ (world.apply who outcome).next supply
        cases opened : world.sessions who with
        | none =>
            rw [apply_closed outcome opened]
            cases outcome.draws with
            | none => exact Nat.le_refl _
            | some drawn => exact draws drawn
        | some session =>
            rw [apply_open outcome opened]
            cases outcome.draws with
            | none => exact Nat.le_refl _
            | some drawn => exact draws drawn
  | acquireLock key ttlMs =>
      change _ ≤ (world.acquireLock key ttlMs).2.next supply
      unfold acquireLock
      cases world.redisLocks key with
      | none => exact draws .token
      | some _ => exact draws .token
  | releaseLock key token =>
      change _ ≤ (world.releaseLock key token).next supply
      unfold releaseLock
      split
      · exact Nat.le_refl _
      · exact Nat.le_refl _
  | queueAdd data attempts jobId =>
      change _ ≤ (world.queueAdd data attempts jobId).next supply
      unfold queueAdd
      simp only
      split
      · exact Nat.le_refl _
      · exact draws .job
  | scheduleCallback amount currency => exact draws .reference
  | _ => exact Nat.le_refl _

/-- An open transaction changes neither the committed tables nor who has one open. -/
theorem exec_inside {world : World} {who : ProcessId} (delivery : Delivery) {op : Operation}
    (inside : op.Inside) (opened : world.sessions who ≠ none) :
    (exec who delivery op world).2.db = world.db ∧
      (exec who delivery op world).2.sessions who ≠ none := by
  rcases exec_state who delivery op world with same | ran
  · rw [same]
    exact ⟨rfl, opened⟩
  · rw [ran]
    cases op with
    | sql statement =>
        change (world.execute who statement).2.db = world.db ∧
          (world.execute who statement).2.sessions who ≠ none
        rcases execute_cases world who statement with ⟨error, refused⟩ | ⟨outcome, _, _, ran⟩
        · rw [refused]
          exact ⟨rfl, opened⟩
        · obtain ⟨session, current⟩ := Option.ne_none_iff_exists'.mp opened
          rw [ran, apply_open outcome current]
          refine ⟨rfl, ?_⟩
          cases outcome.writes with
          | none => exact opened
          | some version =>
              change Function.update world.sessions who _ who ≠ none
              rw [Function.update_self]
              exact Option.some_ne_none _
    | cacheGet key => exact ⟨rfl, opened⟩
    | cacheSet key value ttlMs => exact ⟨rfl, opened⟩
    | now => exact ⟨rfl, opened⟩
    | _ => exact inside.elim

/-- Nothing has happened to the database, nothing was seen, and no time has passed. -/
structure Still (first second : World) : Prop where
  db : second.db = first.db
  clock : second.clock = first.clock
  supplies : ∀ supply, first.next supply ≤ second.next supply
  silent : first.Silent second
  rest : second.AtRest

theorem AtRest.still {world : World} (rest : world.AtRest) : world.Still world :=
  ⟨rfl, rfl, fun _ => Nat.le_refl _, .refl world, rest⟩

theorem Still.exec {first second : World} (still : first.Still second) (who : ProcessId)
    (delivery : Delivery) {op : Operation} (idle : op.Idle) :
    first.Still (exec who delivery op second).2 := by
  have aside : second.Aside (World.exec who delivery op second).2 := exec_neutral idle.1
  exact ⟨aside.db.trans still.db, (second.exec_clock who delivery op).trans still.clock,
    fun supply => (still.supplies supply).trans (aside.supplies supply),
    still.silent.trans (second.exec_silent who delivery idle.2), still.rest.aside aside⟩

end World

/-- Nothing has happened to the books, nothing was seen, and no time has passed. -/
structure World.Calm (first second : World) : Prop where
  books : first.db.SameBooks second.db
  clock : second.clock = first.clock
  silent : first.Silent second
  rest : second.AtRest

theorem World.Calm.trans {first second third : World} (left : first.Calm second)
    (right : second.Calm third) : first.Calm third :=
  ⟨left.books.trans right.books, right.clock.trans left.clock, left.silent.trans right.silent,
    right.rest⟩

theorem World.Still.calm {first second : World}
    (still : first.Still second) : first.Calm second where
  books := by
    rw [still.db]
    exact .refl _
  clock := still.clock
  silent := still.silent
  rest := still.rest

/-- The answer to a commit is not lost. -/
def Acknowledged (op : Operation) (delivery : Delivery) : Prop :=
  ¬ (op = .commit ∧ delivery = .unacknowledged)

instance (op : Operation) (delivery : Delivery) : Decidable (Acknowledged op delivery) :=
  inferInstanceAs (Decidable (¬ _))

section Solo

variable {fine : Operation → Delivery → Prop} {who : ProcessId} {α : Type} {world : World}

theorem solo_call (op : Operation) {post : Except Failure op.Reply → World → Prop}
    (each : ∀ delivery, fine op delivery →
      post (World.exec who delivery op world).1 (World.exec who delivery op world).2) :
    Solo backend fine who post (call op) world := Solo.perform each

theorem solo_clock (body : Service α) :
    Solo backend fine who (fun _ last => last.clock = world.clock) body world :=
  fun choices _ => run_clock who body choices world

/-- Code that makes idle calls only. -/
theorem solo_still {first : World} (still : first.Still world) {body : Service α}
    (only : body.OnlyCalls Operation.Idle) :
    Solo backend fine who (fun _ last => first.Still last) body world :=
  Solo.keeps (fun last => first.Still last)
    (fun delivery _ _ idle held => held.exec who delivery idle) only still

/-- What idle calls leave does not depend on what came before. -/
theorem solo_kept {body : Service α} (only : body.OnlyCalls Operation.Idle) :
    Solo backend fine who (fun _ last => last.db = world.db ∧ world.Silent last) body world := by
  refine Solo.keeps (fun last : World => last.db = world.db ∧ world.Silent last) ?_ only
    ⟨rfl, .refl world⟩
  intro delivery op later idle held
  have aside : later.Aside (World.exec who delivery op later).2 := World.exec_neutral idle.1
  exact ⟨aside.db.trans held.1, held.2.trans (later.exec_silent who delivery idle.2)⟩

/-- Code that makes silent calls only. -/
theorem solo_silent {first : World} (silent : first.Silent world) {body : Service α}
    (only : body.OnlyCalls Operation.Silent) :
    Solo backend fine who (fun _ last => first.Silent last) body world :=
  Solo.keeps (fun last => first.Silent last)
    (fun delivery _ later quiet held => held.trans (later.exec_silent who delivery quiet)) only
    silent

/-- Code that emits nothing. -/
theorem solo_mute {emitted : List PaymentEvent} (same : world.emitted = emitted) {body : Service α}
    (only : body.OnlyCalls Operation.Mute) :
    Solo backend fine who (fun _ last => last.emitted = emitted) body world :=
  Solo.keeps (fun last : World => last.emitted = emitted)
    (fun delivery _ later mute held => (later.exec_emitted who delivery mute).trans held) only same

/-- A transaction is not seen from outside, and one that fails leaves the database as it
was, since its commit was answered. -/
theorem solo_transaction {isolation : Isolation} {body : Service α}
    (answered : ∀ op delivery, fine op delivery → Acknowledged op delivery)
    (only : body.OnlyCalls Operation.Inside) :
    Solo backend fine who
      (fun outcome last => world.Silent last ∧ ∀ error, outcome = .error error → last.db = world.db)
      (transaction isolation body) world := by
  refine Solo.and (solo_silent (.refl world) ?_) ?_
  · exact onlyCalls_transaction trivial trivial trivial (only.mono fun _ => Operation.Inside.silent)
  have attempted : Solo backend fine who (fun outcome last => ∀ error, outcome = .error error →
      last.db = world.db)
      (do
        call (.begin isolation)
        let value ← body
        call .commit
        return value) world := by
    have begins : Solo backend fine who (fun outcome last => last.db = world.db ∧
        (outcome = .ok () → last.sessions who ≠ none)) (call (.begin isolation)) world := by
      refine solo_call (.begin isolation) fun delivery _ => ?_
      cases delivery with
      | lost => exact ⟨rfl, fun absurd => by cases absurd⟩
      | unacknowledged => exact ⟨rfl, fun absurd => by cases absurd⟩
      | delivered =>
          refine ⟨rfl, fun _ => ?_⟩
          change Function.update world.sessions who _ who ≠ none
          rw [Function.update_self]
          exact Option.some_ne_none _
    refine begins.bind ?_ fun error later begun _ _ => begun.1
    intro _ start begun
    have drafts : Solo backend fine who
        (fun _ last => last.db = world.db ∧ last.sessions who ≠ none)
        body start := by
      refine Solo.keeps (fun last : World => last.db = world.db ∧ last.sessions who ≠ none) ?_ only
        ⟨begun.1, begun.2 rfl⟩
      intro delivery op later inside held
      obtain ⟨same, opened⟩ := World.exec_inside delivery inside held.2
      exact ⟨same.trans held.1, opened⟩
    refine drafts.bind ?_ fun error later drafted _ _ => drafted.1
    intro value later drafted
    have commits : Solo backend fine who (fun outcome last => outcome = .ok () ∨
        last.db = world.db) (call .commit) later := by
      refine solo_call .commit fun delivery allowed => ?_
      cases delivery with
      | delivered => exact .inl rfl
      | lost => exact .inr drafted.1
      | unacknowledged => exact (answered _ _ allowed ⟨rfl, rfl⟩).elim
    refine commits.bind (fun _ last _ => .ret fun error absurd => by cases absurd) ?_
    intro error last committed _ _
    rcases committed with absurd | same
    · cases absurd
    · exact same
  refine attempted.tryCatch (fun value later _ error absurd => by cases absurd) ?_
  intro error later failed
  have ends : Solo backend fine who (fun _ last => last.db = world.db) (call .rollback) later :=
    solo_call .rollback fun delivery _ => failed error rfl
  exact ends.bind (fun _ last same => .fail fun _ _ => same) fun _ last same _ _ => same

/-- What a program is specified with, when it runs alone. -/
theorem solo_serial {start : World} {commit : Database → Database → Prop} {body : Service α}
    (result : Except Failure α → Database → Prop)
    (outside : (serial world).Outside commit who (fun outcome last => result outcome last.db) body
      start)
    (rest : start.AtRest) (clock : start.clock = world.clock) :
    Solo backend fine who
      (fun outcome last => result outcome last.db ∧ last.AtRest) body start := by
  intro choices _
  obtain ⟨finishes, kept, _⟩ := outside.alone
    (fun _ _ same => serial_issues (same.trans clock)) rest choices
  obtain ⟨_, middle, _, _, holds, rely⟩ := finishes
  have same : (backend.run who body choices start).state.db = middle.db := rely.drift
  rw [← same] at holds
  exact ⟨holds, kept⟩

/-- A program without commits of its own leaves the books alone. -/
theorem solo_beside {start : World} {body : Service α}
    (result : Except Failure α → Database → Prop)
    (outside : (serial world).Outside (fun _ _ => False) who
      (fun outcome last => result outcome last.db) body start)
    (only : body.OnlyCalls Operation.Silent) (rest : start.AtRest)
    (clock : start.clock = world.clock) :
    Solo backend fine who (fun outcome last => result outcome last.db ∧ start.Calm last) body
      start := by
  intro choices allowed
  obtain ⟨_, kept, path⟩ := outside.alone
    (fun _ _ same => serial_issues (same.trans clock)) rest choices
  obtain ⟨holds, _⟩ := solo_serial result outside rest clock choices allowed
  have quiet : Solo backend fine who (fun _ last => start.Silent last) body start :=
    solo_silent (.refl start) only
  have silent := quiet choices allowed
  obtain ⟨_, _, tables⟩ := Setting.Grant.path path
  refine ⟨holds, ?_, run_clock who body choices start, silent, kept⟩
  generalize (backend.run who body choices start).state.db = last at tables
  induction tables with
  | refl => exact .refl _
  | tail _ step same =>
      rcases step with beside | absurd
      · exact same.trans beside.books
      · exact absurd.elim

end Solo

/-! ## Steps outside of the database transactions -/

section Idle

theorem idle_findTransaction (id : TransactionId) :
    (PaymentsService.findTransaction id).OnlyCalls Operation.Idle :=
  .bind (onlyCalls_perform ⟨trivial, trivial⟩) fun _ => onlyCalls_orThrow _ _

theorem idle_acquireLock (key : LockKey) (ttlMs : Nat) :
    (acquireLock key ttlMs).OnlyCalls Operation.Idle := onlyCalls_perform ⟨trivial, trivial⟩

theorem idle_releaseLock (key : LockKey) (token : LockToken) :
    (releaseLock key token).OnlyCalls Operation.Idle :=
    .swallow (onlyCalls_perform ⟨trivial, trivial⟩)

theorem idle_invalidatePaymentCaches :
    PaymentsService.invalidatePaymentCaches.OnlyCalls Operation.Idle :=
  .bind (.swallow (onlyCalls_perform ⟨trivial, trivial⟩)) fun _ =>
    .swallow (onlyCalls_perform ⟨trivial, trivial⟩)

/-- The steps after an operation's database transaction. -/
theorem idle_concludes (id : TransactionId) :
    (do
      PaymentsService.invalidatePaymentCaches
      sql (.select (.transaction id))).OnlyCalls Operation.Idle :=
  .bind idle_invalidatePaymentCaches fun _ => onlyCalls_perform ⟨trivial, trivial⟩

end Idle

section Solo

variable {fine : Operation → Delivery → Prop} {who : ProcessId} {α β : Type} {first world : World}

/-- Idle steps before the rest of a program. -/
theorem solo_idle_bind (still : first.Still world) {body : Service α} {next : α → Service β}
    {post : Except Failure β → World → Prop} (only : body.OnlyCalls Operation.Idle)
    (rest : ∀ value later, first.Still later → Solo backend fine who post (next value) later)
    (failed : ∀ error later, first.Still later → post (.error error) later) :
    Solo backend fine who post (body.bind next) world :=
  (solo_still still only).bind rest failed

theorem solo_emit (event : PaymentEvent) {post : Except Failure Unit → World → Prop}
    (holds : post (.ok ()) { world with emitted := world.emitted ++ [event] }) :
    Solo backend fine who post (call (.emit event)) world :=
  solo_call (.emit event) fun _ _ => holds

/-- Failures of the cache are swallowed. -/
theorem solo_invalidatePaymentCaches {start : World} (still : first.Still start) :
    Solo backend fine who (fun outcome last => outcome = .ok () ∧ first.Still last)
      PaymentsService.invalidatePaymentCaches start := by
  have drops : ∀ (op : Operation) {second : World}, op.Idle → first.Still second →
      Solo backend fine who (fun outcome last => outcome = .ok () ∧ first.Still last)
        (swallow (call op)) second :=
    fun op second idle still =>
      (solo_still still (onlyCalls_perform idle)).swallow fun _ _ still => ⟨rfl, still⟩
  exact (drops (.cacheDelete .stats) ⟨trivial, trivial⟩ still).bind
    (fun _ second dropped => drops .cacheDeleteLists ⟨trivial, trivial⟩ dropped.2)
    fun _ _ dropped => by cases dropped.1

end Solo
end Payroute
