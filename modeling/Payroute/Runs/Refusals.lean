import Payroute.Effects.Lives
import Payroute.Effects.Protocol
import Payroute.Runs.Processes
import Payroute.Runs.References
import Payroute.Runs.Solo
import Payroute.Services.Errors

/-! # Refusals come before commits

The handlers throw their own exceptions only as long as they have not committed. What
fails afterwards fails because a call did, and no call raises an exception of the
services.
-/

namespace Payroute

open EffectSystem KeyedTable Program

/-! ## Errors of calls -/

/-- The tables refuse a statement with an error of their own. -/
theorem Statement.not_refuses_of_eval {view : Database} {session : Session} {statement : Statement}
    {error : Failure} (failed : statement.eval view session = .error error) : ¬ error.Refuses := by
  cases statement with
  | updateBalance direction amount id =>
      simp only [Statement.eval, Database.updateBalance] at failed
      split at failed
      · cases failed
        decide
      · cases failed
      · split at failed
        · cases failed
        · split at failed
          · cases failed
            decide
          · split at failed
            · cases failed
              decide
            · cases failed
  | insertEntry draft =>
      simp only [Statement.eval, Database.insertEntry] at failed
      split at failed
      · cases failed
        decide
      · split at failed
        · cases failed
          decide
        · cases failed
      · cases failed
        decide
  | insertTransaction draft =>
      simp only [Statement.eval, Database.insertTransaction] at failed
      split at failed
      · cases failed
        decide
      · split at failed
        · cases failed
          decide
        · cases failed
      · cases failed
        decide
  | insertQuote draft =>
      simp only [Statement.eval, Payroute.insertQuote] at failed
      split at failed
      · cases failed
        decide
      · split at failed
        · cases failed
          decide
        · split at failed
          · cases failed
            decide
          · cases failed
  | insertHistory id fromState toState =>
      simp only [Statement.eval, Database.insertHistory] at failed
      split at failed
      · cases failed
        decide
      · cases failed
  | _ => cases failed

namespace World

variable {who : ProcessId} {world : World} {op : Operation}

/-- No error of the database is answered with a status below 500. -/
theorem not_refuses_of_execute {statement : Statement} {error : Failure}
    (failed : (world.execute who statement).1 = .error error) : ¬ error.Refuses := by
  unfold execute at failed
  cases evaluated : statement.eval (world.view who) (world.session who) with
  | error raised =>
      rw [evaluated] at failed
      cases failed
      exact Statement.not_refuses_of_eval evaluated
  | ok outcome =>
      simp only [evaluated] at failed
      cases locked : outcome.locks with
      | none =>
          simp only [locked] at failed
          cases failed
      | some row =>
          simp only [locked] at failed
          split at failed
          · cases failed
            decide
          · split at failed
            · cases failed
              decide
            · cases failed

/-- No call raises an exception of the services. -/
theorem not_refuses_of_exec {delivery : Delivery} {error : Failure}
    (failed : (exec who delivery op world).1 = .error error) : ¬ error.Refuses := by
  rcases exec_cases who delivery op world with ran | ⟨unanswered, _⟩
  · rw [ran] at failed
    cases op with
    | sql statement => exact not_refuses_of_execute failed
    | _ => cases failed
  · rw [unanswered] at failed
    cases failed
    decide

/-- Calls that leave the books alone do so also inside of a transaction. -/
theorem exec_aloof (aloof : op.Aloof) (delivery : Delivery) :
    world.db.SameBooks (exec who delivery op world).2.db := by
  have sides : ∀ statement : Statement, statement.IsSide →
      world.db.SameBooks (world.execute who statement).2.db := by
    intro statement side
    rcases execute_cases world who statement with ⟨error, refused⟩ | ⟨outcome, done, _, ran⟩
    · rw [refused]
      exact .refl _
    · rw [ran]
      cases opened : world.sessions who with
      | some session =>
          rw [apply_open outcome opened]
          exact .refl _
      | none =>
          rw [apply_closed_db opened]
          cases written : outcome.writes with
          | none => exact .refl _
          | some version =>
              exact Database.sameBooks_write
                ((Statement.written_of_eval done written).side side).1 _
  rcases exec_state who delivery op world with same | ran
  · rw [same]
    exact .refl _
  · rw [ran]
    by_cases neutral : op.Neutral
    · rw [(perform_neutral neutral).db]
      exact .refl _
    · cases op with
      | sql statement =>
          cases statement with
          | select query => exact (neutral trivial).elim
          | _ => exact sides _ aloof
      | scheduleCallback _ _ => exact aloof.elim
      | _ => exact (neutral aloof).elim

end World

/-! ## The course of a handler -/

/-- The call leaves the books alone, and nothing is seen of it from outside. -/
structure Operation.Unnoticed (op : Operation) : Prop where
  aloof : op.Aloof
  silent : op.Silent

/-- How far a handler is: outside of a database transaction, inside one, or past a
commit it asked for. -/
inductive Footing where
  | outside | inside | settled
  deriving DecidableEq

/-- Where a call takes a handler. -/
inductive Footing.Moves : Footing → (op : Operation) → Except Failure op.Reply → Footing → Prop
  | unnoticed {op : Operation} {reply : Except Failure op.Reply} (unnoticed : op.Unnoticed) :
      Moves .outside op reply .outside
  | begins (isolation : Isolation) : Moves .outside (.begin isolation) (.ok ()) .inside
  | refused (isolation : Isolation) (error : Failure) :
      Moves .outside (.begin isolation) (.error error) .outside
  | stays {op : Operation} {reply : Except Failure op.Reply} (inside : op.Inside) :
      Moves .inside op reply .inside
  | commits (reply : Except Failure Unit) : Moves .inside .commit reply .settled
  | rollsBack (reply : Except Failure Unit) : Moves .inside .rollback reply .outside
  | idles (reply : Except Failure Unit) : Moves .outside .rollback reply .outside
  | settled (op : Operation) (reply : Except Failure op.Reply) : Moves .settled op reply .settled

/-- The same with what is known of the errors of calls. -/
def staged : Protocol Failure Operation.Reply Footing := fun footing op reply later =>
  footing.Moves op reply later ∧ ∀ error, reply = .error error → ¬ error.Refuses

/-- A call that may fail is allowed. -/
theorem staged_allows {footing later : Footing} {op : Operation}
    (moves : footing.Moves op (.error .unavailable) later) : staged.Allows footing op :=
  ⟨_, later, moves, fun error same => by cases same; decide⟩

section Calls

variable {footing : Footing} {op : Operation} {world : World} {who : ProcessId}
  {delivery : Delivery}

/-- A call of the machine is a move. As long as it does not settle anything it changes
neither the books nor what is seen from outside. -/
structure Footing.Reaches (footing : Footing) (who : ProcessId) (delivery : Delivery)
    (op : Operation) (world : World) (later : Footing) : Prop where
  moved : staged footing op (World.exec who delivery op world).1 later
  opened : later = .inside → (World.exec who delivery op world).2.sessions who ≠ none
  untouched : later ≠ .settled → world.db.SameBooks (World.exec who delivery op world).2.db ∧
    world.Silent (World.exec who delivery op world).2

/-- The call that begins a transaction opens it, or it fails. -/
theorem Footing.reaches_begin (isolation : Isolation) :
    ∃ later, Reaches .outside who delivery (.begin isolation) world later := by
  have silent : world.Silent (World.exec who delivery (.begin isolation) world).2 :=
    world.exec_silent who delivery trivial
  cases delivery with
  | delivered =>
      refine ⟨.inside, ⟨.begins isolation, nofun⟩, fun _ => ?_, fun _ => ⟨.refl _, silent⟩⟩
      change Function.update world.sessions who _ who ≠ none
      rw [Function.update_self]
      exact Option.some_ne_none _
  | lost | unacknowledged =>
      exact ⟨.outside, ⟨.refused isolation _, fun error failed => by cases failed; decide⟩,
        nofun, fun _ => ⟨.refl _, silent⟩⟩

/-- Every call the protocol allows leads to a footing that fits. -/
theorem Footing.reaches_exec (allowed : staged.Allows footing op)
    (opened : footing = .inside → world.sessions who ≠ none) :
    ∃ later, footing.Reaches who delivery op world later := by
  have raises : ∀ error, (World.exec who delivery op world).1 = .error error → ¬ error.Refuses :=
    fun error failed => World.not_refuses_of_exec failed
  obtain ⟨reply, later, moves, _⟩ := allowed
  cases moves with
  | unnoticed unnoticed =>
      exact ⟨.outside, ⟨.unnoticed unnoticed, raises⟩, nofun, fun _ =>
        ⟨World.exec_aloof unnoticed.aloof _, world.exec_silent who _ unnoticed.silent⟩⟩
  | begins isolation | refused isolation _ => exact reaches_begin isolation
  | stays inside =>
      obtain ⟨same, still⟩ := World.exec_inside delivery inside (opened rfl)
      refine ⟨.inside, ⟨.stays inside, raises⟩, fun _ => still, fun _ =>
        ⟨?_, world.exec_silent who _ inside.silent⟩⟩
      rw [same]
      exact .refl _
  | commits _ => exact ⟨.settled, ⟨.commits _, raises⟩, nofun, fun absurd => (absurd rfl).elim⟩
  | rollsBack _ =>
      exact ⟨.outside, ⟨.rollsBack _, raises⟩, nofun, fun _ =>
        ⟨.refl _, world.exec_silent who _ trivial⟩⟩
  | idles _ =>
      exact ⟨.outside, ⟨.idles _, raises⟩, nofun, fun _ =>
        ⟨.refl _, world.exec_silent who _ trivial⟩⟩
  | settled _ _ =>
      exact ⟨.settled, ⟨.settled _ _, raises⟩, nofun, fun absurd => (absurd rfl).elim⟩

end Calls

/-! ## Programs -/

section Programs

variable {α β : Type}

/-- Who refuses is not past a commit. -/
def Discreet (outcome : Except Failure α) (last : Footing) : Prop :=
  ∀ error, outcome = .error error → error.Refuses → last ≠ .settled

/-- A database transaction has ended. -/
def Transacted (outcome : Except Failure α) (last : Footing) : Prop :=
  match outcome with
  | .ok _ => last = .settled
  | .error error => last = .outside ∨ last = .settled ∧ ¬ error.Refuses

/-- Past the commit only calls fail. -/
def Unrefusing (outcome : Except Failure α) (last : Footing) : Prop :=
  last = .settled ∧ ∀ error, outcome = .error error → ¬ error.Refuses

/-- A handler whose transaction is over is discreet. -/
theorem Transacted.discreet {outcome : Except Failure α} {last : Footing}
    (transacted : Transacted outcome last) : Discreet outcome last := by
  intro error same refuses
  cases same
  rcases transacted with outside | ⟨_, mild⟩
  · rw [outside]
    nofun
  · exact (mild refuses).elim

namespace Staged

/-- Code outside of a database transaction. -/
theorem unnoticed {body : Service α} (only : body.OnlyCalls Operation.Unnoticed) :
    Follows staged (fun _ last => last = .outside) body .outside := by
  refine .of_onlyCalls only (fun op unnoticed => staged_allows (.unnoticed unnoticed)) ?_
  intro op reply later unnoticed moved
  cases moved.1 with
  | unnoticed _ => rfl
  | begins _ | refused _ _ => exact unnoticed.aloof.elim
  | idles _ => rfl

/-- Code inside of one. -/
theorem inside {body : Service α} (only : body.OnlyCalls Operation.Inside) :
    Follows staged (fun _ last => last = .inside) body .inside := by
  refine .of_onlyCalls only (fun op inside => staged_allows (.stays inside)) ?_
  intro op reply later inside moved
  cases moved.1 with
  | stays _ => rfl
  | commits _ | rollsBack _ => exact inside.elim

/-- Past a commit, a call does not refuse. -/
theorem settled_call (op : Operation) : Follows staged Unrefusing (call op) .settled := by
  refine .perform (staged_allows (.settled op _)) fun reply later moved => ?_
  obtain ⟨moves, mild⟩ := moved
  cases moves with
  | settled _ _ => exact ⟨rfl, mild⟩

/-- Past the commit nothing is asked of the code. -/
theorem settled_any (body : Service α) : Follows staged (fun _ _ => True) body .settled := by
  induction body with
  | ret value => trivial
  | fail error => trivial
  | call op next ih =>
      refine ⟨staged_allows (.settled op _), fun reply later moved => ?_⟩
      cases moved.1 with
      | settled _ _ => exact ih reply

/-- Nor does a value. -/
theorem settled_ret (value : α) :
    Follows staged Unrefusing (.ret value : Service α) .settled := ⟨rfl, nofun⟩

/-- Nor does one such program after another. -/
theorem settled_bind {body : Service α} {next : α → Service β}
    (first : Follows staged Unrefusing body .settled)
    (rest : ∀ value, Follows staged Unrefusing (next value) .settled) :
    Follows staged Unrefusing (body.bind next) .settled := by
  refine first.bind ?_ ?_
  · intro value later reached
    rw [reached.1]
    exact rest value
  · exact fun error later reached =>
      ⟨reached.1, fun other same => reached.2 other (by cases same; rfl)⟩

/-- Nor does one whose failure is ignored. -/
theorem settled_swallow {body : Service α} (first : Follows staged Unrefusing body .settled) :
    Follows staged Unrefusing (Program.swallow body) .settled :=
  first.swallow fun _ _ reached => ⟨reached.1, nofun⟩

/-- A rollback leads outside, unless there was a commit. -/
theorem rollback {footing : Footing} (unsettled : footing ≠ .settled) :
    Follows staged (fun _ last => last = .outside) (call .rollback) footing := by
  cases footing with
  | outside =>
      refine .perform (staged_allows (.idles _)) fun reply later moved => ?_
      cases moved.1 with
      | unnoticed absurd => exact absurd.aloof.elim
      | idles _ => rfl
  | inside =>
      refine .perform (staged_allows (.rollsBack _)) fun reply later moved => ?_
      cases moved.1 with
      | stays absurd => exact absurd.elim
      | rollsBack _ => rfl
  | settled => exact (unsettled rfl).elim

/-- A failure is raised again after the rollback. -/
theorem raises (error : Failure) {footing : Footing} (mild : footing = .settled → ¬ error.Refuses) :
    Follows staged Transacted (do
      call .rollback
      .fail error : Service α) footing := by
  by_cases settled : footing = .settled
  · subst settled
    refine (settled_call .rollback).bind (fun _ later reached => ?_) fun raised later reached => ?_
    · exact .inr ⟨reached.1, mild rfl⟩
    · exact .inr ⟨reached.1, reached.2 raised rfl⟩
  · exact (rollback settled).bind (fun _ later reached => .inl reached)
      fun raised later reached => .inl reached

/-- A database transaction either is rolled back, or it is committed or fails in the
attempt. -/
theorem transaction {isolation : Isolation} {body : Service α}
    (only : body.OnlyCalls Operation.Inside) :
    Follows staged Transacted (Payroute.transaction isolation body) .outside := by
  have attempts : Follows staged (fun (outcome : Except Failure α) last =>
      (∀ value, outcome = .ok value → last = .settled) ∧
        ∀ error, outcome = .error error → last = .settled → ¬ error.Refuses)
      (do
        call (.begin isolation)
        let value ← body
        call .commit
        return value) .outside := by
    have begins : Follows staged (fun outcome last => match outcome with
        | .ok _ => last = .inside
        | .error _ => last = .outside) (call (.begin isolation)) .outside := by
      refine .perform (staged_allows (.refused isolation _)) fun reply later moved => ?_
      cases moved.1 with
      | unnoticed absurd => exact absurd.aloof.elim
      | begins _ => rfl
      | refused _ _ => rfl
    refine begins.bind (fun _ second entered => ?_) fun error second failed => ?_
    · subst entered
      refine (inside only).bind (fun value third stayed => ?_) fun error third stayed => ?_
      · subst stayed
        have commits : Follows staged Unrefusing (call .commit) .inside := by
          refine .perform (staged_allows (.commits _)) fun reply later moved => ?_
          obtain ⟨moves, mild⟩ := moved
          cases moves with
          | stays absurd => exact absurd.elim
          | commits _ => exact ⟨rfl, mild⟩
        refine commits.bind (fun _ last reached => ?_) fun error last reached => ?_
        · exact ⟨fun _ _ => reached.1, nofun⟩
        · exact ⟨nofun, fun other same _ => reached.2 other (by cases same; rfl)⟩
      · exact ⟨nofun, fun _ _ settled => by rw [stayed] at settled; cases settled⟩
    · have outside : second = .outside := failed
      exact ⟨nofun, fun _ _ settled => by rw [outside] at settled; cases settled⟩
  refine attempts.tryCatch (fun value later reached => reached.1 value rfl) ?_
  exact fun error later reached => raises error (reached.2 error rfl)

/-- Code outside of a transaction, and then what else the handler does. -/
theorem after_unnoticed {body : Service α} {next : α → Service β}
    {post : Except Failure β → Footing → Prop} (only : body.OnlyCalls Operation.Unnoticed)
    (fails : ∀ error, post (.error error) .outside)
    (rest : ∀ value, Follows staged post (next value) .outside) :
    Follows staged post (body.bind next) .outside := by
  refine (unnoticed only).bind (fun value later reached => ?_) fun error later reached => ?_
  · rw [reached]
    exact rest value
  · rw [reached]
    exact fails error

/-- A transaction, and then code that only makes calls. -/
theorem after_transaction {body : Service α} {next : α → Service β}
    (first : Follows staged Transacted body .outside)
    (rest : ∀ value, Follows staged Unrefusing (next value) .settled) :
    Follows staged Transacted (body.bind next) .outside := by
  refine first.bind (fun value later reached => ?_) fun error later reached => reached
  have settled : later = .settled := reached
  rw [settled]
  refine (rest value).mono fun outcome last unrefusing => ?_
  cases outcome with
  | ok _ => exact unrefusing.1
  | error error => exact .inr ⟨unrefusing.1, unrefusing.2 error rfl⟩

/-- The release of a lock never fails. -/
theorem releaseLock {footing : Footing} (left : footing ≠ .inside) (key : LockKey)
    (token : LockToken) :
    Follows staged (fun ending last => ending = .ok () ∧ last = footing)
      (Payroute.releaseLock key token) footing := by
  have call : Follows staged (fun _ last => last = footing) (call (.releaseLock key token))
      footing := by
    cases footing with
    | outside => exact unnoticed (onlyCalls_perform ⟨trivial, trivial⟩)
    | inside => exact (left rfl).elim
    | settled => exact (settled_call _).mono fun _ _ unrefusing => unrefusing.1
  exact call.swallow fun _ _ same => ⟨rfl, same⟩

/-- A handler that is over is not inside of a transaction. -/
theorem left_of_transacted {outcome : Except Failure α} {last : Footing}
    (transacted : Transacted outcome last) : last ≠ .inside := by
  rintro rfl
  cases outcome with
  | ok value => cases transacted
  | error error => rcases transacted with absurd | ⟨absurd, _⟩ <;> cases absurd

/-- The lock of a transaction is released whatever became of it. -/
theorem released {body : Service α} {key : LockKey} {token : LockToken}
    (first : Follows staged Transacted body .outside) :
    Follows staged Transacted (Program.tryFinally body (Payroute.releaseLock key token))
      .outside := by
  refine first.tryFinally fun outcome later reached => ?_
  refine (releaseLock (left_of_transacted reached) key token).mono fun ending last ended => ?_
  rw [ended.2]
  exact ⟨ended.1, reached⟩

end Staged
end Programs

/-! ## Handlers -/

namespace PaymentsService

open Staged

/-- The check of a transition is not noticed. -/
theorem unnoticed_validateTransition (current : TransactionStatus) (next : String) :
    (validateTransition current next).OnlyCalls Operation.Unnoticed := onlyCalls_require _ _

/-- Nor is reading a payment. -/
theorem unnoticed_findTransaction (id : TransactionId) :
    (findTransaction id).OnlyCalls Operation.Unnoticed :=
  .bind (onlyCalls_perform ⟨trivial, trivial⟩) fun _ => onlyCalls_orThrow _ _

/-- What the handlers do last. -/
theorem unrefusing_invalidatePaymentCaches :
    Follows staged Unrefusing invalidatePaymentCaches .settled :=
  settled_bind (settled_swallow (settled_call _)) fun _ => settled_swallow (settled_call _)

/-- What follows the commit of a request does not refuse it. -/
theorem unrefusing_concludes (id : TransactionId) : Follows staged Unrefusing (do
    invalidatePaymentCaches
    sql (.select (.transaction id))) .settled :=
  settled_bind unrefusing_invalidatePaymentCaches fun _ => settled_call _

/-- The transaction of `createPayment` ends in one way or the other. -/
theorem transacted_commitPayment (deployment : Deployment) (dto : CreatePaymentDto) :
    Follows staged Transacted (commitPayment deployment dto) .outside := by
  refine after_unnoticed (onlyCalls_perform ⟨trivial, trivial⟩) (fun _ => .inl rfl) fun token => ?_
  refine after_unnoticed (onlyCalls_orThrow _ _) (fun _ => .inl rfl) fun token => ?_
  exact released (Staged.transaction ((inner_reserveFunds deployment dto).mono fun _ =>
    Operation.Inner.inside))

/-- So does the handler of a creation. -/
theorem transacted_createPayment (deployment : Deployment) (dto : CreatePaymentDto) (key : String) :
    Follows staged Transacted (createPayment deployment dto key) .outside :=
  after_transaction (transacted_commitPayment deployment dto) fun saved =>
    settled_bind (settled_call _) fun _ =>
      settled_bind unrefusing_invalidatePaymentCaches fun _ => settled_ret saved

/-- So does the handler of a refund. -/
theorem transacted_refundPayment (id : TransactionId) (dto : RefundPaymentDto) :
    Follows staged Transacted (refundPayment id dto) .outside := by
  refine after_unnoticed (unnoticed_findTransaction id) (fun _ => .inl rfl) fun transaction => ?_
  refine after_unnoticed (unnoticed_validateTransition _ _) (fun _ => .inl rfl) fun _ => ?_
  refine after_unnoticed (onlyCalls_perform ⟨trivial, trivial⟩) (fun _ => .inl rfl) fun token => ?_
  refine after_unnoticed (onlyCalls_orThrow _ _) (fun _ => .inl rfl) fun token => ?_
  refine after_transaction (released (Staged.transaction ?_)) fun _ => ?_
  · exact (booking_refundBody id).inner.mono fun _ => Operation.Inner.inside
  · exact settled_bind (settled_call _) fun _ => unrefusing_concludes id

/-- So does the handler of a dispute. -/
theorem transacted_raiseDispute (id : TransactionId) (dto : DisputePaymentDto) :
    Follows staged Transacted (raiseDispute id dto) .outside := by
  refine after_unnoticed (unnoticed_findTransaction id) (fun _ => .inl rfl) fun transaction => ?_
  refine after_unnoticed (unnoticed_validateTransition _ _) (fun _ => .inl rfl) fun _ => ?_
  refine after_transaction (Staged.transaction ?_) fun _ => unrefusing_concludes id
  exact (booking_raiseBody id transaction).inner.mono fun _ => Operation.Inner.inside

/-- So does the handler of a resolution. -/
theorem transacted_resolveDispute (id : TransactionId) (dto : ResolveDisputeDto) :
    Follows staged Transacted (resolveDispute id dto) .outside := by
  have branch : Follows staged Transacted (resolveBranch id dto.action) .outside := by
    cases dto.action with
    | reverse =>
        refine after_unnoticed (onlyCalls_perform ⟨trivial, trivial⟩) (fun _ => .inl rfl)
          fun token => ?_
        refine after_unnoticed (onlyCalls_orThrow _ _) (fun _ => .inl rfl) fun token => ?_
        refine after_transaction (released (Staged.transaction ?_)) fun _ => settled_call _
        exact (booking_reverseBody id).inner.mono fun _ => Operation.Inner.inside
    | reject =>
        exact Staged.transaction ((booking_rejectBody id).inner.mono fun _ =>
          Operation.Inner.inside)
  refine after_unnoticed (unnoticed_findTransaction id) (fun _ => .inl rfl) fun transaction => ?_
  refine after_unnoticed (unnoticed_validateTransition _ _) (fun _ => .inl rfl) fun _ => ?_
  exact after_transaction branch fun _ => unrefusing_concludes id

end PaymentsService

namespace IdempotencyInterceptor

open Staged

/-- An answer, and what is left to do for it. -/
def Answers (outcome : Except Failure (Response × Service Unit)) (last : Footing) : Prop :=
  match outcome with
  | .ok answered => Follows staged (fun _ _ => True) answered.2 last
  | .error error => error.Refuses → last ≠ .settled

/-- Reading a cached response is not noticed. -/
theorem unnoticed_getResponse (key : String) :
    (getResponse key).OnlyCalls Operation.Unnoticed := onlyCalls_getResponse key ⟨trivial, trivial⟩

/-- Nor is waiting for one. -/
theorem unnoticed_poll (key : String) (remaining : Nat) :
    (poll key remaining).OnlyCalls Operation.Unnoticed :=
  onlyCalls_poll key remaining ⟨trivial, trivial⟩ ⟨trivial, trivial⟩

/-- Nor is looking for a recorded one. -/
theorem unnoticed_preCheck (key : String) (token : LockToken) :
    (preCheck key token).OnlyCalls Operation.Unnoticed :=
  onlyCalls_preCheck ⟨trivial, trivial⟩ (fun _ => ⟨trivial, trivial⟩)
    ⟨trivial, trivial⟩ ⟨trivial, trivial⟩ fun _ => ⟨trivial, trivial⟩

/-- A request with a key refuses only where its handler did, or before it ran. -/
theorem answers_intercept (cacheFirst : Bool) (key : String) {handler : Service Transaction}
    (handles : Follows staged Transacted handler .outside) :
    Follows staged Answers (intercept cacheFirst key handler) .outside := by
  have fails : ∀ error : Failure, Answers (.error error) .outside := fun _ _ => nofun
  refine after_unnoticed (unnoticed_getResponse key) fails fun cached => ?_
  cases cached with
  | some response => trivial
  | none =>
      refine after_unnoticed (onlyCalls_perform ⟨trivial, trivial⟩) fails fun token => ?_
      cases token with
      | none => exact after_unnoticed (unnoticed_poll key _) fails fun _ => trivial
      | some token =>
          refine after_unnoticed (unnoticed_preCheck key token) fails fun known => ?_
          cases known with
          | some response => trivial
          | none =>
              have handled : Follows staged Transacted (tryCatch handler fun error => do
                  releaseLock (.idempotency key) token
                  .fail error) .outside := by
                refine handles.tryCatch (fun _ _ transacted => transacted) ?_
                intro error later transacted
                exact (Staged.releaseLock (left_of_transacted transacted) _ _).andThen transacted
              refine handled.bind (fun body later settled => ?_) fun error later transacted =>
                transacted.discreet error rfl
              have past : later = .settled := settled
              rw [past]
              exact settled_any (persist cacheFirst key token _)

end IdempotencyInterceptor

/-! ## Endpoints -/

/-- What the endpoints that change payments run. -/
inductive Endpoint (deployment : Deployment) : Service Unit → Prop
  | createPayment (cacheFirst : Bool) (key : String) (dto : CreatePaymentDto) :
      Endpoint deployment (do
        let _ ← IdempotencyInterceptor.serve cacheFirst key
          (PaymentsService.createPayment deployment dto key))
  | refundPayment (id : TransactionId) (dto : RefundPaymentDto) : Endpoint deployment (do
      let _ ← PaymentsService.refundPayment id dto)
  | raiseDispute (id : TransactionId) (dto : DisputePaymentDto) : Endpoint deployment (do
      let _ ← PaymentsService.raiseDispute id dto)
  | resolveDispute (id : TransactionId) (dto : ResolveDisputeDto) : Endpoint deployment (do
      let _ ← PaymentsService.resolveDispute id dto)

/-- An endpoint that refuses has committed nothing. -/
theorem Endpoint.discreet {deployment : Deployment} {body : Service Unit}
    (endpoint : Endpoint deployment body) : Follows staged Discreet body .outside := by
  have ends {α : Type} {handler : Service α}
      (concludes : Follows staged Transacted handler .outside) :
      Follows staged Discreet (handler.bind fun _ => .ret ()) .outside :=
    concludes.bind (fun _ _ _ _ => nofun) fun error last transacted other same refuses =>
      transacted.discreet error rfl (by cases same; exact refuses)
  cases endpoint with
  | createPayment cacheFirst key dto =>
      have intercepts := IdempotencyInterceptor.answers_intercept cacheFirst key
        (PaymentsService.transacted_createPayment deployment dto key)
      have serves : Follows staged Discreet (IdempotencyInterceptor.serve cacheFirst key
          (PaymentsService.createPayment deployment dto key)) .outside := by
        refine intercepts.bind (fun answered later remains => ?_) fun error later mild => ?_
        · have persists : Follows staged (fun outcome _ => outcome = .ok ()) (swallow answered.2)
              later := Follows.swallow remains fun _ _ _ => rfl
          exact persists.bind (fun _ _ _ _ => nofun) fun _ _ absurd => by cases absurd
        · intro other same refuses
          cases same
          exact mild refuses
      exact serves.bind (fun _ _ _ _ => nofun) fun error last discreet other same refuses =>
        discreet error rfl (by cases same; exact refuses)
  | refundPayment id dto => exact ends (PaymentsService.transacted_refundPayment id dto)
  | raiseDispute id dto => exact ends (PaymentsService.transacted_raiseDispute id dto)
  | resolveDispute id dto => exact ends (PaymentsService.transacted_resolveDispute id dto)

end Payroute
