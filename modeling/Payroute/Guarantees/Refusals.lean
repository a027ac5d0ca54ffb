import Payroute.Guarantees.Details
import Payroute.Runs.Refusals

/-! # A refused request has changed nothing

Whatever else runs, and whatever becomes of the calls of the handler: a client that is
answered with a status below 500 by an endpoint that failed knows that its request did not
touch the books.
-/

namespace Payroute

open EffectSystem KeyedTable

variable {who : ProcessId}

/-- The handler follows the protocol, and its database transaction is open where it stands
inside of one. -/
def Stands (who : ProcessId) (body : Service Unit) (world : World) : Prop :=
  ∃ footing, Follows staged Discreet body footing ∧
    (footing = .inside → world.sessions who ≠ none)

/-- The handler is past a commit. -/
def PastCommit (body : Service Unit) (_ : World) : Prop := Follows staged Discreet body .settled

theorem stands_accompanies (starts : ProcessId → Service Unit → Prop) :
    Pool.Accompanies backend (surroundings starts) who (Stands who) where
  own := by
    intro op next world delivery stands ready
    obtain ⟨footing, ⟨allowed, rest⟩, opened⟩ := stands
    obtain ⟨later, reached⟩ := Footing.reaches_exec allowed opened
    exact ⟨later, rest _ later reached.moved, reached.opened⟩
  others := by
    intro body world other delivery op differs stands
    obtain ⟨footing, follows, opened⟩ := stands
    refine ⟨footing, follows, fun inside => ?_⟩
    change (World.exec other delivery op world).2.sessions who ≠ none
    rw [World.exec_sessions (Ne.symm differs)]
    exact opened inside
  crash := by
    intro body world other differs stands
    obtain ⟨footing, follows, opened⟩ := stands
    refine ⟨footing, follows, fun inside => ?_⟩
    change Function.update world.sessions other none who ≠ none
    rw [Function.update_of_ne (Ne.symm differs)]
    exact opened inside
  drift := by
    intro body world next stands moved
    obtain ⟨footing, follows, opened⟩ := stands
    refine ⟨footing, follows, fun inside => ?_⟩
    have elapses : world.Elapses next := moved
    rw [elapses.sessions]
    exact opened inside

theorem pastCommit_accompanies (starts : ProcessId → Service Unit → Prop) :
    Pool.Accompanies backend (surroundings starts) who PastCommit where
  own := fun op _ _ _ past _ =>
    past.2 _ _ ⟨.settled op _, fun _ failed => World.not_refuses_of_exec failed⟩
  others := fun _ _ _ _ _ _ past => past
  crash := fun _ _ _ _ past => past
  drift := fun _ _ _ past _ => past

/-- Each call an endpoint has made by the time it refuses its request has left the books
alone, and added no job, callback, event or note. -/
theorem refused_untouched {deployment : Deployment} {starts : ProcessId → Service Unit → Prop}
    {body : Service Unit} (endpoint : Endpoint deployment body)
    {first before after last : Pool ProcessId Failure Operation.Reply World}
    (started : first.running who = some body)
    (earlier : Pool.Life backend (surroundings starts) who first before)
    (called : Pool.Calls backend who before after)
    (later : Pool.Life backend (surroundings starts) who after last) {error : Failure}
    (failed : last.running who = some (.fail error)) {url : String} {now : Nat}
    (refused : (HttpExceptionFilter.catchException error url now).statusCode < 500) :
    before.shared.db.SameBooks after.shared.db ∧ before.shared.Silent after.shared := by
  have start : Stands who body first.shared := ⟨.outside, endpoint.discreet, nofun⟩
  obtain ⟨current, running, stands⟩ := (stands_accompanies starts).life earlier started start
  cases called with
  | call delivery op next remains ready =>
      rw [running] at remains
      cases remains
      obtain ⟨footing, ⟨allowed, rest⟩, opened⟩ := stands
      obtain ⟨current, reached⟩ := Footing.reaches_exec allowed opened
      by_cases past : current = .settled
      -- A handler that is past a commit does not refuse any more.
      · subst past
        have onward : PastCommit (next (backend.exec who delivery op before.shared).1)
            (backend.exec who delivery op before.shared).2 := rest _ _ reached.moved
        obtain ⟨final, ended, past⟩ := (pastCommit_accompanies starts).life later
          (Function.update_self ..) onward
        rw [failed] at ended
        cases ended
        exact (past error rfl ((HttpExceptionFilter.statusCode_lt_iff error url now).mp refused)
          rfl).elim
      · exact reached.untouched past

/-- A payment of twice what its sender has. -/
def unfundedPayment : CreatePaymentDto :=
  { samplePayment with amount := 2000, isPositive := by decide }

/-- What its request runs. -/
def unfundedHandler : Service Unit := do
  let _ ← IdempotencyInterceptor.serve true "key"
    (PaymentsService.createPayment sampleDeployment unfundedPayment "key")

/-- The request, about to start. -/
def unfundedRequest : Pool ProcessId Failure Operation.Reply World :=
  Pool.play backend (Pool.quiet sampleWorld) (.spawn 0 unfundedHandler)

/-- The handler has written the payment and its first history row when the debit finds too
little money, and rolls both back. -/
theorem refused_untouched_sample :
    let before := Pool.playAll backend unfundedRequest
      ((List.replicate 19 .delivered).map (.call 0))
    let after := Pool.play backend before (.call 0 .delivered)
    let last := Pool.playAll backend after ((List.replicate 2 .delivered).map (.call 0))
    before.shared.log 0 ≠ [] ∧ last.running 0 = some (.fail (.badRequest
        "Insufficient balance — the debit could not be applied")) ∧
      before.shared.db.SameBooks after.shared.db ∧ before.shared.Silent after.shared := by
  intro before after last
  have ended : last.running 0 = some (.fail (.badRequest
      "Insufficient balance — the debit could not be applied")) :=
    Pool.running_of_failure (by decide +kernel)
  have endpoint : Endpoint sampleDeployment unfundedHandler := .createPayment true "key" _
  have started : unfundedRequest.running 0 = some unfundedHandler := by
    simp only [unfundedRequest, Pool.play, Function.update_self]
  have earlier : Pool.Life backend (surroundings fun _ => Activity sampleDeployment) 0
      unfundedRequest before :=
    Pool.life_playAll (by rw [started]; exact Option.some_ne_none _) (by decide +kernel)
  have called : Pool.Calls backend 0 before after :=
    .of_play (by decide +kernel) (by decide +kernel)
  have remains : after.running 0 ≠ none :=
    Option.isSome_iff_ne_none.mp (by decide +kernel)
  have later : Pool.Life backend (surroundings fun _ => Activity sampleDeployment) 0
      after last :=
    Pool.life_playAll remains (by decide +kernel)
  have refused : (HttpExceptionFilter.catchException (.badRequest
      "Insufficient balance — the debit could not be applied") "/payments" 0).statusCode < 500 := by
    decide
  exact ⟨by decide +kernel, ended,
    refused_untouched endpoint started earlier called later ended refused⟩

end Payroute
