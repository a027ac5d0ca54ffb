import Payroute.Runs.Responses

/-! # A failed creation leaves nothing behind

A creation that fails has committed nothing, and one that returns has opened one
payment with one debit and one job, exactly where the answer to the commit is not lost
and the job gets into the queue. Where all requests with a key meet this, and the record
of a response is neither lost nor removed, they commit one payment at most.
-/

namespace Payroute

open EffectSystem KeyedTable Program PaymentsService IdempotencyInterceptor

/-- How many payments were opened. -/
def World.newPayments (first last : World) : Nat :=
  last.db.transactions.rows.length - first.db.transactions.rows.length

/-- A world with the number of payments the requests of a key have committed so far. When
a payment was committed, the writes of its response to the cache (`cached`) and to the
row of the key (`stored`) got through, and what they wrote has not been removed since. -/
structure Retried where
  world : World
  payments : Nat := 0
  cached : Bool := false
  stored : Bool := false

/-- The state after a request that made the calls. -/
def Retried.after (first : Retried) (key : String) (log : CallLog) (last : World) : Retried :=
  let opened := first.world.newPayments last
  { world := last
    payments := first.payments + opened
    cached := if opened = 0 then first.cached else decide (log.Caches key)
    stored := if opened = 0 then first.stored else decide (log.Stores key first.world.db) }

/-- One request with the key, or anything that happens between two of them. A request
commits or fails before it takes effect. Once a payment was committed, one of the writes
of its response got through and its record is still there; where it is only the row of
the key, the request's lookup of the row is answered. -/
inductive RetryStep (deployment : Deployment) (key : String) : Retried → Retried → Prop
  | request {first : Retried} (who : ProcessId) (cacheFirst : Bool) (dto : CreatePaymentDto)
      (choices : List Delivery)
      (dependable : ∀ entry ∈ backend.calls who
        (serve cacheFirst key (createPayment deployment dto key)) choices first.world,
          Dependable entry.1 entry.2)
      (recorded : first.payments ≠ 0 → first.cached = true ∨ first.stored = true ∧
        ∀ entry ∈ backend.calls who
          (serve cacheFirst key (createPayment deployment dto key)) choices first.world,
            Consults key entry.1 entry.2) :
      RetryStep deployment key first
        (first.after key
          (backend.calls who (serve cacheFirst key (createPayment deployment dto key)) choices
            first.world)
          (backend.run who (serve cacheFirst key (createPayment deployment dto key)) choices
            first.world).state)
  | elsewhere {first : Retried} (next : World) (cached stored : Bool) (rest : next.AtRest)
      (lasts : cached = true →
        first.cached = true ∧ (first.world.Caches key → next.Caches key))
      (kept : stored = true →
        first.stored = true ∧ (first.world.db.Recalls key → next.db.Recalls key)) :
      RetryStep deployment key first ⟨next, first.payments, cached, stored⟩

section Opened

variable {first last : World} {dto : CreatePaymentDto} {saved : Transaction}

theorem Database.SameBooks.newPayments
    (same : first.db.SameBooks last.db) : first.newPayments last = 0 := by
  unfold World.newPayments
  rw [same.transactions, Nat.sub_self]

theorem Database.Reserves.newPayments (reserves : first.db.Reserves dto saved last.db) :
    first.newPayments last = 1 := by
  unfold World.newPayments
  rw [reserves.rows, List.length_append, Nat.add_sub_cancel_left]
  rfl

theorem Served.newPayments {α : Type} {outcome : Except Failure α} {log : CallLog}
    (served : Served dto first outcome last log) : first.newPayments last ≤ 1 := by
  rcases served.2 with same | ⟨saved, reserves, _⟩
  · exact same.newPayments.trans_le (Nat.zero_le 1)
  · exact reserves.newPayments.le

end Opened

/-- What the run of a request leaves. -/
theorem run_serve {world : World} (rest : world.AtRest) (who : ProcessId) (key : String)
    (cacheFirst : Bool) (deployment : Deployment) (dto : CreatePaymentDto)
    (choices : List Delivery) :
    let request := serve cacheFirst key (createPayment deployment dto key)
    Served dto world (backend.run who request choices world).outcome
      (backend.run who request choices world).state (backend.calls who request choices world) := by
  have clean : CallLog.Dependable [] := fun _ member => (List.not_mem_nil member).elim
  have tracked : Tracked who (fun outcome last => Served dto world outcome last.1 last.2)
      (serve cacheFirst key (createPayment deployment dto key)) world [] :=
    tracked_serve rest clean cacheFirst deployment dto
  have served := tracked choices fun _ _ => trivial
  rw [Machine.run_recorded] at served
  exact served

/-- At most one payment was committed, and what is said of its record is so. -/
structure Retried.Sound (key : String) (retried : Retried) : Prop where
  rest : retried.world.AtRest
  once : retried.payments ≤ 1
  cached : retried.cached = true → retried.world.Caches key
  stored : retried.stored = true → retried.world.db.Recalls key

/-- A request of a key whose record is still there commits nothing. -/
theorem Retried.Sound.calm {deployment : Deployment} {key : String} {first : Retried}
    (sound : first.Sound key) (who : ProcessId) (cacheFirst : Bool) (dto : CreatePaymentDto)
    (choices : List Delivery)
    (recorded : first.cached = true ∨ first.stored = true ∧
      ∀ entry ∈ backend.calls who
        (serve cacheFirst key (createPayment deployment dto key)) choices first.world,
          Consults key entry.1 entry.2) :
    first.world.Calm (backend.run who
      (serve cacheFirst key (createPayment deployment dto key)) choices first.world).state := by
  rcases recorded with cached | ⟨stored, consults⟩
  · have calm : Solo backend (fun _ _ => True) who (fun _ last => first.world.Calm last)
        (serve cacheFirst key (createPayment deployment dto key)) first.world :=
      solo_serve_known sound.rest cacheFirst _ (.inl (sound.cached cached))
    exact calm choices fun _ _ => trivial
  · exact solo_serve_known sound.rest cacheFirst _
      (.inr ⟨sound.stored stored, fun _ _ consults => consults⟩) choices consults

/-- A payment that was committed is recorded as far as its writes got through. -/
theorem CallLog.Answers.opened {log : CallLog} {key : String} {first last : World}
    (answers : log.Answers key first last) (opened : first.newPayments last ≠ 0) :
    (log.Caches key → last.Caches key) ∧ (log.Stores key first.db → last.db.Recalls key) :=
  answers.recorded.resolve_left fun same => opened same.newPayments

/-- What a request leaves, if it commits nothing where a payment was committed before. -/
theorem Retried.Sound.after {key : String} {first : Retried} (sound : first.Sound key)
    {log : CallLog} {last : World} (rest : last.AtRest) (answers : log.Answers key first.world last)
    (once : first.world.newPayments last ≤ 1)
    (spared : first.payments ≠ 0 → first.world.newPayments last = 0) :
    (first.after key log last).Sound key where
  rest := rest
  once := by
    change first.payments + first.world.newPayments last ≤ 1
    by_cases paid : first.payments = 0
    · rw [paid, Nat.zero_add]
      exact once
    · rw [spared paid, Nat.add_zero]
      exact sound.once
  cached := by
    unfold Retried.after
    by_cases opened : first.world.newPayments last = 0
    · simp only [if_pos opened]
      intro cached
      exact World.caches_iff.mpr
        (answers.retains.cached (World.caches_iff.mp (sound.cached cached)))
    · simp only [if_neg opened, decide_eq_true_eq]
      exact (answers.opened opened).1
  stored := by
    unfold Retried.after
    by_cases opened : first.world.newPayments last = 0
    · simp only [if_pos opened]
      intro stored
      exact World.recalls_iff.mpr
        (answers.retains.answered (World.recalls_iff.mp (sound.stored stored)))
    · simp only [if_neg opened, decide_eq_true_eq]
      exact (answers.opened opened).2

/-- A step keeps the count of payments at one and its record where it is said to be. -/
theorem RetryStep.sound {deployment : Deployment} {key : String} {first last : Retried}
    (step : RetryStep deployment key first last) (sound : first.Sound key) : last.Sound key := by
  cases step with
  | elsewhere next cached stored rest lasts kept =>
      exact ⟨rest, sound.once, fun set => (lasts set).2 (sound.cached (lasts set).1),
        fun set => (kept set).2 (sound.stored (kept set).1)⟩
  | request who cacheFirst dto choices dependable recorded =>
      have served : Served dto first.world _ _ _ :=
        run_serve sound.rest who key cacheFirst deployment dto choices
      have answers : CallLog.Answers _ key first.world _ :=
        solo_serve dependable sound.rest cacheFirst choices fun _ member => member
      refine sound.after served.1 answers served.newPayments fun paid => ?_
      exact (sound.calm who cacheFirst dto choices (recorded paid)).books.newPayments

/-- A request of the sample payment. -/
def sampleRequest : Service Response :=
  serve true "key" (createPayment sampleDeployment samplePayment "key")

/-- The commit of a request does not get through. -/
def lostCommit : List Delivery := List.replicate 22 .delivered ++ [.lost]

/-- The state after one more request of the sample payment. -/
def Retried.next (first : Retried) (choices : List Delivery) : Retried :=
  first.after "key" (backend.calls 0 sampleRequest choices first.world)
    (backend.run 0 sampleRequest choices first.world).state

end Payroute
