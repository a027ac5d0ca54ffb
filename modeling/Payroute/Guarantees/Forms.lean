import Payroute.Guarantees.Atomicity
import Payroute.Services.PaymentForm

/-! # One form, one payment

The form takes a new key for every submission that was not answered with success, so
the interceptor never sees the key of a payment again. What holds for every sequence of
submissions of one form is that one payment is committed at most, as long as a
submission that commits a payment is answered.
-/

namespace Payroute

open EffectSystem KeyedTable PaymentsService IdempotencyInterceptor PaymentForm

/-- A world with one form and the number of payments its submissions have committed. -/
structure Submitted where
  world : World
  form : PaymentForm.State
  payments : Nat

section Submission

variable (deployment : Deployment) (dto : CreatePaymentDto)

/-- The request a submission sends. -/
def PaymentForm.State.request (form : PaymentForm.State) (cacheFirst : Bool) : Service Response :=
  serve cacheFirst form.idempotencyKeyRef
    (createPayment deployment dto form.idempotencyKeyRef)

/-- One submission of the form, from the click until its promise is settled. -/
def Submitted.submit (first : Submitted) (who : ProcessId) (cacheFirst : Bool)
    (choices : List Delivery) (passage : Passage) (generated : String) : Submitted :=
  match passage with
  | .requestLost => { first with form := handleSubmit first.form none generated }
  | passage =>
      let served := backend.run who
        (first.form.request deployment dto cacheFirst) choices first.world
      { world := served.state
        form := handleSubmit first.form (createPromise passage served.outcome) generated
        payments := first.payments + first.world.newPayments served.state }

/-- The client learns of the payment, if the submission commits one: no call of the
request fails after it took effect, and a response is lost only where nothing was
committed. -/
def Submitted.Answered (first : Submitted) (who : ProcessId) (cacheFirst : Bool)
    (choices : List Delivery) (passage : Passage) : Prop :=
  passage ≠ .requestLost →
    let calls := backend.calls who
      (first.form.request deployment dto cacheFirst) choices first.world
    (∀ entry ∈ calls, Dependable entry.1 entry.2) ∧
      (passage = .responseLost → (.commit, .delivered) ∉ calls)

instance (first : Submitted) (who : ProcessId) (cacheFirst : Bool) (choices : List Delivery)
    (passage : Passage) :
    Decidable (first.Answered deployment dto who cacheFirst choices passage) :=
  inferInstanceAs (Decidable (_ → _))

/-- A submission of the form while it is shown, or anything that happens between two of
them. -/
inductive FormStep : Submitted → Submitted → Prop
  | submit {first : Submitted} (who : ProcessId) (cacheFirst : Bool) (choices : List Delivery)
      (passage : Passage) (generated : String) (shown : first.form.successTxnId = none)
      (answered : first.Answered deployment dto who cacheFirst choices passage) :
      FormStep first (first.submit deployment dto who cacheFirst choices passage generated)
  | elsewhere {first : Submitted} (next : World) (rest : next.AtRest) :
      FormStep first { first with world := next }

/-- A sequence of submissions. -/
abbrev FormRun : Submitted → Submitted → Prop := Relation.ReflTransGen (FormStep deployment dto)

end Submission

/-- What every state of a run satisfies: while the form is shown, it has paid nothing. -/
structure Submitted.Once (submitted : Submitted) : Prop where
  rest : submitted.world.AtRest
  single : submitted.payments ≤ 1
  unpaid : submitted.form.successTxnId = none → submitted.payments = 0

section Once

variable {deployment : Deployment} {dto : CreatePaymentDto} {first last : Submitted}

/-- A submission that reached the server. -/
theorem Submitted.Once.served (once : first.Once) (shown : first.form.successTxnId = none)
    {who : ProcessId} {cacheFirst : Bool} {choices : List Delivery} {passage : Passage}
    (sent : passage ≠ .requestLost) (generated : String)
    (answered : first.Answered deployment dto who cacheFirst choices passage) :
    (first.submit deployment dto who cacheFirst choices passage generated).Once := by
  have served := run_serve once.rest who first.form.idempotencyKeyRef cacheFirst deployment dto
    choices
  obtain ⟨dependable, told⟩ := answered sent
  have shape : first.submit deployment dto who cacheFirst choices passage generated =
      { world := (backend.run who (first.form.request deployment dto cacheFirst) choices
          first.world).state
        form := handleSubmit first.form (createPromise passage (backend.run who
          (first.form.request deployment dto cacheFirst) choices first.world).outcome) generated
        payments := first.payments + first.world.newPayments (backend.run who
          (first.form.request deployment dto cacheFirst) choices first.world).state } := by
    cases passage with
    | answered => rfl
    | requestLost => exact (sent rfl).elim
    | responseLost => rfl
  rw [shape, once.unpaid shown]
  refine ⟨served.1, ?_, fun hidden => ?_⟩
  · exact (Nat.zero_add _).trans_le served.newPayments
  · change 0 + _ = 0
    rw [Nat.zero_add]
    rcases served.2 with same | ⟨saved, reserves, known⟩
    · exact same.newPayments
    · -- The payment was committed, so the promise resolves and the form is not shown.
      obtain ⟨committed, response, returned⟩ := known dependable
      have arrived : passage = .answered := by
        cases passage with
        | answered => rfl
        | requestLost => exact (sent rfl).elim
        | responseLost => exact (told rfl committed).elim
      change (backend.run who (first.form.request deployment dto cacheFirst) choices
        first.world).outcome = .ok response at returned
      rw [arrived] at hidden
      simp only [returned, createPromise, handleSubmit] at hidden
      cases hidden

theorem FormStep.once (step : FormStep deployment dto first last) (once : first.Once) :
    last.Once := by
  cases step with
  | submit who cacheFirst choices passage generated shown answered =>
      by_cases lost : passage = .requestLost
      · subst lost
        exact ⟨once.rest, once.single, fun _ => once.unpaid shown⟩
      · exact once.served shown lost generated answered
  | elsewhere next rest => exact ⟨rest, once.single, once.unpaid⟩

end Once

/-- However often a form is submitted, and whatever becomes of its requests, one payment
is committed at most, as long as the client learns of a payment that was committed. -/
theorem one_payment (deployment : Deployment) (dto : CreatePaymentDto) {world : World}
    (rest : world.AtRest) (key : String) {last : Submitted}
    (run : FormRun deployment dto ⟨world, ⟨key, none⟩, 0⟩ last) : last.payments ≤ 1 := by
  have once : last.Once := by
    induction run with
    | refl => exact ⟨rest, Nat.zero_le 1, fun _ => rfl⟩
    | tail _ step ih => exact step.once ih
  exact once.single

/-! ## Concrete runs -/

/-- A submission of the sample form. -/
abbrev Submitted.sample (first : Submitted) (choices : List Delivery) (passage : Passage)
    (generated : String) : Submitted :=
  first.submit sampleDeployment samplePayment 0 true choices passage generated

/-- The form before its first submission. -/
def sampleForm : Submitted := ⟨sampleWorld, ⟨"first", none⟩, 0⟩

/-- The first request is lost, the second fails at its commit without an answer, and the
third pays. -/
theorem one_payment_sample :
    (((sampleForm.sample [] .requestLost "second").sample lostCommit .responseLost "third").sample
      [] .answered "fourth").payments ≤ 1 := by
  refine one_payment sampleDeployment samplePayment sampleWorld_atRest "first"
    (((Relation.ReflTransGen.single (.submit 0 true [] .requestLost "second" rfl ?_)).tail
      (.submit 0 true lostCommit .responseLost "third" ?_ ?_)).tail
        (.submit 0 true [] .answered "fourth" ?_ ?_))
  all_goals decide +kernel

/-- The response of the first submission is lost after the payment was committed; the
second submission has a new key and commits another payment. -/
theorem lost_response_pays_twice :
    ((sampleForm.sample [] .responseLost "second").sample [] .answered "third").payments = 2 := by
  decide +kernel

end Payroute
