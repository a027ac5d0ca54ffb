import Payroute.Services.Idempotency
import Payroute.Services.Payments

/-! # The payment form

The client's half of the idempotency protocol: which key a submission carries, and what
its answer does to the key.
-/

namespace Payroute

namespace PaymentForm

/-- The state of one mounted form that a submission reads and writes. -/
structure State where
  idempotencyKeyRef : String
  successTxnId : Option TransactionId
  deriving DecidableEq, Repr

/-- What becomes of a request between the client and the server. -/
inductive Passage where
  | answered | requestLost | responseLost
  deriving DecidableEq, Repr

/-- `paymentsApi.create`: the promise resolves with the body of a successful response,
and rejects for an error response, for a lost connection and after the timeout. -/
def createPromise (passage : Passage) (outcome : Except Failure Response) : Option Transaction :=
  match passage, outcome with
  | .answered, .ok response => some response.body
  | _, _ => none

/-- `handleSubmit` once the promise is settled. `generated` is the key
`generateIdempotencyKey` returns. -/
def handleSubmit (state : State) (txn : Option Transaction) (generated : String) : State :=
  match txn with
  | some txn => { state with successTxnId := some txn.id }
  | none => { state with idempotencyKeyRef := generated }

end PaymentForm
end Payroute
