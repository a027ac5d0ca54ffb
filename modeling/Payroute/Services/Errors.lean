import Payroute.Services.Support

/-! # What a client is told of an error

The filter that turns what a handler throws into a response. Only the exceptions of the
services name a status and a text; of everything else the client is told nothing.
-/

namespace Payroute

/-- `exception instanceof HttpException`, with `exception.getStatus()` and the message of
`exception.getResponse()`. -/
def Failure.httpException : Failure → Option (Nat × String)
  | .badRequest text => some (400, text)
  | .notFound text => some (404, text)
  | .conflict text => some (409, text)
  | _ => none

structure ErrorResponse where
  statusCode : Nat
  message : String
  path : String
  timestamp : Nat
  deriving DecidableEq, Repr

namespace HttpExceptionFilter

/-- `HttpExceptionFilter.catch`. The exceptions of the services carry no details. -/
def catchException (exception : Failure) (url : String) (now : Nat) : ErrorResponse :=
  match exception.httpException with
  | some (status, text) => { statusCode := status, message := text, path := url, timestamp := now }
  | none =>
      { statusCode := 500, message := "Internal server error", path := url, timestamp := now }

end HttpExceptionFilter

/-- The client is told that its request was refused. -/
def Failure.Refuses (error : Failure) : Prop := error.httpException.isSome = true

instance (error : Failure) : Decidable error.Refuses := inferInstanceAs (Decidable (_ = _))

/-- Refusals are the responses with a status below 500. -/
theorem HttpExceptionFilter.statusCode_lt_iff (error : Failure) (url : String) (now : Nat) :
    (catchException error url now).statusCode < 500 ↔ error.Refuses := by
  cases error <;> simp [catchException, Failure.Refuses, Failure.httpException]

end Payroute
