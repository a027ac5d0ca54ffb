import Payroute.Services.Support

/-! # The idempotency interceptor

The interceptor wraps a request handler. The persistence of a response is not
awaited by the response: `intercept` returns it as the program that still has to
run, as does `tap` with an asynchronous callback.
-/

namespace Payroute

open EffectSystem Program

/-- A response body with its status code. -/
structure Response where
  body : Transaction
  statusCode : Nat
  deriving DecidableEq, Repr

namespace IdempotencyInterceptor

def idempotencyTtlMs : Nat := 24 * 60 * 60 * 1000
def lockTtlMs : Nat := 30_000

/-- The number of times a request that lost the lock looks for the response. -/
def pollAttempts : Nat := 8

/-- The default status of a successful `POST`. -/
def created : Nat := 201

def keyInUse : Failure :=
  .conflict
    "This idempotency key is being processed by a concurrent request. Please retry in a moment."

/-- `redisService.getObject(cacheKey)`. -/
def getResponse (key : String) : Service (Option Response) := do
  let cached ← call (.cacheGet (.idempotency key))
  match cached with
  | some (.response body statusCode) => return some { body, statusCode }
  | _ => return none

/-- `redisService.setObject(cacheKey, ...)`. -/
def setResponse (key : String) (response : Response) : Service Unit :=
  call (.cacheSet (.idempotency key) (.response response.body response.statusCode) idempotencyTtlMs)

/-- `response.status(statusCode || 201)`. -/
def reply (response : Response) : Response :=
  { response with statusCode := if response.statusCode = 0 then created else response.statusCode }

/-- Wait for the response of the request that holds the lock. -/
def poll (key : String) : Nat → Service Response
  | 0 => .fail keyInUse
  | remaining + 1 => do
      call (.sleep 250)
      let polled ← getResponse key
      match polled with
      | some response => return reply response
      | none => poll key remaining

/-- The response recorded in a row of `idempotency_keys`. -/
def recorded (row : IdempotencyKey) : Option Response :=
  row.responseBody.map fun body => { body := body, statusCode := row.statusCode.getD 0 }

/-- Look the key up in the database; a response found is put back into the cache. -/
def lookup (key : String) (token : LockToken) : Service (Option Response) := do
  let row ← sql (.select (.idempotencyKey key))
  match row.bind recorded with
  | some response => do
      swallow (setResponse key response)
      releaseLock (.idempotency key) token
      return some (reply response)
  | none => do
      let now ← newDate
      -- `IDEMPOTENCY_TTL_MS` in microseconds.
      sql (.insertKey key (now + idempotencyTtlMs * 1000))
      return none

/-- `lookup`, whose failure is only logged. -/
def preCheck (key : String) (token : LockToken) : Service (Option Response) :=
  tryCatch (lookup key token) fun _ => return none

/-- Record the response of the handler and release the lock. The two writes are
issued together; `cacheFirst` says which of them lands first. -/
def persist (cacheFirst : Bool) (key : String) (token : LockToken) (response : Response) :
    Service Unit := do
  if cacheFirst = true then do
    swallow (setResponse key response)
    swallow (sql (.updateKey key response.body response.statusCode))
  else do
    swallow (sql (.updateKey key response.body response.statusCode))
    swallow (setResponse key response)
  releaseLock (.idempotency key) token

/-- Run the handler under the lock. Its failure releases the lock before it is raised. -/
def handle (cacheFirst : Bool) (key : String) (token : LockToken) (handler : Service Transaction) :
    Service (Response × Service Unit) := do
  let body ← tryCatch handler fun error => do
    releaseLock (.idempotency key) token
    .fail error
  let response : Response := { body := body, statusCode := created }
  return (response, persist cacheFirst key token response)

/-- Answer a request: its response, and what is left to do once it is sent. -/
def intercept (cacheFirst : Bool) (key : String) (handler : Service Transaction) :
    Service (Response × Service Unit) := do
  let cached ← getResponse key
  match cached with
  | some response => return (reply response, return ())
  | none => do
      let token ← acquireLock (.idempotency key) lockTtlMs
      match token with
      | none => do
          let response ← poll key pollAttempts
          return (response, return ())
      | some token => do
          let known ← preCheck key token
          match known with
          | some response => return (response, return ())
          | none => handle cacheFirst key token handler

/-- A request from its arrival until its response is recorded. The response does not
depend on whether recording it succeeds. -/
def serve (cacheFirst : Bool) (key : String)
    (handler : Service Transaction) : Service Response := do
  let answered ← intercept cacheFirst key handler
  swallow answered.2
  return answered.1

/-- The handler with its execution noted down. -/
def observed (handler : Service Transaction) : Service Transaction := do
  call (.observe .handlerStarted)
  let outcome ← attempt handler
  match outcome with
  | .ok body => do
      call (.observe (.handlerReturned body))
      return body
  | .error error => do
      call (.observe (.handlerThrew error))
      .fail error

/-- A request with what the handler did and how it was answered noted down. The answer
is sent before the response is recorded. -/
def request (cacheFirst : Bool) (key : String) (handler : Service Transaction) : Service Unit := do
  let outcome ← attempt (intercept cacheFirst key (observed handler))
  match outcome with
  | .ok answered => do
      call (.observe (.responded answered.1.body answered.1.statusCode))
      answered.2
  | .error error => call (.observe (.rejected error))

end IdempotencyInterceptor
end Payroute
