import Payroute.Model.World

/-! # What the services share

The configuration and the helpers the service code is written in. Code after a
thrown exception does not run, so a guard is a step that returns or throws.
-/

namespace Payroute

open EffectSystem Program

/-- How the service adds amounts: as IEEE doubles, or exactly, which is what results about
exact amounts assume of it. -/
inductive Arithmetic
  | doubles
  | decimals
  deriving DecidableEq

/-- `parseFloat` of the text of an amount. -/
def parseFloat : Int → Float
  | .ofNat units => Float.ofScientific units true 8
  | .negSucc units => -Float.ofScientific (units + 1) true 8

/-- `volume + amount > limit`. -/
def Arithmetic.Exceeds (volume amount limit : Int) : Arithmetic → Prop
  | .doubles => parseFloat limit < parseFloat volume + parseFloat amount
  | .decimals => limit < volume + amount

instance (volume amount limit : Int) (arithmetic : Arithmetic) :
    Decidable (arithmetic.Exceeds volume amount limit) :=
  match arithmetic with
  | .doubles => inferInstanceAs (Decidable (parseFloat limit < _))
  | .decimals => inferInstanceAs (Decidable (limit < _))

/-- The configuration of a deployment. Amounts are in units of `10⁻⁸`. -/
structure Deployment where
  maxAmountPerTransaction : Nat
  maxPaymentsPerAccountPerDay : Nat
  maxDailyVolumePerAccount : Nat
  webhookEventsRetentionDays : Nat
  webhookSecret : String
  /-- The offset of the server's local time from UTC, in milliseconds. -/
  utcOffset : Int := 0
  /-- How amounts are compared with the daily volume. -/
  arithmetic : Arithmetic := .doubles
  /-- `createHmac('sha256', secret).update(body).digest('hex')`. -/
  hmacSha256 : String → List UInt8 → String

/-- One external call. -/
def call (op : Operation) : Service op.Reply := perform op

/-- One SQL statement. -/
def sql (statement : Statement) : Service statement.Reply := call (.sql statement)

/-- `if (!condition) throw failure`. -/
def require (condition : Prop) [Decidable condition] (failure : Failure) : Service Unit :=
  if condition then .ret () else .fail failure

/-- `if (!found) throw failure`. -/
def orThrow {α : Type} (failure : Failure) : Option α → Service α
  | some value => .ret value
  | none => .fail failure

/-- `dataSource.transaction`: a failure of the body or of the commit is raised
again after a rollback. -/
def transaction {α : Type} (isolation : Isolation) (body : Service α) : Service α :=
  tryCatch
    (do
      call (.begin isolation)
      let value ← body
      call .commit
      return value)
    (fun error => do
      call .rollback
      .fail error)

/-- `redisService.acquireLock`. -/
def acquireLock (key : LockKey) (ttlMs : Nat) : Service (Option LockToken) :=
  call (.acquireLock key ttlMs)

/-- `redisService.releaseLock(...).catch(...)`: a failed release is only logged. -/
def releaseLock (key : LockKey) (token : LockToken) : Service Unit :=
  swallow (call (.releaseLock key token))

/-- `new Date()`. -/
def newDate : Service Nat := call .now

end Payroute
