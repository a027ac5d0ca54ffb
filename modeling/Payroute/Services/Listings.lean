import Payroute.Services.Payments

/-! # Listings and statistics

Both are answered from the cache where it has an answer. Only listings without dates
are cached.
-/

namespace Payroute

open EffectSystem Program

/-- A day in milliseconds. -/
def msPerDay : Int := 86_400_000

/-- `new Date(text)`; a date without a time is midnight in UTC. -/
def DateString.time : DateString → Int
  | .date day => day * msPerDay
  | .dateTime ms => ms

/-- `setHours(23, 59, 59, 999)`, which counts the hours in the server's local time. -/
def endOfDay (utcOffset time : Int) : Int :=
  (time + utcOffset) / msPerDay * msPerDay + (msPerDay - 1) - utcOffset

namespace PaymentsService

def listCacheTtlMs : Nat := 10_000
def statsCacheTtlMs : Nat := 30_000

/-- `dto.page || 1`. -/
def pageOf (dto : ListPaymentsDto) : Nat := if dto.page = 0 then 1 else dto.page

/-- `dto.limit || 20`. -/
def limitOf (dto : ListPaymentsDto) : Nat := if dto.limit = 0 then 20 else dto.limit

def listCacheKey (dto : ListPaymentsDto) : CacheKey := .list (pageOf dto) (limitOf dto) dto.status

/-- The conditions `findAll` adds to its query. -/
def listFilter (deployment : Deployment) (dto : ListPaymentsDto) : PaymentFilter where
  status := dto.status
  startDate := dto.startDate.map DateString.time
  endDate := dto.endDate.map fun text => endOfDay deployment.utcOffset text.time

/-- `!dto.startDate && !dto.endDate`. -/
def Dateless (dto : ListPaymentsDto) : Prop := dto.startDate = none ∧ dto.endDate = none

instance (dto : ListPaymentsDto) : Decidable (Dateless dto) := inferInstanceAs (Decidable (_ ∧ _))

/-- The answer for the rows of a page and the number of all selected rows. -/
def pageResult (dto : ListPaymentsDto) (data : List ListedPayment) (total : Nat) :
    PaymentsPage where
  data := data
  pagination :=
    { total := total
      page := pageOf dto
      limit := limitOf dto
      totalPages := (total + limitOf dto - 1) / limitOf dto }

/-- `findAll` where the cache has no answer. -/
def queryPage (deployment : Deployment) (dto : ListPaymentsDto) : Service PaymentsPage := do
  let skip := (pageOf dto - 1) * limitOf dto
  let (data, total) ← sql (.select (.payments (listFilter deployment dto) skip (limitOf dto)))
  let result := pageResult dto data total
  if Dateless dto then swallow (call (.cacheSet (listCacheKey dto) (.page result) listCacheTtlMs))
  return result

def findAll (deployment : Deployment) (dto : ListPaymentsDto) : Service PaymentsPage :=
  if Dateless dto then do
    let cached ← call (.cacheGet (listCacheKey dto))
    match cached with
    | some (.page result) => return result
    | _ => queryPage deployment dto
  else queryPage deployment dto

/-- `parseFloat(row.totalVolume).toFixed(2)`; both are taken exact, with halves rounded up. -/
def volumeText (volume : Int) : Text := FixedPoint.columnText 2 ((volume + 500_000) / 1_000_000)

/-- `STUCK_THRESHOLD_MS`, in microseconds. -/
def statsStuckThreshold : Nat := 30 * 60 * 1_000_000

/-- The answer of `getStats` for the rows of its queries. -/
def statsResult (statusRows : List (TransactionStatus × Nat × Int)) (stuckCount : Nat) :
    StatsResult where
  counts := statusRows.map fun row => (row.1, row.2.1)
  totalVolumeByStatus := statusRows.map fun row => (row.1, volumeText row.2.2)
  stuckCount := stuckCount
  stuckThresholdMinutes := 30

/-- `getStats` where the cache has no answer. -/
def queryStats : Service StatsResult := do
  let now ← newDate
  let statusRows ← sql (.select .statusTotals)
  let stuckCount ← sql (.select (.stuckCount (now - statsStuckThreshold)))
  let result := statsResult statusRows stuckCount
  swallow (call (.cacheSet .stats (.stats result) statsCacheTtlMs))
  return result

def getStats : Service StatsResult := do
  let cached ← call (.cacheGet .stats)
  match cached with
  | some (.stats result) => return result
  | _ => queryStats

end PaymentsService

/-! ## One payment -/

/-- What `ORDER BY` a column makes of the selected rows. It leaves open how rows with
equal values follow each other. -/
structure OrderBy {α : Type} (column : α → Nat) where
  order : List α → List α
  perm : ∀ rows, (order rows).Perm rows
  sorted : ∀ rows, (order rows).Pairwise fun earlier later => column earlier ≤ column later

structure PaymentDetails where
  transaction : ListedPayment
  ledgerEntries : List LedgerEntry
  stateHistory : List TransactionStateHistory
  deriving DecidableEq

/-- The three queries run outside of a transaction, each on the tables it finds. -/
def PaymentsService.findById (byCreatedAt : OrderBy LedgerEntry.createdAt)
    (byTimestamp : OrderBy TransactionStateHistory.timestamp)
    (first second third : Database) (id : TransactionId) : Except Failure PaymentDetails := do
  match first.transactions.get? id with
  | none => throw (.notFound s!"Transaction {id} not found")
  | some row => return {
      transaction := first.withAccounts row
      ledgerEntries := byCreatedAt.order (second.entriesOf id)
      stateHistory := byTimestamp.order (third.historyOf id) }

end Payroute
