import Payroute.Commits.Payments
import Payroute.Runs.Pricing
import Payroute.Runs.Serial

/-! # Converted amounts

In every state that concurrent operations commit, the amount owed to the recipient of a
payment is the source amount at the rate of the two currencies, rounded to the nearest
unit. It is nothing at all where the exact amount is less than half a unit.
-/

namespace Payroute

open EffectSystem KeyedTable

namespace FxService

variable (sourceAmount : Int) (rate : Nat)

theorem unit_eq : (10 : Int) ^ scale = 100_000_000 := rfl

/-- The conversion is off by half a unit at most. -/
theorem convert_close :
    2 * (convert sourceAmount rate * 10 ^ scale - sourceAmount * rate).natAbs ≤ 10 ^ scale := by
  unfold convert
  rw [unit_eq]
  generalize sourceAmount * (rate : Int) = exact
  have unit : 10 ^ scale = 100_000_000 := rfl
  omega

/-- The conversion gives something where the exact amount is half a unit or more. -/
theorem convert_pos_iff :
    0 < convert sourceAmount rate ↔ (10 : Int) ^ scale ≤ 2 * (sourceAmount * rate) := by
  unfold convert
  rw [unit_eq]
  generalize sourceAmount * (rate : Int) = exact
  omega

end FxService

/-- The recipient is owed something, the source amount at the rate up to half a unit, and
the column holds it. -/
structure Transaction.PaysOut (row : Transaction) (rate : Nat) : Prop where
  positive : 0 < row.destinationAmount
  close : 2 * (row.destinationAmount * 10 ^ scale - row.sourceAmount * rate).natAbs ≤ 10 ^ scale
  fits : Fits row.destinationAmount

theorem Transaction.Converted.paysOut_iff {row : Transaction} (converted : row.Converted) :
    row.PaysOut row.fxRate ↔ (10 : Int) ^ scale ≤ 2 * (row.sourceAmount * row.fxRate) := by
  have amount := converted.amount
  constructor
  · intro pays
    have positive := pays.positive
    rw [amount] at positive
    exact (FxService.convert_pos_iff _ _).mp positive
  · intro enough
    refine ⟨?_, ?_, converted.fits⟩
    · rw [amount]
      exact (FxService.convert_pos_iff _ _).mpr enough
    · rw [amount]
      exact FxService.convert_close _ _

/-- Whatever the operations do at the same time, a committed payment pays out exactly
where its source amount is worth half a unit or more in the destination currency. -/
theorem payment_pays_out_iff (deployment : Deployment) {initial : World} (priced : initial.Priced)
    {pool : Pool ProcessId Failure Operation.Reply World}
    (reached : Pool.Reachable backend (surroundings (Command.Starts deployment fun _ => True))
      initial pool) :
    ∀ row ∈ pool.shared.db.transactions.rows, ∃ rate,
      FxService.rateOf row.sourceCurrency row.destinationCurrency = some rate ∧
        (row.PaysOut rate ↔ (10 : Int) ^ scale ≤ 2 * (row.sourceAmount * rate)) := by
  obtain ⟨_, obeys⟩ := (governs_pricing deployment fun _ => True).reachable priced reached
  intro row member
  have converted := obeys.fits.db row member
  exact ⟨row.fxRate, converted.rate, converted.paysOut_iff⟩

/-- A sender with naira and a recipient with dollars. -/
def nairaWorld : World :=
  { sampleWorld with
    db := { sampleWorld.db with
      accounts := (Table.empty.put
        { id := 0, currency := "NGN", balance := 1000, version := 0 }).put
        { id := 1, currency := "USD", balance := 0, version := 0 } } }

/-- A payment of 0.000001 naira, the smallest power of ten that is written without an
exponent and so passes the check of the decimals. -/
def smallPayment : CreatePaymentDto where
  senderAccountId := 0
  recipientAccountId := 1
  sourceCurrency := "NGN"
  destinationCurrency := "USD"
  amount := 100
  isPositive := Nat.succ_pos 99
  notSelfPayment := Nat.zero_ne_one

theorem nairaWorld_priced : nairaWorld.Priced where
  rates := fun _ _ _ absurd => by cases absurd
  db := fun _ member => (List.not_mem_nil member).elim
  sessions := fun _ _ absurd => by cases absurd

theorem payment_pays_out_sample :
    let last := takeTurns backend sampleDeployment
      [{ who := 0, starts := some (.createPayment smallPayment "key") }] (Pool.quiet nairaWorld)
    ∀ row ∈ last.shared.db.transactions.rows, ∃ rate,
      FxService.rateOf row.sourceCurrency row.destinationCurrency = some rate ∧
        (row.PaysOut rate ↔ (10 : Int) ^ scale ≤ 2 * (row.sourceAmount * rate)) :=
  payment_pays_out_iff sampleDeployment nairaWorld_priced
    (takeTurns_commands (by decide +kernel) fun _ _ _ _ => trivial)

/-- The small payment debits the sender and owes the recipient nothing. -/
theorem small_payment_owes_nothing :
    let last := runAll sampleDeployment [(.createPayment smallPayment "key", [])] nairaWorld
    last.db.ledgerEntries.map LedgerEntry.terms = [debitTerms 0 0 "NGN" 100] ∧
      ∃ row ∈ last.db.transactions.rows, row.status = .processing ∧
        row.destinationAmount = 0 ∧ ¬ row.PaysOut 64500 := by
  have debited : (runAll sampleDeployment [(.createPayment smallPayment "key", [])]
      nairaWorld).db.ledgerEntries.map LedgerEntry.terms = [debitTerms 0 0 "NGN" 100] := by
    decide +kernel
  have owed : ∃ row ∈ (runAll sampleDeployment [(.createPayment smallPayment "key", [])]
      nairaWorld).db.transactions.rows, row.status = .processing ∧ row.destinationAmount = 0 := by
    decide +kernel
  refine ⟨debited, ?_⟩
  obtain ⟨row, member, processing, nothing⟩ := owed
  refine ⟨row, member, processing, nothing, fun pays => ?_⟩
  have positive := pays.positive
  omega

end Payroute
