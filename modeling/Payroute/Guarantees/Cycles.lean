import Payroute.Data.Rounding
import Payroute.Guarantees.Conversion
import Payroute.Guarantees.ExactlyOnce
import Payroute.Guarantees.WellFormed
import Mathlib.Data.List.Chain
import Mathlib.Data.Rat.Floor

/-! # Cycles of conversions

Money that is converted along a cycle of supported pairs never comes back as more than
it was, rounding aside, exactly where the listed rates of the cycle multiply to one at
most. The same holds of the accounts that a cycle of completed payments passes through.
The rates of dollars and pounds multiply to more than one.
-/

namespace Payroute

open EffectSystem KeyedTable Rounding

namespace FxService

/-- A listed rate as a number. -/
def ratio (rate : Nat) : ℚ := rate / 10 ^ scale

theorem ratio_nonneg (rate : Nat) : 0 ≤ ratio rate := by
  unfold ratio
  positivity

/-- `toFixed(8)` rounds the exact product to the nearest unit. -/
theorem convert_eq_round (sourceAmount : Int) (rate : Nat) :
    convert sourceAmount rate = round ((sourceAmount : ℚ) * ratio rate) := by
  have exactly : (sourceAmount : ℚ) * ratio rate + 1 / 2 =
      ((sourceAmount * rate + 10 ^ scale / 2 : ℤ) : ℚ) / ((10 ^ scale : ℕ) : ℚ) := by
    have half : ((10 ^ scale / 2 : ℤ) : ℚ) = (10 ^ scale : ℚ) / 2 := by
      norm_num [scale]
    unfold ratio
    push_cast
    rw [half]
    field_simp
  rw [round_eq, exactly, Rat.floor_intCast_div_natCast]
  rfl

/-- A conversion `createQuote` supports. -/
structure Conversion where
  fromCurrency : String
  toCurrency : String
  rate : Nat
  supported : rateOf fromCurrency toCurrency = some rate

def Conversion.currencies (conversion : Conversion) : String × String :=
  (conversion.fromCurrency, conversion.toCurrency)

/-- Conversions that end in the currency the first one starts from. -/
structure Cycle where
  conversions : List Conversion
  linked : conversions.IsChain fun first second => first.toCurrency = second.fromCurrency
  closed : ∀ first ∈ conversions.head?, ∀ last ∈ conversions.getLast?,
    last.toCurrency = first.fromCurrency

namespace Cycle

variable (cycle : Cycle)

/-- Each conversion's `destinationAmount` is the next one's `sourceAmount`. -/
def convertAll (amount : Int) : Int :=
  cycle.conversions.foldl (fun amount conversion => convert amount conversion.rate) amount

def ratios : List ℚ := cycle.conversions.map fun conversion => ratio conversion.rate

theorem ratios_nonneg : ∀ factor ∈ cycle.ratios, 0 ≤ factor := by
  intro factor member
  obtain ⟨conversion, _, rfl⟩ := List.mem_map.mp member
  exact ratio_nonneg conversion.rate

theorem convertAll_eq (amount : Int) :
    cycle.convertAll amount = roundedProduct amount cycle.ratios := by
  unfold convertAll ratios roundedProduct
  rw [List.foldl_map]
  simp only [convert_eq_round]

end Cycle

end FxService

/-! ## Payments -/

/-- Each payment sends what the one before it paid out, from the account that received
it. -/
inductive Passes : AccountId × Int → List Transaction → AccountId × Int → Prop
  | nil (place : AccountId × Int) : Passes place [] place
  | cons {row : Transaction} {later : List Transaction} {last : AccountId × Int}
      (passes : Passes (row.recipientAccountId, row.destinationAmount) later last) :
      Passes (row.senderAccountId, row.sourceAmount) (row :: later) last

def Transaction.currencies (row : Transaction) : String × String :=
  (row.sourceCurrency, row.destinationCurrency)

/-- What the entries of the payments move on the account. -/
def Database.movedBy (db : Database) (rows : List Transaction) (id : AccountId) : Int :=
  (rows.map fun row => netOf ((db.entriesOf row.id).map LedgerEntry.posting) id).sum

/-- Completed payments that pass an amount on until it is back in the account it left. -/
structure Database.Circulates (db : Database) (rows : List Transaction) (home : AccountId) :
    Prop where
  stored : ∀ row ∈ rows, db.transactions.get? row.id = some row
  booked : ∀ row ∈ rows,
    Booked row .completed ((db.entriesOf row.id).map LedgerEntry.posting)
  passes : ∃ sent received, Passes (home, sent) rows (home, received)

theorem passes_nil_iff {first last : AccountId × Int} : Passes first [] last ↔ first = last := by
  constructor
  · intro passes
    cases passes
    rfl
  · intro same
    rw [same]
    exact .nil last

theorem passes_cons_iff {row : Transaction} {later : List Transaction}
    {first last : AccountId × Int} :
    Passes first (row :: later) last ↔ first = (row.senderAccountId, row.sourceAmount) ∧
      Passes (row.recipientAccountId, row.destinationAmount) later last := by
  constructor
  · intro passes
    cases passes with
    | cons passes => exact ⟨rfl, passes⟩
  · rintro ⟨same, passes⟩
    rw [same]
    exact .cons passes

instance Passes.decidable : (first : AccountId × Int) → (rows : List Transaction) →
    (last : AccountId × Int) → Decidable (Passes first rows last)
  | _, [], _ => decidable_of_iff _ passes_nil_iff.symm
  | _, row :: later, last =>
      have := Passes.decidable (row.recipientAccountId, row.destinationAmount) later last
      decidable_of_iff _ passes_cons_iff.symm

/-- Completed payments move what they pass on from the first account to the last. -/
theorem Passes.moved {db : Database} {rows : List Transaction} {first last : AccountId × Int}
    (passes : Passes first rows last)
    (booked : ∀ row ∈ rows,
      Booked row .completed ((db.entriesOf row.id).map LedgerEntry.posting)) (id : AccountId) :
    db.movedBy rows id =
      (if last.1 = id then last.2 else 0) - (if first.1 = id then first.2 else 0) := by
  induction passes with
  | nil place => exact (sub_self _).symm
  | cons passes ih =>
      rename_i row later last
      have rest := ih fun other member => booked other (List.mem_cons_of_mem row member)
      have own : netOf ((db.entriesOf row.id).map LedgerEntry.posting) id =
          (if row.recipientAccountId = id then row.destinationAmount else 0) -
            (if row.senderAccountId = id then row.sourceAmount else 0) := by
        have entries := booked row List.mem_cons_self
        generalize (db.entriesOf row.id).map LedgerEntry.posting = postings at entries
        cases entries with
        | completed =>
            simp only [netOf_cons, netOf_nil, Transaction.reserve, Transaction.settle]
            split <;> split <;> omega
      unfold Database.movedBy at rest ⊢
      rw [List.map_cons, List.sum_cons, rest, own]
      ring

/-- What circulates in a cycle of payments changes its first account only. -/
theorem Database.Circulates.moved {db : Database} {rows : List Transaction} {home : AccountId}
    (circulates : db.Circulates rows home) :
    (∀ id, id ≠ home → db.movedBy rows id = 0) ∧
      ∃ sent, Passes (home, sent) rows (home, sent + db.movedBy rows home) := by
  obtain ⟨sent, received, passes⟩ := circulates.passes
  have moved := passes.moved circulates.booked
  constructor
  · intro id other
    rw [moved id, if_neg (Ne.symm other), if_neg (Ne.symm other), sub_zero]
  · have gain : sent + db.movedBy rows home = received := by
      rw [moved home, if_pos rfl, if_pos rfl]
      ring
    exact ⟨sent, by rw [gain]; exact passes⟩

/-- Payments pass on what the conversions between their currencies give. -/
theorem Passes.amount {rows : List Transaction} {first last : AccountId × Int}
    (passes : Passes first rows last) (converted : ∀ row ∈ rows, row.Converted)
    {conversions : List FxService.Conversion}
    (same : rows.map Transaction.currencies = conversions.map FxService.Conversion.currencies) :
    last.2 = conversions.foldl
      (fun amount conversion => FxService.convert amount conversion.rate) first.2 := by
  induction passes generalizing conversions with
  | nil place =>
      have none : conversions = [] := List.map_eq_nil_iff.mp same.symm
      rw [none]
      rfl
  | cons passes ih =>
      rename_i row later last
      cases conversions with
      | nil => cases same
      | cons conversion rest =>
          rw [List.map_cons, List.map_cons, List.cons.injEq] at same
          obtain ⟨source, destination⟩ := Prod.mk.inj same.1
          have own := converted row List.mem_cons_self
          have listed := own.rate
          rw [source, destination, conversion.supported] at listed
          have rate : conversion.rate = row.fxRate := Option.some.inj listed
          rw [ih (fun other member => converted other (List.mem_cons_of_mem row member)) same.2,
            List.foldl_cons, rate, ← own.amount]

/-- Payments between accounts follow conversions from the currency of the first account to
that of the last. -/
theorem Passes.conversions {db : Database} {rows : List Transaction}
    {first last : AccountId × Int} (passes : Passes first rows last)
    (sides : ∀ row ∈ rows, db.Sides row) (converted : ∀ row ∈ rows, row.Converted) :
    ∃ conversions : List FxService.Conversion,
      rows.map Transaction.currencies = conversions.map FxService.Conversion.currencies ∧
      (conversions.IsChain fun before after => before.toCurrency = after.fromCurrency) ∧
      (∀ head ∈ conversions.head?, db.Denominates first.1 head.fromCurrency) ∧
      ∀ final ∈ conversions.getLast?, db.Denominates last.1 final.toCurrency := by
  induction passes with
  | nil place =>
      refine ⟨[], rfl, .nil, ?_, ?_⟩
      · intro head absurd
        cases absurd
      · intro final absurd
        cases absurd
  | cons passes ih =>
      rename_i row later last
      have own := sides row List.mem_cons_self
      obtain ⟨rest, same, linked, head, final⟩ :=
        ih (fun other member => sides other (List.mem_cons_of_mem row member))
          fun other member => converted other (List.mem_cons_of_mem row member)
      have rate := (converted row List.mem_cons_self).rate
      refine ⟨⟨row.sourceCurrency, row.destinationCurrency, row.fxRate, rate⟩ :: rest, ?_, ?_, ?_,
        ?_⟩
      · rw [List.map_cons, List.map_cons, same]
        rfl
      · rw [List.isChain_cons]
        exact ⟨fun next member => own.recipient.unique (head next member), linked⟩
      · intro next member
        cases member
        exact own.sender
      · intro next member
        cases rest with
        | nil =>
            cases member
            rw [List.map_eq_nil_iff.mp same, passes_nil_iff] at passes
            rw [← passes]
            exact own.recipient
        | cons second others =>
            rw [List.getLast?_cons_cons] at member
            exact final next member

/-! ## Gains -/

/-- An idle system without payments whose cached rates are the listed ones. -/
structure World.Fresh (world : World) : Prop where
  atRest : world.AtRest
  priced : world.Priced
  transactions : world.db.transactions.rows = []
  ledgerEntries : world.db.ledgerEntries = []

/-- Payments that circulate follow a cycle of conversions. -/
theorem Database.Circulates.cycle {db : Database} {rows : List Transaction} {home : AccountId}
    (circulates : db.Circulates rows home) (formed : db.WellFormed) (converted : db.Converted) :
    ∃ cycle : FxService.Cycle, rows.map Transaction.currencies =
      cycle.conversions.map FxService.Conversion.currencies := by
  obtain ⟨sent, received, passes⟩ := circulates.passes
  obtain ⟨conversions, same, linked, head, final⟩ := passes.conversions
    (fun row member => formed.sides row.id row (circulates.stored row member))
    fun row member => converted row (Table.mem_of_get? (circulates.stored row member))
  exact ⟨⟨conversions, linked, fun first starts last ends =>
    (final last ends).unique (head first starts)⟩, same⟩

/-- Where no dispute is raised, payments that are completed by their status have the two
entries of a completed payment. -/
theorem Database.Circulates.of_completed {deployment : Deployment} {initial : World}
    (fresh : initial.Fresh) {pool : Pool ProcessId Failure Operation.Reply World}
    (reached : Pool.Reachable backend
      (surroundings (Command.Starts deployment Command.Undisputed)) initial pool)
    {rows : List Transaction} {home : AccountId} {sent received : Int}
    (stored : ∀ row ∈ rows, pool.shared.db.transactions.get? row.id = some row)
    (completed : ∀ row ∈ rows, row.status = .completed)
    (passes : Passes (home, sent) rows (home, received)) :
    pool.shared.db.Circulates rows home where
  stored := stored
  booked := by
    intro row member
    have held := Command.pool_undisputed fresh.atRest fresh.transactions reached row.id _
      (dossier_of_get? (stored row member))
    have booked := held.lawful.booked
    rw [completed row member] at booked
    exact booked
  passes := ⟨sent, received, passes⟩

/-- What comes back along the cycle is no more than what was there, rounding aside: of
any amount, and to any account that completed payments circulate through. -/
structure FxService.Cycle.GainsNothing (cycle : FxService.Cycle) : Prop where
  amounts : ∀ amount : Int, 0 < amount →
    (cycle.convertAll amount : ℚ) ≤ amount + slack cycle.ratios
  payments : ∀ (deployment : Deployment) (initial : World), initial.Fresh →
    ∀ pool : Pool ProcessId Failure Operation.Reply World,
      Pool.Reachable backend (surroundings (Command.Starts deployment fun _ => True)) initial
        pool →
    ∀ rows home, pool.shared.db.Circulates rows home →
      rows.map Transaction.currencies =
        cycle.conversions.map FxService.Conversion.currencies →
      (pool.shared.db.movedBy rows home : ℚ) ≤ slack cycle.ratios ∧
        ∀ id, id ≠ home → pool.shared.db.movedBy rows id = 0

/-- A cycle of conversions gains nothing exactly where its rates multiply to one at
most. -/
theorem FxService.Cycle.gainsNothing_iff (cycle : FxService.Cycle) :
    cycle.GainsNothing ↔ cycle.ratios.prod ≤ 1 := by
  constructor
  · intro gainsNothing
    refine (roundedProduct_le_iff cycle.ratios_nonneg).mp fun amount positive => ?_
    rw [← cycle.convertAll_eq]
    exact gainsNothing.amounts amount positive
  · intro shrinks
    have bounded : ∀ amount : Int, 0 ≤ amount →
        (cycle.convertAll amount : ℚ) ≤ amount + slack cycle.ratios := by
      intro amount start
      rw [cycle.convertAll_eq]
      exact roundedProduct_le cycle.ratios_nonneg shrinks start
    refine ⟨fun amount positive => bounded amount positive.le, ?_⟩
    intro deployment initial fresh pool reached rows home circulates same
    obtain ⟨others, sent, passes⟩ := circulates.moved
    refine ⟨?_, others⟩
    have formed := Command.pool_wellFormed fresh.atRest
      (Database.wellFormed_of_empty fresh.transactions fresh.ledgerEntries) reached
    obtain ⟨_, priced⟩ := (governs_pricing deployment fun _ => True).reachable fresh.priced reached
    have stored : ∀ row ∈ rows, row.Converted := fun row member =>
      priced.fits.db row (Table.mem_of_get? (circulates.stored row member))
    have received := passes.amount stored same
    cases rows with
    | nil =>
        have none : cycle.conversions = [] := List.map_eq_nil_iff.mp same.symm
        unfold FxService.Cycle.ratios
        rw [none]
        exact le_refl (0 : ℚ)
    | cons row later =>
        have start : 0 ≤ row.sourceAmount :=
          (formed.sides row.id row (circulates.stored row List.mem_cons_self)).source
        have first : sent = row.sourceAmount := by
          cases passes
          rfl
        have gain := bounded sent (first ▸ start)
        unfold FxService.Cycle.convertAll at gain
        rw [← received] at gain
        push_cast at gain
        linarith

/-- Where the rates of a cycle multiply to more than one, every amount gains that is large
enough. -/
theorem FxService.Cycle.gains_of_lt (cycle : FxService.Cycle) {amount : Int}
    (enough : 2 * slack cycle.ratios < amount * (cycle.ratios.prod - 1)) :
    amount + slack cycle.ratios < cycle.convertAll amount := by
  rw [cycle.convertAll_eq]
  exact lt_roundedProduct cycle.ratios_nonneg enough

/-- From dollars to pounds and back. -/
def sterlingCycle : FxService.Cycle where
  conversions := [⟨"USD", "GBP", 79000000, rfl⟩, ⟨"GBP", "USD", 127000000, rfl⟩]
  linked := by simp
  closed := by simp

/-- An owner of a dollar account with a hundred dollars and an empty pound account. -/
def ownerWorld : World :=
  { sampleWorld with
    db := { sampleWorld.db with
      accounts := (Table.empty.put
          { id := 0, currency := "USD", balance := 10000000000, version := 0 }).put
        { id := 1, currency := "GBP", balance := 0, version := 0 } } }

/-- The hundred dollars are sent to the pound account. -/
def outwardPayment : CreatePaymentDto where
  senderAccountId := 0
  recipientAccountId := 1
  sourceCurrency := "USD"
  destinationCurrency := "GBP"
  amount := 10000000000
  isPositive := by decide
  notSelfPayment := Nat.zero_ne_one

/-- The pounds are sent back. -/
def homewardPayment : CreatePaymentDto where
  senderAccountId := 1
  recipientAccountId := 0
  sourceCurrency := "GBP"
  destinationCurrency := "USD"
  amount := 7900000000
  isPositive := by decide
  notSelfPayment := Nat.one_ne_zero

/-- Both payments are created, submitted and completed. -/
def roundTrip : List (Command × List Delivery) :=
  [(.createPayment outwardPayment "outward", []), (.process sampleJob, []),
    (.processWebhook ⟨0, "completed"⟩ [] "secret", []),
    (.createPayment homewardPayment "homeward", []),
    (.process { sampleJob with transactionId := 1, idempotencyKey := "homeward" }, []),
    (.processWebhook ⟨1, "completed"⟩ [] "secret", [])]

/-- A hundred dollars come back as 100.33 dollars, by conversion and by payment. -/
theorem sterling_cycle_gains :
    (10000000000 : ℚ) + slack sterlingCycle.ratios < sterlingCycle.convertAll 10000000000 ∧
      ¬ sterlingCycle.GainsNothing ∧
      let last := runAll sampleDeployment roundTrip ownerWorld
      last.db.Circulates last.db.transactions.rows 0 ∧
        last.db.accounts.rows.map (fun row => (row.id, row.currency, row.balance)) =
          [(0, "USD", 10033000000), (1, "GBP", 0)] := by
  have grows : 1 < sterlingCycle.ratios.prod := by
    norm_num [FxService.Cycle.ratios, sterlingCycle, FxService.ratio, scale]
  have enough : 2 * slack sterlingCycle.ratios <
      (10000000000 : Int) * (sterlingCycle.ratios.prod - 1) := by
    norm_num [FxService.Cycle.ratios, sterlingCycle, FxService.ratio, scale]
  have stored : ∀ row ∈ (runAll sampleDeployment roundTrip ownerWorld).db.transactions.rows,
      (runAll sampleDeployment roundTrip ownerWorld).db.transactions.get? row.id = some row := by
    decide +kernel
  have entries : ∀ row ∈ (runAll sampleDeployment roundTrip ownerWorld).db.transactions.rows,
      ((runAll sampleDeployment roundTrip ownerWorld).db.entriesOf row.id).map
        LedgerEntry.posting = [row.reserve, row.settle] := by
    decide +kernel
  have passes : Passes (0, 10000000000)
      (runAll sampleDeployment roundTrip ownerWorld).db.transactions.rows (0, 10033000000) := by
    decide +kernel
  have balances : (runAll sampleDeployment roundTrip ownerWorld).db.accounts.rows.map
      (fun row => (row.id, row.currency, row.balance)) =
        [(0, "USD", 10033000000), (1, "GBP", 0)] := by
    decide +kernel
  refine ⟨?_, fun gainsNothing => ?_, ⟨stored, fun row member => ?_, _, _, passes⟩, balances⟩
  · exact_mod_cast sterlingCycle.gains_of_lt enough
  · exact (sterlingCycle.gainsNothing_iff.mp gainsNothing).not_gt grows
  · rw [entries row member]
    exact .completed

end Payroute
