import Mathlib.Algebra.Order.Archimedean.Basic
import Mathlib.Algebra.Order.BigOperators.GroupWithZero.List
import Mathlib.Algebra.Order.Round
import Mathlib.Tactic.Linarith
import Mathlib.Tactic.Ring

/-! # Products that are rounded at each factor

A whole amount is multiplied by a list of factors, and the product is rounded to a whole
amount after each factor. The error is at most half a unit for each factor, times the
factors that are still to come; the amount never grows by more than that exactly where
the product of the factors is at most one.
-/

namespace Rounding

variable {K : Type*} [Field K]

/-- The error of half a unit at each factor, times the factors after it. -/
def slack : List K → K
  | [] => 0
  | _ :: later => later.prod / 2 + slack later

@[simp] theorem slack_nil : slack ([] : List K) = 0 := rfl

@[simp] theorem slack_cons (factor : K) (later : List K) :
    slack (factor :: later) = later.prod / 2 + slack later := rfl

section Ordered

variable [LinearOrder K] [FloorRing K]

/-- The amount times each of the factors in turn, rounded each time. -/
def roundedProduct (amount : ℤ) (factors : List K) : ℤ :=
  factors.foldl (fun amount factor => round ((amount : K) * factor)) amount

@[simp] theorem roundedProduct_nil (amount : ℤ) :
    roundedProduct amount ([] : List K) = amount := rfl

@[simp] theorem roundedProduct_cons (amount : ℤ) (factor : K) (later : List K) :
    roundedProduct amount (factor :: later) =
      roundedProduct (round ((amount : K) * factor)) later := rfl

variable [IsStrictOrderedRing K] {factors : List K}

/-- The rounded product is the exact one up to the error. -/
theorem roundedProduct_close (nonneg : ∀ factor ∈ factors, 0 ≤ factor) (amount : ℤ) :
    |(roundedProduct amount factors : K) - amount * factors.prod| ≤ slack factors := by
  induction factors generalizing amount with
  | nil => simp
  | cons factor later ih =>
      have rest : ∀ factor ∈ later, 0 ≤ factor := fun other member =>
        nonneg other (List.mem_cons_of_mem factor member)
      have passed : 0 ≤ later.prod := List.prod_nonneg rest
      have rounded : |(amount : K) * factor - round ((amount : K) * factor)| ≤ 1 / 2 :=
        abs_sub_round _
      have carried := ih rest (round ((amount : K) * factor))
      have scaled : |((round ((amount : K) * factor) : K) - amount * factor) * later.prod| ≤
          later.prod / 2 := by
        rw [abs_mul, abs_of_nonneg passed, abs_sub_comm]
        calc |(amount : K) * factor - round ((amount : K) * factor)| * later.prod
            ≤ 1 / 2 * later.prod := mul_le_mul_of_nonneg_right rounded passed
          _ = later.prod / 2 := by ring
      have parts : (roundedProduct amount (factor :: later) : K) - amount * (factor :: later).prod =
          ((roundedProduct (round ((amount : K) * factor)) later : K) -
            round ((amount : K) * factor) * later.prod) +
          ((round ((amount : K) * factor) : K) - amount * factor) * later.prod := by
        rw [roundedProduct_cons, List.prod_cons]
        ring
      rw [parts, slack_cons]
      calc _ ≤ _ := abs_add_le _ _
        _ ≤ slack later + later.prod / 2 := add_le_add carried scaled
        _ = later.prod / 2 + slack later := add_comm _ _

/-- Where the factors multiply to one at most, nothing is gained but the error. -/
theorem roundedProduct_le (nonneg : ∀ factor ∈ factors, 0 ≤ factor)
    (shrinks : factors.prod ≤ 1) {amount : ℤ} (start : 0 ≤ amount) :
    (roundedProduct amount factors : K) ≤ amount + slack factors := by
  have close := (abs_le.mp (roundedProduct_close nonneg amount)).2
  have start : (0 : K) ≤ amount := by exact_mod_cast start
  have exactly : (amount : K) * factors.prod ≤ amount := mul_le_of_le_one_right start shrinks
  linarith

/-- Where the factors multiply to more than one, every amount gains whose exact gain is more
than twice the error. -/
theorem lt_roundedProduct (nonneg : ∀ factor ∈ factors, 0 ≤ factor) {amount : ℤ}
    (enough : 2 * slack factors < amount * (factors.prod - 1)) :
    amount + slack factors < roundedProduct amount factors := by
  have close := (abs_le.mp (roundedProduct_close nonneg amount)).1
  linarith

/-- No amount gains more than the error exactly where the factors multiply to one at
most. -/
theorem roundedProduct_le_iff (nonneg : ∀ factor ∈ factors, 0 ≤ factor) :
    (∀ amount : ℤ, 0 < amount →
      (roundedProduct amount factors : K) ≤ amount + slack factors) ↔ factors.prod ≤ 1 := by
  constructor
  · intro bounded
    by_contra grows
    have gain : 0 < factors.prod - 1 := sub_pos.mpr (not_le.mp grows)
    obtain ⟨enough, large⟩ := exists_nat_gt (2 * slack factors / (factors.prod - 1))
    have more : 2 * slack factors / (factors.prod - 1) < ((enough + 1 : ℕ) : ℤ) := by
      push_cast
      linarith
    have gains := lt_roundedProduct nonneg ((div_lt_iff₀ gain).mp more)
    exact (bounded (enough + 1 : ℕ) (by exact_mod_cast Nat.succ_pos enough)).not_gt gains
  · exact fun shrinks _ positive => roundedProduct_le nonneg shrinks positive.le

end Ordered

end Rounding
