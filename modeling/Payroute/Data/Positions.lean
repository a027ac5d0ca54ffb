import Mathlib.Algebra.BigOperators.Group.Finset.Basic
import Mathlib.Logic.Relation
import Mathlib.Tactic.Abel

/-! # Positions

Objects hold amounts on accounts, and what an object holds depends on its state
alone. When an object changes its state, each balance changes by what the new state
holds beyond the old one. Then the balances are at all times the opening balances
together with what the objects hold.
-/

namespace Positions

/-- The states of the objects and the balances of the accounts. -/
structure Book (ι σ α M : Type*) where
  state : ι → σ
  balance : α → M

variable {ι σ α M : Type*} [AddCommGroup M] {held : σ → α → M} {first second : Book ι σ α M}

/-- One object changes its state and takes its position along. -/
structure Shift (held : σ → α → M) (first second : Book ι σ α M) (id : ι) (next : σ) : Prop where
  changed : second.state id = next
  others : ∀ other, other ≠ id → second.state other = first.state other
  balance : ∀ account, second.balance account =
    first.balance account + (held next account - held (first.state id) account)

/-- An object that keeps its state leaves everything as it is. -/
theorem Shift.rests {id : ι} {next : σ} (shift : Shift held first second id next)
    (same : next = first.state id) : second = first := by
  have states : second.state = first.state := by
    funext other
    by_cases own : other = id
    · rw [own, shift.changed, same]
    · exact shift.others other own
  have balances : second.balance = first.balance := by
    funext account
    rw [shift.balance, same, sub_self, add_zero]
  cases first
  cases second
  cases states
  cases balances
  rfl

/-- The balances are the opening ones and what finitely many objects hold. -/
def Settled (held : σ → α → M) (opening : α → M) (book : Book ι σ α M) : Prop :=
  ∃ ids : Finset ι, (∀ id, id ∉ ids → ∀ account, held (book.state id) account = 0) ∧
    ∀ account, book.balance account = opening account + ∑ id ∈ ids, held (book.state id) account

/-- At the beginning no object holds anything. -/
theorem settled_of_idle (idle : ∀ id account, held (first.state id) account = 0) :
    Settled held first.balance first := by
  refine ⟨∅, fun id _ => idle id, fun account => ?_⟩
  rw [Finset.sum_empty, add_zero]

namespace Settled

variable {opening : α → M}

/-- Any objects will do that include those which hold something. -/
theorem balance_eq (settled : Settled held opening first) {ids : Finset ι}
    (rest : ∀ id, id ∉ ids → ∀ account, held (first.state id) account = 0) (account : α) :
    first.balance account = opening account + ∑ id ∈ ids, held (first.state id) account := by
  classical
  obtain ⟨known, idle, balance⟩ := settled
  have left : ∑ id ∈ known, held (first.state id) account =
      ∑ id ∈ known ∪ ids, held (first.state id) account :=
    Finset.sum_subset Finset.subset_union_left fun id _ unknown => idle id unknown account
  have right : ∑ id ∈ ids, held (first.state id) account =
      ∑ id ∈ known ∪ ids, held (first.state id) account :=
    Finset.sum_subset Finset.subset_union_right fun id _ other => rest id other account
  rw [balance, left, right]

/-- A change of state keeps the balances settled. -/
theorem shift (settled : Settled held opening first) {id : ι} {next : σ}
    (shift : Shift held first second id next) : Settled held opening second := by
  classical
  have same := settled
  obtain ⟨known, idle, _⟩ := same
  have rest : ∀ other, other ∉ insert id known → ∀ account,
      held (first.state other) account = 0 :=
    fun other unknown => idle other fun member => unknown (Finset.mem_insert_of_mem member)
  refine ⟨insert id known, fun other unknown account => ?_, fun account => ?_⟩
  · have differs : other ≠ id := fun same => unknown (same ▸ Finset.mem_insert_self id known)
    rw [shift.others other differs]
    exact rest other unknown account
  · have kept : ∑ other ∈ known.erase id, held (second.state other) account =
        ∑ other ∈ known.erase id, held (first.state other) account :=
      Finset.sum_congr rfl fun other member => by
        rw [shift.others other (Finset.ne_of_mem_erase member)]
    have before := settled.balance_eq rest account
    rw [← Finset.insert_erase (Finset.mem_insert_self id known), Finset.erase_insert_eq_erase,
      Finset.sum_insert (Finset.notMem_erase id known)] at before ⊢
    rw [shift.balance, before, shift.changed, kept]
    abel

/-- So does any sequence of them. -/
theorem run (settled : Settled held opening first)
    (steps : Relation.ReflTransGen (fun left right => ∃ id next, Shift held left right id next)
      first second) : Settled held opening second := by
  induction steps with
  | refl => exact settled
  | tail _ step ih =>
      obtain ⟨id, next, changes⟩ := step
      exact ih.shift changes

end Settled
end Positions
