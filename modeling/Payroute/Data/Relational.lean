import Mathlib.Algebra.BigOperators.Group.List.Basic
import Mathlib.Algebra.Order.Ring.Int
import Mathlib.Data.List.Dedup
import Mathlib.Data.List.ReduceOption

/-! # Outer joins, groups and sums

Tables are lists of rows, as in a query that counts duplicates. A row of an outer
join that has no partner is paired with nulls, a group is the list of the rows with
one value of the key, and a sum skips nulls.
-/

namespace Relational

variable {α β κ : Type}

/-- The rows an outer join makes of one row. -/
def partners (on : α → β → Bool) (right : List β) (row : α) : List (α × Option β) :=
  match right.filter (on row) with
  | [] => [(row, none)]
  | found => found.map fun partner => (row, some partner)

/-- `left LEFT JOIN right ON ...`. -/
def leftJoin (on : α → β → Bool) (left : List α) (right : List β) : List (α × Option β) :=
  left.flatMap (partners on right)

/-- `GROUP BY`: each value of the key with its rows. -/
def groupBy [DecidableEq κ] (key : α → κ) (rows : List α) : List (κ × List α) :=
  (rows.map key).dedup.map fun value => (value, rows.filter fun row => decide (key row = value))

/-- `SUM`, which is null unless some value is not. -/
def sum? (values : List (Option Int)) : Option Int :=
  match values.reduceOption with
  | [] => none
  | present => some present.sum

/-! ## Joined rows -/

theorem partners_ne_nil (on : α → β → Bool) (right : List β) (row : α) :
    partners on right row ≠ [] := by
  unfold partners
  split
  · exact List.cons_ne_nil _ _
  · next found nonempty =>
    intro empty
    exact nonempty (List.map_eq_nil_iff.mp empty)

theorem fst_of_mem_partners {on : α → β → Bool} {right : List β} {row : α}
    {joined : α × Option β} (member : joined ∈ partners on right row) : joined.1 = row := by
  unfold partners at member
  split at member
  · rw [List.mem_singleton.mp member]
  · obtain ⟨partner, _, rfl⟩ := List.mem_map.mp member
    rfl

theorem fst_mem_of_mem_leftJoin {on : α → β → Bool} {left : List α} {right : List β}
    {joined : α × Option β} (member : joined ∈ leftJoin on left right) : joined.1 ∈ left := by
  obtain ⟨row, present, inside⟩ := List.mem_flatMap.mp member
  rw [fst_of_mem_partners inside]
  exact present

/-- The nulls of an outer join drop out of a column of the right table. -/
theorem reduceOption_partners (on : α → β → Bool) (right : List β) (row : α) (column : β → Int) :
    ((partners on right row).map fun joined => joined.2.map column).reduceOption =
      (right.filter (on row)).map column := by
  unfold partners
  split
  · next none => rw [none]; rfl
  · rw [List.map_map]
    induction right.filter (on row) with
    | nil => rfl
    | cons partner rest ih =>
        rw [List.map_cons, List.map_cons]
        exact (List.reduceOption_cons_of_some _ _).trans (congrArg _ ih)

/-! ## Groups -/

section Groups

variable [DecidableEq κ] {key : α → κ} {rows first second : List α} {value : κ}

theorem filter_key_of_absent (absent : ∀ row ∈ rows, key row ≠ value) :
    (rows.filter fun row => decide (key row = value)) = [] := by
  rw [List.filter_eq_nil_iff]
  intro row member
  simp only [absent row member, decide_false, Bool.false_eq_true, not_false_eq_true]

/-- Rows that share no key form groups of their own. -/
theorem groupBy_append (apart : (first.map key).Disjoint (second.map key)) :
    groupBy key (first ++ second) = groupBy key first ++ groupBy key second := by
  unfold groupBy
  rw [List.map_append, apart.dedup_append, List.map_append]
  congr 1
  · apply List.map_congr_left
    intro value member
    have absent : ∀ row ∈ second, key row ≠ value := by
      rintro row present rfl
      exact apart (List.mem_dedup.mp member) (List.mem_map_of_mem present)
    rw [List.filter_append, filter_key_of_absent absent, List.append_nil]
  · apply List.map_congr_left
    intro value member
    have absent : ∀ row ∈ first, key row ≠ value := by
      rintro row present rfl
      exact apart (List.mem_map_of_mem present) (List.mem_dedup.mp member)
    rw [List.filter_append, filter_key_of_absent absent, List.nil_append]

/-- Rows with one value of the key are one group. -/
theorem groupBy_constant (nonempty : rows ≠ []) (constant : ∀ row ∈ rows, key row = value) :
    groupBy key rows = [(value, rows)] := by
  have keys : rows.map key = List.replicate rows.length value := by
    rw [← List.map_const']
    exact List.map_congr_left constant
  have positive : rows.length ≠ 0 := fun empty => nonempty (List.length_eq_zero_iff.mp empty)
  have whole : (rows.filter fun row => decide (key row = value)) = rows := by
    rw [List.filter_eq_self]
    intro row member
    exact decide_eq_true (constant row member)
  unfold groupBy
  rw [keys, List.replicate_dedup positive, List.map_singleton, whole]

/-- Grouping an outer join by the rows of its left table gives the partners of each. -/
theorem groupBy_leftJoin (on : α → β → Bool) {left : List α} (right : List β)
    (distinct : (left.map key).Nodup) :
    groupBy (fun joined => key joined.1) (leftJoin on left right) =
      left.map fun row => (key row, partners on right row) := by
  induction left with
  | nil => rfl
  | cons row rest ih =>
      obtain ⟨fresh, distinct⟩ := List.nodup_cons.mp distinct
      have apart : ((partners on right row).map fun joined => key joined.1).Disjoint
          ((leftJoin on rest right).map fun joined => key joined.1) := by
        intro value here there
        obtain ⟨one, inside, rfl⟩ := List.mem_map.mp here
        obtain ⟨other, later, same⟩ := List.mem_map.mp there
        rw [fst_of_mem_partners inside] at same
        exact fresh (List.mem_map.mpr ⟨other.1, fst_mem_of_mem_leftJoin later, same⟩)
      have single : groupBy (fun joined => key joined.1) (partners on right row) =
          [(key row, partners on right row)] :=
        groupBy_constant (partners_ne_nil on right row) fun joined member =>
          congrArg key (fst_of_mem_partners member)
      have split : leftJoin on (row :: rest) right =
          partners on right row ++ leftJoin on rest right := List.flatMap_cons
      rw [split, groupBy_append apart, single, ih distinct]
      rfl

end Groups

/-! ## Sums -/

theorem sum?_of_eq_nil {values : List (Option Int)} (empty : values.reduceOption = []) :
    sum? values = none := by
  unfold sum?
  rw [empty]

theorem sum?_of_ne_nil {values : List (Option Int)} (nonempty : values.reduceOption ≠ []) :
    sum? values = some values.reduceOption.sum := by
  unfold sum?
  split
  · next empty => exact (nonempty empty).elim
  · rfl

end Relational
