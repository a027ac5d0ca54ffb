import Mathlib.Data.List.Nodup

/-! # Keyed tables

A table is a list of rows in insertion order whose keys are pairwise different,
so a primary key or a unique index is part of the type. Writing a row replaces
the row of the same key in place or appends a new one.
-/

namespace KeyedTable

/-- Rows with a key. -/
class Keyed (ρ : Type) (κ : outParam Type) where
  key : ρ → κ

export Keyed (key)

/-- Rows in insertion order, at most one for each key. -/
@[ext] structure Table (ρ : Type) {κ : Type} [Keyed ρ κ] where
  rows : List ρ
  nodup : (rows.map key).Nodup

namespace Table

variable {ρ κ : Type} [Keyed ρ κ]

/-- The table without rows. -/
def empty : Table ρ := ⟨[], List.nodup_nil⟩

/-- The rows that satisfy a condition. -/
def filter (table : Table ρ) (keep : ρ → Bool) : Table ρ :=
  ⟨table.rows.filter keep, table.nodup.sublist (List.filter_sublist.map _)⟩

variable [DecidableEq κ]

/-- The row of a key. -/
def get? (table : Table ρ) (wanted : κ) : Option ρ :=
  table.rows.find? fun row => decide (key row = wanted)

/-- The list of rows after writing one. -/
def putRows (rows : List ρ) (row : ρ) : List ρ :=
  if key row ∈ rows.map key then
    rows.map fun old => if key old = key row then row else old
  else
    rows ++ [row]

theorem map_key_replace (rows : List ρ) (row : ρ) :
    (rows.map fun old => if key old = key row then row else old).map key = rows.map key := by
  rw [List.map_map]
  apply List.map_congr_left
  intro old _
  by_cases same : key old = key row
  · simp only [Function.comp_apply, same, ↓reduceIte]
  · simp only [Function.comp_apply, same, ↓reduceIte]

/-- Write a row: replace the row of its key, or append it. -/
def put (table : Table ρ) (row : ρ) : Table ρ where
  rows := putRows table.rows row
  nodup := by
    unfold putRows
    split
    · rw [map_key_replace]
      exact table.nodup
    · next fresh =>
      rw [List.map_append, List.map_cons, List.map_nil, List.nodup_append_comm,
        List.singleton_append, List.nodup_cons]
      exact ⟨fresh, table.nodup⟩

omit [DecidableEq κ] in
/-- Rows of one table with the same key are the same row. -/
theorem eq_of_key_eq (table : Table ρ) {first second : ρ} (left : first ∈ table.rows)
    (right : second ∈ table.rows) (same : key first = key second) : first = second :=
  List.inj_on_of_nodup_map table.nodup left right same

theorem get?_eq_some_iff (table : Table ρ) (wanted : κ) (row : ρ) :
    table.get? wanted = some row ↔ row ∈ table.rows ∧ key row = wanted := by
  constructor
  · intro found
    exact ⟨List.mem_of_find?_eq_some found, of_decide_eq_true (List.find?_some found :)⟩
  · rintro ⟨member, rfl⟩
    cases found : table.get? (key row) with
    | none =>
        have absent := List.find?_eq_none.mp found row member
        exact (absent (decide_eq_true rfl)).elim
    | some other =>
        have same : key other = key row := of_decide_eq_true (List.find?_some found :)
        rw [table.eq_of_key_eq (List.mem_of_find?_eq_some found) member same]

theorem get?_eq_none_iff (table : Table ρ) (wanted : κ) :
    table.get? wanted = none ↔ ∀ row ∈ table.rows, key row ≠ wanted := by
  unfold get?
  rw [List.find?_eq_none]
  simp only [decide_eq_true_eq, ne_eq]

theorem key_of_get? {table : Table ρ} {wanted : κ} {row : ρ}
    (found : table.get? wanted = some row) : key row = wanted :=
  ((table.get?_eq_some_iff wanted row).mp found).2

theorem mem_of_get? {table : Table ρ} {wanted : κ} {row : ρ}
    (found : table.get? wanted = some row) : row ∈ table.rows :=
  ((table.get?_eq_some_iff wanted row).mp found).1

theorem get?_of_mem {table : Table ρ} {row : ρ} (member : row ∈ table.rows) :
    table.get? (key row) = some row :=
  (table.get?_eq_some_iff _ row).mpr ⟨member, rfl⟩

@[simp] theorem get?_empty (wanted : κ) : (empty : Table ρ).get? wanted = none := rfl

/-- The rows after a write are the written one and those of other keys. -/
theorem mem_put_iff (table : Table ρ) (row other : ρ) :
    other ∈ (table.put row).rows ↔ other = row ∨ other ∈ table.rows ∧ key other ≠ key row := by
  change other ∈ putRows table.rows row ↔ _
  unfold putRows
  by_cases present : key row ∈ table.rows.map key
  · rw [if_pos present, List.mem_map]
    constructor
    · rintro ⟨old, member, rfl⟩
      by_cases same : key old = key row
      · exact .inl (if_pos same)
      · exact .inr (by rw [if_neg same]; exact ⟨member, same⟩)
    · rintro (rfl | ⟨member, differs⟩)
      · obtain ⟨old, member, same⟩ := List.mem_map.mp present
        exact ⟨old, member, if_pos same⟩
      · exact ⟨other, member, if_neg differs⟩
  · rw [if_neg present, List.mem_append, List.mem_singleton]
    constructor
    · rintro (member | rfl)
      · exact .inr ⟨member, fun same => present (List.mem_map.mpr ⟨other, member, same⟩)⟩
      · exact .inl rfl
    · rintro (rfl | ⟨member, _⟩)
      · exact .inr rfl
      · exact .inl member

/-- Reading after writing. -/
theorem get?_put (table : Table ρ) (row : ρ) (wanted : κ) :
    (table.put row).get? wanted = if wanted = key row then some row else table.get? wanted := by
  by_cases same : wanted = key row
  · rw [if_pos same, get?_eq_some_iff, mem_put_iff]
    exact ⟨.inl rfl, same.symm⟩
  · rw [if_neg same]
    cases found : table.get? wanted with
    | none =>
        rw [get?_eq_none_iff] at found ⊢
        intro other member
        rcases (mem_put_iff table row other).mp member with rfl | ⟨member, _⟩
        · exact fun equal => same equal.symm
        · exact found other member
    | some other =>
        rw [get?_eq_some_iff] at found ⊢
        refine ⟨(mem_put_iff table row other).mpr (.inr ⟨found.1, ?_⟩), found.2⟩
        rw [found.2]
        exact same

@[simp] theorem get?_put_self (table : Table ρ) (row : ρ) :
    (table.put row).get? (key row) = some row := by
  rw [get?_put, if_pos rfl]

theorem get?_put_of_ne (table : Table ρ) {row : ρ} {wanted : κ} (differs : wanted ≠ key row) :
    (table.put row).get? wanted = table.get? wanted := by
  rw [get?_put, if_neg differs]

/-- Reading after the row of a key, if there is one, was updated. -/
theorem get?_updated (table : Table ρ) (update : ρ → ρ) {image : Table ρ} {target : κ}
    (absent : table.get? target = none → image = table)
    (present : ∀ row, table.get? target = some row → image = table.put (update row))
    (keeps : ∀ row, key (update row) = key row) (wanted : κ) :
    image.get? wanted =
      if wanted = target then (table.get? wanted).map update else table.get? wanted := by
  cases found : table.get? target with
  | none =>
      rw [absent found]
      by_cases same : wanted = target
      · rw [if_pos same, same, found, Option.map_none]
      · rw [if_neg same]
  | some row =>
      have named : key (update row) = target := (keeps row).trans (key_of_get? found)
      rw [present row found, get?_put, named]
      by_cases same : wanted = target
      · rw [if_pos same, if_pos same, same, found, Option.map_some]
      · rw [if_neg same, if_neg same]

/-- A row of a new key is appended. -/
theorem rows_put_of_fresh (table : Table ρ) {row : ρ} (fresh : table.get? (key row) = none) :
    (table.put row).rows = table.rows ++ [row] := by
  change putRows table.rows row = _
  unfold putRows
  rw [if_neg]
  intro present
  obtain ⟨old, member, same⟩ := List.mem_map.mp present
  exact (get?_eq_none_iff table _).mp fresh old member same

/-- Writing a new row twice leaves its last version. -/
theorem put_put_of_fresh (table : Table ρ) {row later : ρ} (fresh : table.get? (key row) = none)
    (same : key later = key row) : (table.put row).put later = table.put later := by
  have absent : table.get? (key later) = none := by
    rw [same]
    exact fresh
  have present : key later ∈ (table.put row).rows.map key := by
    rw [rows_put_of_fresh table fresh, List.map_append, same]
    exact List.mem_append_right _ List.mem_cons_self
  apply Table.ext
  change putRows (table.put row).rows later = _
  unfold putRows
  rw [if_pos present, rows_put_of_fresh table fresh, rows_put_of_fresh table absent,
    List.map_append, List.map_cons, List.map_nil, if_pos same.symm]
  congr 1
  conv_rhs => rw [← List.map_id table.rows]
  apply List.map_congr_left
  intro old member
  rw [if_neg ((get?_eq_none_iff table _).mp absent old member), id]

omit [DecidableEq κ] in
theorem mem_filter_iff (table : Table ρ) (keep : ρ → Bool) (row : ρ) :
    row ∈ (table.filter keep).rows ↔ row ∈ table.rows ∧ keep row = true :=
  List.mem_filter

/-- Reading from a filtered table. -/
theorem get?_filter (table : Table ρ) (keep : ρ → Bool) (wanted : κ) :
    (table.filter keep).get? wanted = (table.get? wanted).filter keep := by
  cases found : table.get? wanted with
  | none =>
      rw [get?_eq_none_iff] at found
      rw [Option.filter_none, get?_eq_none_iff]
      exact fun row member => found row ((mem_filter_iff table keep row).mp member).1
  | some row =>
      have known := (get?_eq_some_iff table wanted row).mp found
      by_cases kept : keep row = true
      · rw [Option.filter_some_pos kept, get?_eq_some_iff, mem_filter_iff]
        exact ⟨⟨known.1, kept⟩, known.2⟩
      · rw [Option.filter_some_neg (by simpa using kept), get?_eq_none_iff]
        intro other member same
        obtain ⟨member, passes⟩ := (mem_filter_iff table keep other).mp member
        have equal := table.eq_of_key_eq member known.1 (same.trans known.2.symm)
        rw [equal] at passes
        exact kept passes

end Table
end KeyedTable
