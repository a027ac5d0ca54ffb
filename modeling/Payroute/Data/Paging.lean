import Mathlib.Data.List.Sort
import Mathlib.Data.List.Perm.Subperm
import Mathlib.Order.Basic

/-! # Pages of a listing that grows

A listing is sorted by a column, the greatest values first, and is fetched page by page
while rows are added to it anywhere. A row whose value no other row has stands behind
exactly the rows with greater values. As rows are only added it never moves forward, so
that a reader who fetches the pages one after another meets every row on the way.
-/

namespace Paging

variable {α ι κ σ : Type} [LinearOrder κ] {key : α → ι} {column : α → κ}
  {rows first second : List α} {row : α} {limit : Nat}

/-- The rows of a page; the first page has number 1. -/
def page (rows : List α) (limit number : Nat) : List α :=
  (rows.drop ((number - 1) * limit)).take limit

/-- The number of rows in front of a value. -/
def ahead (column : α → κ) (rows : List α) (value : κ) : Nat :=
  rows.countP fun row => value < column row

/-- No row has a greater value than the rows in front of it. -/
def Descending (column : α → κ) (rows : List α) : Prop :=
  rows.Pairwise fun earlier later => column later ≤ column earlier

/-- A row whose value is its own stands right behind the rows with greater values. -/
theorem Descending.getElem?_ahead (sorted : Descending column rows) (member : row ∈ rows)
    (alone : ∀ other ∈ rows, column other = column row → other = row) :
    rows[ahead column rows (column row)]? = some row := by
  induction rows with
  | nil => cases member
  | cons head rest ih =>
      obtain ⟨falls, sorted⟩ := List.pairwise_cons.mp sorted
      by_cases same : column head = column row
      · obtain rfl := alone head List.mem_cons_self same
        have none : rest.countP (fun other => column head < column other) = 0 :=
          List.countP_eq_zero.mpr fun other there => by simpa using falls other there
        simp [ahead, none]
      · have later : row ∈ rest := by
          rcases List.mem_cons.mp member with rfl | later
          · exact (same rfl).elim
          · exact later
        have greater : column row < column head := lt_of_le_of_ne (falls row later) (Ne.symm same)
        have found := ih sorted later fun other there => alone other (List.mem_cons_of_mem _ there)
        simpa [ahead, greater] using found

/-- The page with that position has the row. -/
theorem mem_page {number index : Nat} (found : rows[index]? = some row)
    (reached : (number - 1) * limit ≤ index) (before : index < (number - 1) * limit + limit) :
    row ∈ page rows limit number := by
  refine List.mem_iff_getElem?.mpr ⟨index - (number - 1) * limit, ?_⟩
  have short : index - (number - 1) * limit < limit := by omega
  have back : (number - 1) * limit + (index - (number - 1) * limit) = index := by omega
  rw [page, List.getElem?_take_of_lt short, List.getElem?_drop, back, found]

/-- Rows are added, and those there are keep their values. -/
def Grows (key : α → ι) (column : α → κ) (first second : List α) : Prop :=
  ∀ row ∈ first, ∃ later ∈ second, key later = key row ∧ column later = column row

theorem Grows.ahead_le (grows : Grows key column first second) (distinct : (first.map key).Nodup)
    (value : κ) : ahead column first value ≤ ahead column second value := by
  let front : List α → List α := fun rows => rows.filter fun row => decide (value < column row)
  have nodup : ((front first).map key).Nodup := distinct.sublist (List.filter_sublist.map key)
  have subset : (front first).map key ⊆ (front second).map key := by
    intro name member
    obtain ⟨row, there, rfl⟩ := List.mem_map.mp member
    obtain ⟨member, greater⟩ := List.mem_filter.mp there
    obtain ⟨later, present, same, kept⟩ := grows row member
    exact List.mem_map.mpr ⟨later, List.mem_filter.mpr ⟨present, kept ▸ greater⟩, same⟩
  have fewer := (List.subperm_of_subset nodup subset).length_le
  rw [List.length_map, List.length_map] at fewer
  unfold ahead
  rw [List.countP_eq_length_filter, List.countP_eq_length_filter]
  exact fewer

/-- A reader fetches one page after another while the listing changes. -/
inductive Walk (next : σ → σ → Prop) (listing : σ → List α) (limit : Nat) (start : σ) :
    List (List α) → σ → Prop
  | first : Walk next listing limit start [page (listing start) limit 1] start
  | more {pages : List (List α)} {state later : σ}
      (walk : Walk next listing limit start pages state) (moved : next state later) :
      Walk next listing limit start (pages ++ [page (listing later) limit (pages.length + 1)]) later

namespace Grows

omit [LinearOrder κ] in
theorem refl (rows : List α) : Grows key column rows rows :=
  fun row member => ⟨row, member, rfl, rfl⟩

omit [LinearOrder κ] in
theorem trans {third : List α} (left : Grows key column first second)
    (right : Grows key column second third) : Grows key column first third := by
  intro row member
  obtain ⟨middle, there, same, kept⟩ := left row member
  obtain ⟨later, present, named, held⟩ := right middle there
  exact ⟨later, present, named.trans same, held.trans kept⟩

omit [LinearOrder κ] in
/-- A value that is the row's own later was its own before. -/
theorem alone (grows : Grows key column first second)
    (later : ∀ other ∈ second, column other = column row → key other = key row) :
    ∀ other ∈ first, column other = column row → key other = key row := by
  intro other member same
  obtain ⟨current, there, named, kept⟩ := grows other member
  exact named.symm.trans (later current there (kept.trans same))

end Grows

namespace Walk

variable {next : σ → σ → Prop} {listing : σ → List α} {start state : σ} {pages : List (List α)}

omit [LinearOrder κ] in
theorem grows (steps : ∀ before after, next before after →
      Grows key column (listing before) (listing after))
    (walk : Walk next listing limit start pages state) :
    Grows key column (listing start) (listing state) := by
  induction walk with
  | first => exact .refl _
  | more _ moved ih => exact ih.trans (steps _ _ moved)

variable (steps : ∀ before after, next before after →
    Grows key column (listing before) (listing after))
  (sorted : ∀ state, Descending column (listing state))
  (distinct : ∀ state, ((listing state).map key).Nodup)

include sorted distinct in
/-- Where a row with a value of its own stands. -/
theorem standing (walk : Grows key column (listing start) (listing state))
    (member : row ∈ listing start)
    (alone : ∀ other ∈ listing state, column other = column row → key other = key row) :
    ∃ current, key current = key row ∧
      (listing state)[ahead column (listing state) (column row)]? = some current := by
  obtain ⟨current, there, named, kept⟩ := walk row member
  refine ⟨current, named, ?_⟩
  rw [← kept]
  refine (sorted state).getElem?_ahead there fun other present same => ?_
  have keys := (alone other present (same.trans kept)).trans named.symm
  exact List.inj_on_of_nodup_map (distinct state) present there keys

include steps sorted distinct in
/-- A row that was there from the start was met, or stands behind all pages so far. -/
theorem met_or_ahead (walk : Walk next listing limit start pages state)
    (member : row ∈ listing start)
    (alone : ∀ other ∈ listing state, column other = column row → key other = key row) :
    (∃ page ∈ pages, ∃ met ∈ page, key met = key row) ∨
      pages.length * limit ≤ ahead column (listing state) (column row) := by
  induction walk with
  | first =>
      obtain ⟨current, named, found⟩ := standing sorted distinct (.refl _) member alone
      by_cases here : ahead column (listing start) (column row) < limit
      · refine .inl ⟨_, List.mem_cons_self, current, mem_page found ?_ ?_, named⟩
        · omega
        · omega
      · refine .inr ?_
        rw [List.length_singleton]
        omega
  | @more pages before after walk moved ih =>
      have grown := steps before after moved
      rcases ih (grown.alone alone) with met | behind
      · obtain ⟨page, fetched, met⟩ := met
        exact .inl ⟨page, List.mem_append.mpr (.inl fetched), met⟩
      · have moves := grown.ahead_le (distinct before) (column row)
        obtain ⟨current, named, found⟩ :=
          standing sorted distinct ((walk.grows steps).trans grown) member alone
        by_cases here : ahead column (listing after) (column row) < pages.length * limit + limit
        · refine .inl ⟨_, List.mem_append.mpr (.inr List.mem_cons_self), current,
            mem_page found ?_ ?_, named⟩
          · rw [Nat.add_sub_cancel]
            exact behind.trans moves
          · rw [Nat.add_sub_cancel]
            exact here
        · refine .inr ?_
          rw [List.length_append, List.length_singleton, Nat.add_mul, Nat.one_mul]
          omega

include steps sorted distinct in
/-- A reader who has reached the end has met every row that was there from the start. -/
theorem meets (walk : Walk next listing limit start pages state) (member : row ∈ listing start)
    (alone : ∀ other ∈ listing state, column other = column row → key other = key row)
    (ended : (listing state).length ≤ pages.length * limit) :
    ∃ page ∈ pages, ∃ met ∈ page, key met = key row := by
  rcases walk.met_or_ahead steps sorted distinct member alone with met | behind
  · exact met
  · obtain ⟨current, _, found⟩ :=
      standing sorted distinct (walk.grows steps) member alone
    have inside := (List.getElem?_eq_some_iff.mp found).1
    omega

end Walk
end Paging
