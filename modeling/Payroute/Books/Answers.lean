import Mathlib.Data.List.Sort
import Payroute.Books.Settlement
import Payroute.Services.Listings

/-! # Cached answers

A cached page or cached statistics are right as long as the database would give the same
answer. A change of one payment leaves a page right when the page neither shows the
payment nor counts it, and statistics when the payment keeps its status.
-/

namespace Payroute

open KeyedTable PaymentsService

/-! ## Answers -/

/-- The keys of the cached answers. -/
def CacheKey.Answer : CacheKey → Prop
  | .stats => True
  | .list _ _ _ => True
  | _ => False

/-- The page has a row for the payment. -/
def PaymentsPage.Shows (page : PaymentsPage) (id : TransactionId) : Prop :=
  ∃ listed ∈ page.data, listed.payment.id = id

/-- The page has a row with the account's balance. -/
def PaymentsPage.ShowsAccount (page : PaymentsPage) (account : AccountId) : Prop :=
  ∃ listed ∈ page.data, listed.payment.senderAccountId = account ∨
    listed.payment.recipientAccountId = account

instance (page : PaymentsPage) (id : TransactionId) : Decidable (page.Shows id) :=
  inferInstanceAs (Decidable (∃ listed ∈ page.data, _))

/-- The page `findAll` finds in the database. -/
def Database.page (db : Database) (deployment : Deployment) (dto : ListPaymentsDto) :
    PaymentsPage :=
  let (data, total) := Query.eval db
    (.payments (listFilter deployment dto) ((pageOf dto - 1) * limitOf dto) (limitOf dto))
  pageResult dto data total

/-- The cached answers are those the database would give, up to the number of stuck
payments, which depends on the time. -/
structure Database.Answers (db : Database) (deployment : Deployment)
    (cache : CacheKey → Option CacheValue) : Prop where
  pages : ∀ dto, Dateless dto → ∀ page, cache (listCacheKey dto) = some (.page page) →
    page = db.page deployment dto
  counts : ∀ stats, cache .stats = some (.stats stats) →
    stats.counts = (statsResult db.statusTotals 0).counts
  volumes : ∀ stats, cache .stats = some (.stats stats) →
    stats.totalVolumeByStatus = (statsResult db.statusTotals 0).totalVolumeByStatus

namespace Database

variable {db second : Database} {deployment : Deployment}
  {cache later : CacheKey → Option CacheValue}

/-- Two listings without dates that have the same key have the same page. -/
theorem page_of_key {dto other : ListPaymentsDto} (dateless : Dateless dto)
    (too : Dateless other) (same : listCacheKey dto = listCacheKey other) :
    db.page deployment dto = db.page deployment other := by
  obtain ⟨number, limit, status⟩ := CacheKey.list.inj same
  have filters : listFilter deployment dto = listFilter deployment other := by
    unfold listFilter
    rw [status, dateless.1, dateless.2, too.1, too.2]
  unfold page pageResult
  rw [filters, number, limit]

/-- The answers depend on the accounts and the payments only. -/
theorem Answers.congr (answers : db.Answers deployment cache)
    (accounts : second.accounts = db.accounts)
    (transactions : second.transactions = db.transactions) :
    second.Answers deployment cache := by
  have pages : ∀ dto, second.page deployment dto = db.page deployment dto := by
    intro dto
    unfold page
    simp only [Query.eval, listed, transactions]
    congr 2
    funext row
    simp only [withAccounts, accounts]
  have totals : second.statusTotals = db.statusTotals := by
    unfold statusTotals
    rw [transactions]
  refine ⟨fun dto dateless page cached => ?_, fun stats cached => ?_, fun stats cached => ?_⟩
  · rw [pages]
    exact answers.pages dto dateless page cached
  · rw [totals]
    exact answers.counts stats cached
  · rw [totals]
    exact answers.volumes stats cached

/-- Dropping answers leaves the others right. -/
theorem Answers.drop (answers : db.Answers deployment cache)
    (drops : ∀ key : CacheKey, key.Answer → later key = cache key ∨ later key = none) :
    db.Answers deployment later := by
  have kept : ∀ (key : CacheKey) value, key.Answer → later key = some value →
      cache key = some value := by
    intro key value answer cached
    rcases drops key answer with same | gone
    · rw [← same, cached]
    · rw [gone] at cached
      cases cached
  refine ⟨fun dto dateless page cached => ?_, fun stats cached => ?_, fun stats cached => ?_⟩
  · exact answers.pages dto dateless page (kept _ _ trivial cached)
  · exact answers.counts stats (kept _ _ trivial cached)
  · exact answers.volumes stats (kept _ _ trivial cached)

/-- Storing the page of a listing. -/
theorem Answers.storePage (answers : db.Answers deployment cache) {dto : ListPaymentsDto}
    (dateless : Dateless dto) :
    db.Answers deployment (Function.update cache (listCacheKey dto)
      (some (.page (db.page deployment dto)))) := by
  refine ⟨fun other too page cached => ?_, fun stats cached => ?_, fun stats cached => ?_⟩
  · by_cases same : listCacheKey other = listCacheKey dto
    · rw [same, Function.update_self] at cached
      rw [page_of_key too dateless same]
      exact (CacheValue.page.inj (Option.some.inj cached)).symm
    · rw [Function.update_of_ne same] at cached
      exact answers.pages other too page cached
  · rw [Function.update_of_ne CacheKey.noConfusion] at cached
    exact answers.counts stats cached
  · rw [Function.update_of_ne CacheKey.noConfusion] at cached
    exact answers.volumes stats cached

/-- Storing statistics. -/
theorem Answers.storeStats (answers : db.Answers deployment cache) (stuckCount : Nat) :
    db.Answers deployment (Function.update cache .stats
      (some (.stats (statsResult db.statusTotals stuckCount)))) := by
  refine ⟨fun dto dateless page cached => ?_, fun stats cached => ?_, fun stats cached => ?_⟩
  · have differs : listCacheKey dto ≠ .stats := CacheKey.noConfusion
    rw [Function.update_of_ne differs] at cached
    exact answers.pages dto dateless page cached
  · rw [Function.update_self] at cached
    cases cached
    rfl
  · rw [Function.update_self] at cached
    cases cached
    rfl

end Database

/-! ## A change of one payment -/

/-- The row a patch of one payment makes of a row. -/
def TransactionPatch.at (patch : TransactionPatch) (id : TransactionId) (row : Transaction) :
    Transaction :=
  if row.id = id then patch.apply row else row

section Patch

variable {patch : TransactionPatch} {id : TransactionId}

theorem TransactionPatch.at_other {row : Transaction} (differs : row.id ≠ id) :
    patch.at id row = row := if_neg differs

theorem TransactionPatch.createdAt_at (row : Transaction) :
    (patch.at id row).createdAt = row.createdAt := by
  unfold TransactionPatch.at
  split <;> rfl

theorem TransactionPatch.sourceAmount_at (row : Transaction) :
    (patch.at id row).sourceAmount = row.sourceAmount := by
  unfold TransactionPatch.at
  split <;> rfl

/-- A patched payment stays in its place. -/
theorem rows_patchRow (id : TransactionId) (patch : TransactionPatch)
    (transactions : Table Transaction) :
    (patchRow transactions (id, patch)).rows = transactions.rows.map (patch.at id) := by
  unfold patchRow
  cases found : transactions.get? id with
  | none =>
      have absent := (transactions.get?_eq_none_iff id).mp found
      refine (List.map_id _).symm.trans (List.map_congr_left fun row member => ?_)
      exact (TransactionPatch.at_other (absent row member)).symm
  | some row =>
      obtain ⟨member, named⟩ := (transactions.get?_eq_some_iff id row).mp found
      have present : key (patch.apply row) ∈ transactions.rows.map key :=
        List.mem_map.mpr ⟨row, member, rfl⟩
      change Table.putRows transactions.rows (patch.apply row) = _
      unfold Table.putRows
      rw [if_pos present]
      refine List.map_congr_left fun old listed => ?_
      change (if old.id = row.id then patch.apply row else old) = patch.at id old
      change row.id = id at named
      unfold TransactionPatch.at
      by_cases same : old.id = row.id
      · have equal : old = row := transactions.eq_of_key_eq listed member same
        rw [if_pos same, if_pos (same.trans named), equal]
      · rw [if_neg same, if_neg fun wanted => same (wanted.trans named.symm)]

variable {db second : Database} {deployment : Deployment}

/-- A filter that selects the patched payment as it selected the payment lists the same
payments in the same order. -/
theorem listed_patch (rows : second.transactions.rows = db.transactions.rows.map (patch.at id))
    {filter : PaymentFilter} (selects : ∀ row ∈ db.transactions.rows, row.id = id →
      (filter.Selects (patch.apply row) ↔ filter.Selects row)) :
    second.listed filter = (db.listed filter).map (patch.at id) := by
  have chosen : ∀ row ∈ db.transactions.rows,
      decide (filter.Selects (patch.at id row)) = decide (filter.Selects row) := by
    intro row member
    unfold TransactionPatch.at
    by_cases same : row.id = id
    · rw [if_pos same]
      exact decide_eq_decide.mpr (selects row member same)
    · rw [if_neg same]
  unfold Database.listed
  have kept : (db.transactions.rows.filter
      ((fun row => decide (filter.Selects row)) ∘ patch.at id)) =
        db.transactions.rows.filter fun row => decide (filter.Selects row) :=
    List.filter_congr chosen
  rw [rows, List.filter_map, kept]
  symm
  refine List.map_insertionSort _ _ _ _ fun first _ other _ => ?_
  rw [TransactionPatch.createdAt_at, TransactionPatch.createdAt_at]

/-- A page that neither shows nor counts the change is still right. -/
theorem page_patch (rows : second.transactions.rows = db.transactions.rows.map (patch.at id))
    {dto : ListPaymentsDto} (selects : ∀ row ∈ db.transactions.rows, row.id = id →
      ((listFilter deployment dto).Selects (patch.apply row) ↔
        (listFilter deployment dto).Selects row))
    (unseen : ∀ listed ∈ (db.page deployment dto).data, listed.payment.id ≠ id ∧
      second.withAccounts listed.payment = listed) :
    second.page deployment dto = db.page deployment dto := by
  have same := listed_patch rows selects
  unfold Database.page
  simp only [Query.eval, same, List.length_map]
  congr 1
  rw [← List.map_drop, ← List.map_take, List.map_map]
  refine List.map_congr_left fun row member => ?_
  obtain ⟨differs, accounts⟩ := unseen (db.withAccounts row) (List.mem_map_of_mem member)
  have kept : patch.at id row = row := TransactionPatch.at_other differs
  rw [Function.comp_apply, kept]
  exact accounts

/-- Payments that keep their statuses keep the totals. -/
theorem statusTotals_patch
    (rows : second.transactions.rows = db.transactions.rows.map (patch.at id))
    (status : ∀ row ∈ db.transactions.rows, (patch.at id row).status = row.status) :
    second.statusTotals = db.statusTotals := by
  unfold Database.statusTotals Relational.groupBy
  rw [rows]
  have keys : (db.transactions.rows.map (patch.at id)).map Transaction.status =
      db.transactions.rows.map Transaction.status := by
    rw [List.map_map]
    exact List.map_congr_left status
  have groups : ∀ value, (db.transactions.rows.map (patch.at id)).filter
      (fun row => decide (row.status = value)) =
        (db.transactions.rows.filter fun row => decide (row.status = value)).map (patch.at id) := by
    intro value
    rw [List.filter_map]
    congr 1
    refine List.filter_congr fun row member => ?_
    rw [Function.comp_apply, status row member]
  rw [keys]
  simp only [List.map_map]
  refine List.map_congr_left fun value _ => ?_
  simp only [Function.comp_apply, groups, List.length_map, List.map_map]
  congr 4
  refine List.map_congr_left fun row _ => ?_
  rw [Function.comp_apply, TransactionPatch.sourceAmount_at]

/-- A change of one payment that no cached answer shows leaves the answers right. -/
theorem Database.Answers.patched {cache : CacheKey → Option CacheValue}
    (answers : db.Answers deployment cache)
    (rows : second.transactions.rows = db.transactions.rows.map (patch.at id))
    (pages : ∀ dto, Dateless dto → ∀ page, cache (listCacheKey dto) = some (.page page) →
      (∀ row ∈ db.transactions.rows, row.id = id →
        ((listFilter deployment dto).Selects (patch.apply row) ↔
          (listFilter deployment dto).Selects row)) ∧
      ∀ listed ∈ page.data, listed.payment.id ≠ id ∧
        second.accounts.get? listed.payment.senderAccountId =
          db.accounts.get? listed.payment.senderAccountId ∧
        second.accounts.get? listed.payment.recipientAccountId =
          db.accounts.get? listed.payment.recipientAccountId)
    (totals : ∀ stats, cache .stats = some (.stats stats) →
      second.statusTotals = db.statusTotals) : second.Answers deployment cache := by
  refine ⟨fun dto dateless page cached => ?_, fun stats cached => ?_, fun stats cached => ?_⟩
  · have right := answers.pages dto dateless page cached
    obtain ⟨selects, unseen⟩ := pages dto dateless page cached
    rw [right] at unseen ⊢
    refine (page_patch rows selects fun listed member => ?_).symm
    obtain ⟨differs, sender, recipient⟩ := unseen listed member
    refine ⟨differs, ?_⟩
    obtain ⟨row, _, rfl⟩ := List.mem_map.mp member
    unfold Database.withAccounts at sender recipient ⊢
    rw [sender, recipient]
  · rw [totals stats cached]
    exact answers.counts stats cached
  · rw [totals stats cached]
    exact answers.volumes stats cached

end Patch
end Payroute
