import Mathlib.Algebra.Order.BigOperators.Group.List
import Mathlib.Data.List.Perm.Subperm
import Payroute.Books.Dossier

/-! # Daily limits

The payments that count towards the limits of an account, and how they are compared
between two states of the tables: by the columns no update touches.
-/

namespace Payroute

open KeyedTable PaymentsService

/-- The payments are within the configured limits. -/
structure Deployment.Allows (deployment : Deployment) (rows : List Transaction) : Prop where
  count : rows.length ≤ deployment.maxPaymentsPerAccountPerDay
  volume : (rows.map Transaction.sourceAmount).sum ≤ deployment.maxDailyVolumePerAccount

/-- Where a payment takes the volume of the day over the limit, the comparison shows it. -/
def Deployment.ShowsExcess (deployment : Deployment) (volume amount : Int) : Prop :=
  deployment.maxDailyVolumePerAccount < volume + amount →
    deployment.arithmetic.Exceeds volume amount deployment.maxDailyVolumePerAccount

instance (deployment : Deployment) (volume amount : Int) :
    Decidable (deployment.ShowsExcess volume amount) :=
  inferInstanceAs (Decidable (_ → _))

/-- Exact sums show every excess. -/
theorem Deployment.showsExcess_decimals {deployment : Deployment}
    (exact : deployment.arithmetic = .decimals) (volume amount : Int) :
    deployment.ShowsExcess volume amount := by
  unfold ShowsExcess
  rw [exact]
  exact id

/-- Every payment of the list is, up to its status, one of the other. -/
def Within (rows bound : List Transaction) : Prop :=
  ∀ row ∈ rows, ∃ old ∈ bound, old.terms = row.terms

/-- No payment is listed twice. -/
def Distinct (rows : List Transaction) : Prop := (rows.map Transaction.terms).Nodup

section Lists

variable {rows bound : List Transaction}

/-- Different payments within a list are, in some order, a part of it. -/
theorem Distinct.subperm (distinct : Distinct rows) (within : Within rows bound) :
    (rows.map Transaction.terms).Subperm (bound.map Transaction.terms) := by
  apply List.Nodup.subperm distinct
  intro terms member
  obtain ⟨row, listed, same⟩ := List.mem_map.mp member
  obtain ⟨old, there, kept⟩ := within row listed
  rw [← same, ← kept]
  exact List.mem_map_of_mem there

/-- They are not more than the list has. -/
theorem Distinct.length_le (distinct : Distinct rows) (within : Within rows bound) :
    rows.length ≤ bound.length := by
  have lengths := (distinct.subperm within).length_le
  rw [List.length_map, List.length_map] at lengths
  exact lengths

/-- Their volume is at most that of the list. -/
theorem Distinct.volume_le (distinct : Distinct rows) (within : Within rows bound)
    (nonneg : ∀ old ∈ bound, 0 ≤ old.sourceAmount) :
    (rows.map Transaction.sourceAmount).sum ≤ (bound.map Transaction.sourceAmount).sum := by
  have amounts : ∀ listed : List Transaction,
      (listed.map Transaction.terms).map Transaction.sourceAmount =
        listed.map Transaction.sourceAmount := by
    intro listed
    rw [List.map_map]
    rfl
  obtain ⟨chosen, perm, sub⟩ := distinct.subperm within
  have perm := perm.map Transaction.sourceAmount
  have sub := sub.map Transaction.sourceAmount
  rw [amounts] at perm sub
  calc (rows.map Transaction.sourceAmount).sum
      = (chosen.map Transaction.sourceAmount).sum := perm.sum_eq.symm
    _ ≤ (bound.map Transaction.sourceAmount).sum := by
      apply sub.sum_le_sum
      intro amount member
      obtain ⟨old, listed, rfl⟩ := List.mem_map.mp member
      exact nonneg old listed

/-- Fewer payments are allowed as well. -/
theorem Deployment.Allows.within {deployment : Deployment} (allows : deployment.Allows bound)
    (distinct : Distinct rows) (within : Within rows bound)
    (nonneg : ∀ old ∈ bound, 0 ≤ old.sourceAmount) : deployment.Allows rows where
  count := (distinct.length_le within).trans allows.count
  volume := (distinct.volume_le within nonneg).trans allows.volume

/-- No payments are within any limits. -/
theorem Deployment.allows_nil (deployment : Deployment) : deployment.Allows [] :=
  ⟨Nat.zero_le _, Int.natCast_nonneg _⟩

/-- The payments leave room for one more. -/
structure Deployment.Admits (deployment : Deployment) (row : Transaction)
    (rows : List Transaction) : Prop where
  count : rows.length < deployment.maxPaymentsPerAccountPerDay
  volume : (rows.map Transaction.sourceAmount).sum + row.sourceAmount ≤
    deployment.maxDailyVolumePerAccount

instance (deployment : Deployment) (row : Transaction) (rows : List Transaction) :
    Decidable (deployment.Admits row rows) :=
  decidable_of_iff (_ ∧ _)
    ⟨fun both => ⟨both.1, both.2⟩, fun admits => ⟨admits.count, admits.volume⟩⟩

/-- A payment that was admitted beside others leaves them within the limits. -/
theorem Deployment.Admits.allows {deployment : Deployment} {row : Transaction}
    (admits : deployment.Admits row bound) : deployment.Allows (row :: bound) := by
  obtain ⟨count, volume⟩ := admits
  constructor
  · rw [List.length_cons]
    omega
  · rw [List.map_cons, List.sum_cons]
    omega

end Lists

namespace Database

variable {db first second : Database} {accountId : AccountId} {start later : Nat}

/-- What the query for the day's payments counts. -/
theorem mem_outgoing {row : Transaction} :
    row ∈ db.outgoing accountId start ↔ row ∈ db.transactions.rows ∧
      row.senderAccountId = accountId ∧ start ≤ row.createdAt ∧ row.status ∈ countedStatuses := by
  unfold outgoing
  rw [List.mem_filter, decide_eq_true_iff]

/-- It counts no payment twice. -/
theorem outgoing_distinct (db : Database) (accountId : AccountId) (start : Nat) :
    Distinct (db.outgoing accountId start) := by
  have named : ((db.transactions.rows.map Transaction.terms).map Transaction.id).Nodup := by
    rw [List.map_map]
    exact db.transactions.nodup
  exact (List.Nodup.of_map _ named).sublist (List.filter_sublist.map _)

/-- Without payments it counts none. -/
theorem outgoing_of_empty (empty : db.transactions.rows = []) (accountId : AccountId)
    (start : Nat) : db.outgoing accountId start = [] := by
  unfold outgoing
  rw [empty]
  rfl

/-- It depends on the books only. -/
theorem SameBooks.outgoing (same : first.SameBooks second) (accountId : AccountId) (start : Nat) :
    second.outgoing accountId start = first.outgoing accountId start := by
  unfold Database.outgoing
  rw [same.transactions]

/-- Every payment of the account in the second tables is one of the first, and counts
only if it did there. -/
def Includes (first second : Database) (accountId : AccountId) : Prop :=
  ∀ id row, second.transactions.get? id = some row → row.senderAccountId = accountId →
    ∃ old, first.transactions.get? id = some old ∧ old.terms = row.terms ∧
      (row.status ∈ countedStatuses → old.status ∈ countedStatuses)

/-- The tables include themselves. -/
theorem Includes.refl (db : Database) (accountId : AccountId) : db.Includes db accountId :=
  fun _ row found _ => ⟨row, found, rfl, id⟩

/-- Inclusion composes. -/
theorem Includes.trans {third : Database} (left : first.Includes second accountId)
    (right : second.Includes third accountId) : first.Includes third accountId := by
  intro id row found sender
  obtain ⟨middle, there, same, counted⟩ := right id row found sender
  have owner : middle.senderAccountId = accountId := by
    have columns : middle.terms.senderAccountId = row.terms.senderAccountId := by rw [same]
    exact columns.trans sender
  obtain ⟨old, before, kept, countedBefore⟩ := left id middle there owner
  exact ⟨old, before, kept.trans same, fun counts => countedBefore (counted counts)⟩

/-- Included tables have counted all that is counted from a later start. -/
theorem Includes.outgoing (includes : first.Includes second accountId) (earlier : start ≤ later) :
    Within (second.outgoing accountId later) (first.outgoing accountId start) := by
  intro row counted
  obtain ⟨member, sender, since, counts⟩ := mem_outgoing.mp counted
  obtain ⟨old, found, same, counted⟩ := includes row.id row (Table.get?_of_mem member) sender
  have columns : ∀ {α : Type} (field : Transaction → α),
      field old.terms = field row.terms := fun field => congrArg field same
  refine ⟨old, mem_outgoing.mpr ⟨Table.mem_of_get? found, ?_, ?_, counted counts⟩, same⟩
  · exact (columns Transaction.senderAccountId).trans sender
  · have created : old.createdAt = row.createdAt := columns Transaction.createdAt
    omega

/-! ## One day -/

/-- The sender's payments of the UTC day that began at `start` that count. -/
def outgoingOn (db : Database) (accountId : AccountId) (start : Nat) : List Transaction :=
  (db.outgoing accountId start).filter fun row => decide (startOfDay row.createdAt = start)

/-- What counts on one day. -/
theorem mem_outgoingOn {row : Transaction} :
    row ∈ db.outgoingOn accountId start ↔ row ∈ db.transactions.rows ∧
      row.senderAccountId = accountId ∧ row.status ∈ countedStatuses ∧
      startOfDay row.createdAt = start := by
  unfold outgoingOn
  rw [List.mem_filter, mem_outgoing, decide_eq_true_iff]
  constructor
  · rintro ⟨⟨member, sender, _, counts⟩, day⟩
    exact ⟨member, sender, counts, day⟩
  · rintro ⟨member, sender, counts, day⟩
    have since : startOfDay row.createdAt ≤ row.createdAt := Nat.div_mul_le_self _ _
    exact ⟨⟨member, sender, day ▸ since, counts⟩, day⟩

/-- The payments of the day are among those since it began. -/
theorem outgoing_of_outgoingOn {row : Transaction} (counted : row ∈ db.outgoingOn accountId start) :
    row ∈ db.outgoing accountId start :=
  List.mem_of_mem_filter counted

/-- No payment counts twice on it. -/
theorem outgoingOn_distinct (db : Database) (accountId : AccountId) (start : Nat) :
    Distinct (db.outgoingOn accountId start) :=
  (db.outgoing_distinct accountId start).sublist (List.filter_sublist.map _)

/-- The payments of a day depend on the books only. -/
theorem SameBooks.outgoingOn (same : first.SameBooks second) (accountId : AccountId) (start : Nat) :
    second.outgoingOn accountId start = first.outgoingOn accountId start := by
  unfold Database.outgoingOn
  rw [same.outgoing]

/-- Without payments there are none on any day. -/
theorem outgoingOn_of_empty (empty : db.transactions.rows = []) (accountId : AccountId)
    (start : Nat) : db.outgoingOn accountId start = [] := by
  unfold outgoingOn
  rw [outgoing_of_empty empty]
  rfl

/-- Included tables have counted all that counts on the day. -/
theorem Includes.outgoingOn (includes : first.Includes second accountId) :
    Within (second.outgoingOn accountId start) (first.outgoingOn accountId start) := by
  intro row counted
  obtain ⟨old, before, terms⟩ := includes.outgoing (Nat.le_refl start) row
    (outgoing_of_outgoingOn counted)
  obtain ⟨member, sender, _, counts⟩ := mem_outgoing.mp before
  have created : old.createdAt = row.createdAt := (congrArg Transaction.createdAt terms :)
  refine ⟨old, mem_outgoingOn.mpr ⟨member, sender, counts, ?_⟩, terms⟩
  rw [created]
  exact (mem_outgoingOn.mp counted).2.2.2

end Database
end Payroute
