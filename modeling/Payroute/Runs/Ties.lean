import Mathlib.Data.List.Forall2
import Payroute.Isolation.Contract

/-! # Tables that differ in event rows

Two runs of the same calls may keep different rows of webhook events: one run holds rows of
deliveries the other never saw, and the identifiers of all later rows are shifted. Ties
say which rows of the two stand for the same delivery. The tables are twins when every row
that is tied differs in its identifier and its notes only, and every row that is not may be
kept or purged but is never looked up again.
-/

namespace Payroute

open EffectSystem KeyedTable

/-! ## Ties -/

/-- Two event rows that stand for the same delivery in the short and in the full run. -/
structure Tie where
  short : Nat
  full : Nat
  key : ProviderReference × String

/-- The ties between two runs, and the next event identifier of each. -/
structure Ties where
  made : List Tie
  short : Nat
  full : Nat
  below : ∀ tie ∈ made, tie.short < short ∧ tie.full < full
  uniqueShort : ∀ tie ∈ made, ∀ other ∈ made, tie.short = other.short → tie = other
  uniqueFull : ∀ tie ∈ made, ∀ other ∈ made, tie.full = other.full → tie = other

namespace Ties

/-- Nothing is tied. -/
def untied (next : Nat) : Ties where
  made := []
  short := next
  full := next
  below := fun _ member => (List.not_mem_nil member).elim
  uniqueShort := fun _ member => (List.not_mem_nil member).elim
  uniqueFull := fun _ member => (List.not_mem_nil member).elim

variable (ties : Ties)

/-- Identifiers are handed out that nobody will look up. -/
def skip (short full : Nat) : Ties where
  made := ties.made
  short := ties.short + short
  full := ties.full + full
  below := fun tie member =>
    ⟨(ties.below tie member).1.trans_le (Nat.le_add_right _ _),
      (ties.below tie member).2.trans_le (Nat.le_add_right _ _)⟩
  uniqueShort := ties.uniqueShort
  uniqueFull := ties.uniqueFull

/-- The next identifiers are handed out to the same delivery. -/
def tie (key : ProviderReference × String) : Ties where
  made := ⟨ties.short, ties.full, key⟩ :: ties.made
  short := ties.short + 1
  full := ties.full + 1
  below := by
    intro tie member
    rcases List.mem_cons.mp member with rfl | old
    · exact ⟨Nat.lt_succ_self _, Nat.lt_succ_self _⟩
    · exact ⟨(ties.below tie old).1.trans (Nat.lt_succ_self _),
        (ties.below tie old).2.trans (Nat.lt_succ_self _)⟩
  uniqueShort := by
    intro tie member other present same
    rcases List.mem_cons.mp member with rfl | old <;>
      rcases List.mem_cons.mp present with rfl | known
    · rfl
    · exact ((ties.below other known).1.ne same.symm).elim
    · exact ((ties.below tie old).1.ne same).elim
    · exact ties.uniqueShort tie old other known same
  uniqueFull := by
    intro tie member other present same
    rcases List.mem_cons.mp member with rfl | old <;>
      rcases List.mem_cons.mp present with rfl | known
    · rfl
    · exact ((ties.below other known).2.ne same.symm).elim
    · exact ((ties.below tie old).2.ne same).elim
    · exact ties.uniqueFull tie old other known same

/-- An identifier of the short run that is handed out and will not be looked up. -/
def ShortLoose (id : Nat) : Prop := id < ties.short ∧ ∀ tie ∈ ties.made, tie.short ≠ id

/-- The same in the full run. -/
def FullLoose (id : Nat) : Prop := id < ties.full ∧ ∀ tie ∈ ties.made, tie.full ≠ id

/-- Ties are only added, between new identifiers. -/
structure Grows (first last : Ties) : Prop where
  made : ∀ tie ∈ first.made, tie ∈ last.made
  short : first.short ≤ last.short
  full : first.full ≤ last.full
  fresh : ∀ tie ∈ last.made, tie ∈ first.made ∨ first.short ≤ tie.short ∧ first.full ≤ tie.full

variable {ties} {later : Ties} {id : Nat}

/-- Ties grow by nothing. -/
theorem Grows.refl (ties : Ties) : ties.Grows ties :=
  ⟨fun _ member => member, Nat.le_refl _, Nat.le_refl _, fun _ member => .inl member⟩

/-- They grow by identifiers that one side alone has handed out. -/
theorem grows_skip (ties : Ties) (short full : Nat) : ties.Grows (ties.skip short full) :=
  ⟨fun _ member => member, Nat.le_add_right _ _, Nat.le_add_right _ _,
    fun _ member => .inl member⟩

/-- They grow by a pair of identifiers. -/
theorem grows_tie (ties : Ties) (key : ProviderReference × String) :
    ties.Grows (ties.tie key) where
  made := fun _ member => List.mem_cons_of_mem _ member
  short := Nat.le_succ _
  full := Nat.le_succ _
  fresh := by
    intro tie member
    rcases List.mem_cons.mp member with rfl | old
    · exact .inr ⟨Nat.le_refl _, Nat.le_refl _⟩
    · exact .inl old

/-- An identifier that is loose on the short side stays so. -/
theorem ShortLoose.grow (loose : ties.ShortLoose id) (grows : ties.Grows later) :
    later.ShortLoose id := by
  refine ⟨loose.1.trans_le grows.short, fun tie member => ?_⟩
  rcases grows.fresh tie member with old | ⟨new, _⟩
  · exact loose.2 tie old
  · exact (loose.1.trans_le new).ne'

/-- So does one on the full side. -/
theorem FullLoose.grow (loose : ties.FullLoose id) (grows : ties.Grows later) :
    later.FullLoose id := by
  refine ⟨loose.1.trans_le grows.full, fun tie member => ?_⟩
  rcases grows.fresh tie member with old | ⟨_, new⟩
  · exact loose.2 tie old
  · exact (loose.1.trans_le new).ne'

/-- One that was skipped on the short side is loose. -/
theorem shortLoose_skip (ties : Ties) (full : Nat) : (ties.skip 1 full).ShortLoose ties.short :=
  ⟨Nat.lt_succ_self _, fun tie member => (ties.below tie member).1.ne⟩

/-- So is one that was skipped on the full side. -/
theorem fullLoose_skip (ties : Ties) (short : Nat) : (ties.skip short 1).FullLoose ties.full :=
  ⟨Nat.lt_succ_self _, fun tie member => (ties.below tie member).2.ne⟩

end Ties

/-! ## Event rows -/

/-- Two event rows that are purged at the same time. -/
def WebhookEvent.SameAge (row image : WebhookEvent) : Prop :=
  ∀ cutoff, row.Expired cutoff ↔ image.Expired cutoff

/-- What the two runs keep under a key: nothing, a row that only the full run knows and that
is never purged, rows nobody will look up, or rows of the same delivery. -/
inductive Slot (ties : Ties) (key : ProviderReference × String) :
    Option WebhookEvent → Option WebhookEvent → Prop
  | vacant : Slot ties key none none
  | intruded {image : WebhookEvent} (loose : ties.FullLoose image.id)
      (pending : image.processed = false) : Slot ties key none (some image)
  | loose {row image : WebhookEvent} (short : ties.ShortLoose row.id)
      (full : ties.FullLoose image.id) (age : row.SameAge image) :
      Slot ties key (some row) (some image)
  | tied {row image : WebhookEvent} (tied : ⟨row.id, image.id, key⟩ ∈ ties.made)
      (processed : image.processed = row.processed) (received : image.receivedAt = row.receivedAt) :
      Slot ties key (some row) (some image)

namespace Slot

variable {ties later : Ties} {key : ProviderReference × String}
  {row image : WebhookEvent} {first second : Option WebhookEvent}

/-- A slot stays one when the ties grow. -/
theorem grow (slot : Slot ties key first second) (grows : ties.Grows later) :
    Slot later key first second := by
  cases slot with
  | vacant => exact .vacant
  | intruded loose pending => exact .intruded (loose.grow grows) pending
  | loose short full age => exact .loose (short.grow grows) (full.grow grows) age
  | tied tied processed received => exact .tied (grows.made _ tied) processed received

/-- A pending event does not expire. -/
theorem expired_of_pending {cutoff : Nat} (pending : row.processed = false) :
    ¬ row.Expired cutoff := by
  rintro ⟨processed, _⟩
  rw [pending] at processed
  cases processed

/-- Two pending events are of the same age. -/
theorem sameAge_of_pending (first : row.processed = false) (second : image.processed = false) :
    row.SameAge image := fun _ =>
  ⟨fun expired => (expired_of_pending first expired).elim,
    fun expired => (expired_of_pending second expired).elim⟩

/-- So are two that were received at the same time. -/
theorem sameAge_of_eq (processed : image.processed = row.processed)
    (received : image.receivedAt = row.receivedAt) : row.SameAge image := by
  intro cutoff
  unfold WebhookEvent.Expired
  rw [processed, received]

/-- A purge takes rows of both runs. -/
theorem purge (slot : Slot ties key first second) (cutoff : Nat) :
    Slot ties key (first.filter fun event => !decide (event.Expired cutoff))
      (second.filter fun event => !decide (event.Expired cutoff)) := by
  have together : ∀ row image : WebhookEvent, row.SameAge image →
      Slot ties key (some row) (some image) →
      Slot ties key ((some row).filter fun event => !decide (event.Expired cutoff))
        ((some image).filter fun event => !decide (event.Expired cutoff)) := by
    intro row image age kept
    by_cases expired : row.Expired cutoff
    · rw [Option.filter_some_neg (by simpa using expired),
        Option.filter_some_neg (by simpa using (age cutoff).mp expired)]
      exact .vacant
    · rw [Option.filter_some_pos (by simpa using expired),
        Option.filter_some_pos (by simpa using fun gone => expired ((age cutoff).mpr gone))]
      exact kept
  cases slot with
  | vacant => exact .vacant
  | intruded loose pending =>
      rw [Option.filter_none,
        Option.filter_some_pos (by simpa using expired_of_pending pending)]
      exact .intruded loose pending
  | loose short full age => exact together _ _ age (.loose short full age)
  | tied tied processed received =>
      exact together _ _ (sameAge_of_eq processed received) (.tied tied processed received)

/-- A note on a row of one run. -/
theorem note_short (slot : Slot ties key (some row) second) {patch : WebhookEventPatch}
    (silent : patch.processedAt = none) : Slot ties key (some (patch.apply row)) second := by
  have processed : (patch.apply row).processed = row.processed := by
    unfold WebhookEventPatch.apply
    rw [silent]
    rfl
  cases slot with
  | loose short full age =>
      refine .loose short full fun cutoff => ?_
      rw [← age cutoff]
      unfold WebhookEvent.Expired
      rw [processed]
      rfl
  | tied tied same received => exact .tied tied (same.trans processed.symm) received

/-- A note on the full side's event keeps the slot. -/
theorem note_full (slot : Slot ties key first (some image)) {patch : WebhookEventPatch}
    (silent : patch.processedAt = none) : Slot ties key first (some (patch.apply image)) := by
  have processed : (patch.apply image).processed = image.processed := by
    unfold WebhookEventPatch.apply
    rw [silent]
    rfl
  cases slot with
  | intruded loose pending => exact .intruded loose (processed.trans pending)
  | loose short full age =>
      refine .loose short full fun cutoff => ?_
      rw [age cutoff]
      unfold WebhookEvent.Expired
      rw [processed]
      rfl
  | tied tied same received => exact .tied tied (processed.trans same) received

end Slot

/-! ## Tables -/

/-- The tables differ in event rows only, and these are related key by key. -/
structure Database.Twins (ties : Ties) (first second : Database) : Prop where
  rest : { first with webhookEvents := second.webhookEvents } = second
  slots : ∀ key, Slot ties key (first.webhookEvents.get? key) (second.webhookEvents.get? key)

/-- The same row version, or versions of two tied event rows. -/
inductive Write.Twins (ties : Ties) : Write → Write → Prop
  | same {version : Write} (other : ∀ row, version ≠ .event row) : Write.Twins ties version version
  | event {row image : WebhookEvent} (tied : ⟨row.id, image.id, KeyedTable.key row⟩ ∈ ties.made)
      (named : KeyedTable.key image = KeyedTable.key row)
      (processed : image.processed = row.processed) (received : image.receivedAt = row.receivedAt) :
      Write.Twins ties (.event row) (.event image)

section Tables

variable {ties later : Ties} {first second : Database}

/-- Twin versions stay twins when the ties grow. -/
theorem Write.Twins.grow {version image : Write} (twins : version.Twins ties image)
    (grows : ties.Grows later) : version.Twins later image := by
  cases twins with
  | same other => exact .same other
  | event tied named processed received => exact .event (grows.made _ tied) named processed received

namespace Database.Twins

/-- So do twin tables. -/
theorem grow (twins : first.Twins ties second) (grows : ties.Grows later) :
    first.Twins later second :=
  ⟨twins.rest, fun key => (twins.slots key).grow grows⟩

/-- Twin tables have the same accounts. -/
theorem accounts (twins : first.Twins ties second) : second.accounts = first.accounts := by
  rw [← twins.rest]

/-- They have the same payments. -/
theorem transactions (twins : first.Twins ties second) :
    second.transactions = first.transactions := by
  rw [← twins.rest]

/-- They have the same books. -/
theorem sameBooks (twins : first.Twins ties second) : first.SameBooks second := by
  rw [← twins.rest]
  exact ⟨rfl, rfl, rfl, rfl⟩

/-- They have the same version of each row that is locked. -/
theorem rowAt (twins : first.Twins ties second) (row : RowId) :
    second.rowAt row = first.rowAt row := by
  cases row with
  | account id =>
      unfold Database.rowAt
      rw [twins.accounts]
  | transaction id =>
      unfold Database.rowAt
      rw [twins.transactions]

/-- Both runs write an event row under the key. -/
theorem put (twins : first.Twins ties second) {row image : WebhookEvent}
    (named : key image = key row) (slot : Slot ties (key row) (some row) (some image)) :
    (first.write (.event row)).Twins ties (second.write (.event image)) := by
  refine ⟨?_, fun wanted => ?_⟩
  · simp only [Database.write]
    rw [← twins.rest]
  · simp only [Database.write, Table.get?_put, named]
    by_cases same : wanted = key row
    · rw [if_pos same, if_pos same, same]
      exact slot
    · rw [if_neg same, if_neg same]
      exact twins.slots wanted

/-- Only the short run writes an event row. -/
theorem put_short (twins : first.Twins ties second) {row : WebhookEvent}
    (slot : Slot ties (key row) (some row) (second.webhookEvents.get? (key row))) :
    (first.write (.event row)).Twins ties second := by
  refine ⟨?_, fun wanted => ?_⟩
  · exact twins.rest
  · simp only [Database.write, Table.get?_put]
    by_cases same : wanted = key row
    · rw [if_pos same, same]
      exact slot
    · rw [if_neg same]
      exact twins.slots wanted

/-- Only the full run writes an event row. -/
theorem put_full (twins : first.Twins ties second) {image : WebhookEvent}
    (slot : Slot ties (key image) (first.webhookEvents.get? (key image)) (some image)) :
    first.Twins ties (second.write (.event image)) := by
  refine ⟨?_, fun wanted => ?_⟩
  · simp only [Database.write]
    rw [← twins.rest]
  · simp only [Database.write, Table.get?_put]
    by_cases same : wanted = key image
    · rw [if_pos same, same]
      exact slot
    · rw [if_neg same]
      exact twins.slots wanted

/-- Twin versions keep tables twins. -/
theorem write (twins : first.Twins ties second) {version image : Write}
    (writes : version.Twins ties image) :
    (first.write version).Twins ties (second.write image) := by
  cases writes with
  | same other =>
      cases version with
      | event row => exact (other row rfl).elim
      | purgeEvents cutoff =>
          refine ⟨?_, fun key => ?_⟩
          · simp only [Database.write]
            rw [← twins.rest]
          · simp only [Database.write, Table.get?_filter]
            exact (twins.slots key).purge cutoff
      | account _ | transaction _ | quote _ | entry _ | history _ | key _ | purgeKeys _ =>
          refine ⟨?_, twins.slots⟩
          simp only [Database.write]
          rw [← twins.rest]
  | event tied named processed received =>
      exact twins.put named (.tied tied processed received)

/-- So do twin logs. -/
theorem replay (twins : first.Twins ties second) {log image : List Write}
    (writes : List.Forall₂ (Write.Twins ties) log image) :
    (first.replay log).Twins ties (second.replay image) := by
  induction writes generalizing first second with
  | nil => exact twins
  | cons write _ ih => exact ih (twins.write write)

/-! ### Looking up event rows -/

/-- An event found by its identifier is stored under its key. -/
theorem of_eventById {db : Database} {id : Nat} {row : WebhookEvent}
    (found : db.eventById id = some row) :
    row.id = id ∧ db.webhookEvents.get? (key row) = some row :=
  ⟨of_decide_eq_true (List.find?_some found :),
    Table.get?_of_mem (List.mem_of_find?_eq_some found)⟩

/-- A stored event is found by its identifier. -/
theorem exists_eventById {db : Database} {wanted : ProviderReference × String} {row : WebhookEvent}
    (stored : db.webhookEvents.get? wanted = some row) :
    ∃ found, db.eventById row.id = some found := by
  refine Option.isSome_iff_exists.mp (List.find?_isSome.mpr ⟨row, Table.mem_of_get? stored, ?_⟩)
  exact decide_eq_true rfl

variable {tie : Tie} {row image : WebhookEvent}

/-- The row of a tie in the short run has its counterpart. -/
theorem of_short (twins : first.Twins ties second) (made : tie ∈ ties.made)
    (found : first.eventById tie.short = some row) :
    ∃ image, second.webhookEvents.get? (key row) = some image ∧
      tie = ⟨row.id, image.id, key row⟩ ∧ image.processed = row.processed ∧
      image.receivedAt = row.receivedAt := by
  obtain ⟨named, stored⟩ := of_eventById found
  have slot := twins.slots (key row)
  rw [stored] at slot
  generalize second.webhookEvents.get? (key row) = kept at slot ⊢
  cases slot with
  | loose short full age => exact (short.2 tie made named.symm).elim
  | tied tied processed received =>
      exact ⟨_, rfl, ties.uniqueShort tie made _ tied named.symm, processed, received⟩

/-- So does the one in the full run. -/
theorem of_full (twins : first.Twins ties second) (made : tie ∈ ties.made)
    (found : second.eventById tie.full = some image) :
    ∃ row, first.webhookEvents.get? (key image) = some row ∧
      tie = ⟨row.id, image.id, key image⟩ := by
  obtain ⟨named, stored⟩ := of_eventById found
  have slot := twins.slots (key image)
  rw [stored] at slot
  generalize first.webhookEvents.get? (key image) = kept at slot ⊢
  cases slot with
  | intruded loose pending => exact (loose.2 tie made named.symm).elim
  | loose short full age => exact (full.2 tie made named.symm).elim
  | tied tied processed received =>
      exact ⟨_, rfl, ties.uniqueFull tie made _ tied named.symm⟩

/-- Looking up the two identifiers of a tie finds the rows of one delivery, or nothing. -/
theorem eventById (twins : first.Twins ties second) (made : tie ∈ ties.made) :
    first.eventById tie.short = none ∧ second.eventById tie.full = none ∨
      ∃ row image, first.eventById tie.short = some row ∧
        second.eventById tie.full = some image ∧ tie = ⟨row.id, image.id, key row⟩ ∧
        key image = key row ∧ image.processed = row.processed ∧
        image.receivedAt = row.receivedAt := by
  cases found : first.eventById tie.short with
  | some row =>
      obtain ⟨image, stored, shape, processed, received⟩ := twins.of_short made found
      have named : key image = key row := Table.key_of_get? stored
      obtain ⟨other, there⟩ := exists_eventById stored
      have looked : second.eventById tie.full = some other := by
        rw [shape]
        exact there
      obtain ⟨_, _, again⟩ := twins.of_full made looked
      have same : key other = key row := by
        rw [shape] at again
        exact (congrArg Tie.key again).symm
      have stands := (of_eventById there).2
      rw [same, stored] at stands
      cases stands
      exact .inr ⟨row, image, rfl, looked, shape, named, processed, received⟩
  | none =>
      refine .inl ⟨rfl, ?_⟩
      cases looked : second.eventById tie.full with
      | none => rfl
      | some image =>
          obtain ⟨row, stored, shape⟩ := twins.of_full made looked
          obtain ⟨other, there⟩ := exists_eventById stored
          rw [shape] at found
          rw [there] at found
          cases found

end Database.Twins
end Tables
end Payroute
