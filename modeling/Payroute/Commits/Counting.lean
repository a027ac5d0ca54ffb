import Payroute.Books.Balances
import Payroute.Books.Limits
import Payroute.Commits.Refinement

/-! # Commits and the payments that count

A commit either opens a payment, or every payment goes on with its terms and counts
towards the limits of its sender only if it did before or was disputed.
-/

namespace Payroute

open KeyedTable PaymentsService

variable {setting : Setting} {deployment : Deployment} {first second : Database}

/-- The ways in which a payment that does not count may become completed. -/
def Command.Restores (setting : Setting) (deployment : Deployment) (first : Database)
    (row : Transaction) : Command → Prop
  | .processWebhook payload rawBody signature =>
      row.status = .disputed ∧ payload.status = "completed" ∧
      WebhooksService.verifySignature deployment rawBody signature = true ∧
      setting.LooksUp payload.reference (some row) first ∧
      ∃ patch events, setting.Marks payload patch first events
  | .resolveDispute id dto => dto.action = .reject ∧ row.id = id ∧
      ∃ checked, setting.Read first id checked ∧
        checked.status.Allows TransactionStatus.completed.text
  | _ => False

/-- How a payment of the second tables came from one of the first. -/
structure Command.Carries (setting : Setting) (deployment : Deployment) (command : Command)
    (first : Database) (old row : Transaction) : Prop where
  terms : old.terms = row.terms
  counts : row.status ∈ Database.countedStatuses → old.status ∈ Database.countedStatuses ∨
    command.Restores setting deployment first old
  disputes : row.status = .disputed → old.status = .disputed ∨
    ∃ id dto, command = .raiseDispute id dto

/-- All payments of the second tables came from the first. -/
def Command.CarriesAll (setting : Setting) (deployment : Deployment) (command : Command)
    (first second : Database) : Prop :=
  ∀ id row, second.transactions.get? id = some row →
    ∃ old, first.transactions.get? id = some old ∧
      command.Carries setting deployment first old row

theorem Command.Carries.refl (command : Command) (row : Transaction) :
    command.Carries setting deployment first row row :=
  ⟨rfl, fun counts => .inl counts, fun disputed => .inl disputed⟩

theorem Database.SameBooks.carries (same : first.SameBooks second) (command : Command) :
    command.CarriesAll setting deployment first second := by
  intro id row found
  rw [same.transactions] at found
  exact ⟨row, found, .refl command row⟩

/-- A settlement carries the other payments as they are. -/
theorem Settlement.carries {command : Command} (settlement : Settlement)
    (own : ∀ row, first.transactions.get? settlement.id = some row →
      command.Carries setting deployment first row
        (settlement.patches.foldl (fun row patch => patch.apply row) row)) :
    command.CarriesAll setting deployment first (settlement.apply first) := by
  intro id row found
  rw [Settlement.get?_apply] at found
  by_cases same : id = settlement.id
  · rw [if_pos same, same] at found
    obtain ⟨old, before, rfl⟩ := Option.map_eq_some_iff.mp found
    rw [same]
    exact ⟨old, before, own old before⟩
  · rw [if_neg same] at found
    exact ⟨row, found, .refl command row⟩

/-- A settlement that ends a payment. -/
theorem Settlement.carries_ended {command : Command} (settlement : Settlement)
    {status : TransactionStatus}
    (patched : ∀ row : Transaction,
      (settlement.patches.foldl (fun row patch => patch.apply row) row).status = status)
    (ended : status = .failed ∨ status = .reversed) :
    command.CarriesAll setting deployment first (settlement.apply first) := by
  refine settlement.carries fun row _ => ⟨(TransactionPatch.terms_applyAll _ row).symm, ?_, ?_⟩
  · rw [patched row]
    rcases ended with rfl | rfl
    · exact fun counted => absurd counted (by decide)
    · exact fun counted => absurd counted (by decide)
  · rw [patched row]
    rcases ended with rfl | rfl
    · exact fun disputed => by cases disputed
    · exact fun disputed => by cases disputed

theorem counted_processing : TransactionStatus.processing ∈ Database.countedStatuses := by decide

theorem Delivers.carries {payload : WebhookPayloadDto} {rawBody : List UInt8} {signature : String}
    (delivers : Delivers setting deployment payload rawBody signature first second) :
    (Command.processWebhook payload rawBody signature).CarriesAll setting deployment
      first second := by
  obtain ⟨signed, row, entries, patches, events, _, _, marks, looks, found, allowed, settles,
    rfl⟩ :=
    delivers
  unfold DeliverySettles at settles
  by_cases completed : payload.status = "completed"
  · rw [if_pos completed] at settles
    obtain ⟨_, _, _, _, rfl⟩ := settles
    refine Settlement.carries _ fun old before =>
      ⟨rfl, fun _ => ?_, fun disputed => by cases disputed⟩
    cases found.symm.trans before
    rcases allows_completed (completed ▸ allowed) with processing | disputed
    · rw [processing]
      exact .inl counted_processing
    · exact .inr ⟨disputed, completed, signed, looks, _, _, marks⟩
  · rw [if_neg completed] at settles
    by_cases failed : payload.status = "failed"
    · rw [if_pos failed] at settles
      obtain ⟨_, rfl⟩ := settles
      exact Settlement.carries_ended _ (fun _ => rfl) (.inl rfl)
    · rw [if_neg failed] at settles
      obtain ⟨_, rfl⟩ := settles
      exact Settlement.carries _ fun old _ => .refl _ old

/-- What a commit leaves of the payments. -/
theorem Command.Commits.carries {command : Command}
    (commits : command.Commits setting deployment first second) :
    command.CarriesAll setting deployment first second ∨
      ∃ dto row, Creates setting dto row first second ∧
        Checked setting deployment dto row first := by
  cases command with
  | createPayment dto idempotencyKey =>
      obtain ⟨row, creates, checked⟩ := commits
      exact .inr ⟨dto, row, creates, checked⟩
  | process data =>
      obtain ⟨_, reference, _, _, _, rfl⟩ := commits
      exact .inl (Settlement.carries _ fun old _ =>
        ⟨rfl, fun counts => .inl counts, fun disputed => .inl disputed⟩)
  | processWebhook payload rawBody signature =>
      rcases commits with misses | delivers
      · exact .inl (misses.books.carries _)
      · exact .inl delivers.carries
  | onProviderJobExhausted jobId failedReason =>
      obtain ⟨id, row, entries, _, _, _, _, _, rfl⟩ := commits
      exact .inl (Settlement.carries_ended _ (fun _ => rfl) (.inl rfl))
  | refundPayment id dto =>
      obtain ⟨row, entries, _, _, _, _, _, rfl⟩ := commits
      exact .inl (Settlement.carries_ended _ (fun _ => rfl) (.inr rfl))
  | raiseDispute id dto =>
      obtain ⟨row, _, _, _, _, _, _, rfl⟩ := commits
      have uncounted : TransactionStatus.disputed ∉ Database.countedStatuses := by decide
      exact .inl (Settlement.carries _ fun old _ =>
        ⟨rfl, fun counted => (uncounted counted).elim, fun _ => .inr ⟨id, dto, rfl⟩⟩)
  | resolveDispute id dto =>
      obtain ⟨action⟩ := dto
      cases action with
      | reverse =>
          obtain ⟨row, entries, _, _, _, _, _, rfl⟩ := commits
          exact .inl (Settlement.carries_ended _ (fun _ => rfl) (.inr rfl))
      | reject =>
          obtain ⟨row, checked, _, _, read, allowed, _, rfl⟩ := commits
          exact .inl (Settlement.carries _ fun old before =>
            ⟨rfl, fun _ => .inr ⟨rfl, Table.key_of_get? before, checked, read, allowed⟩,
              fun disputed => by cases disputed⟩)
  | retryStuckPayments => exact commits.elim
  | cleanupExpiredIdempotencyKeys => exact commits.elim
  | cleanupOldProcessedWebhookEvents => exact commits.elim

/-- No payment has a negative amount. -/
def Database.Nonnegative (db : Database) : Prop :=
  ∀ row ∈ db.transactions.rows, 0 ≤ row.sourceAmount

theorem Database.nonnegative_of_empty {db : Database} (empty : db.transactions.rows = []) :
    db.Nonnegative := by
  intro row member
  rw [empty] at member
  cases member

theorem Database.Nonnegative.sameBooks (nonneg : first.Nonnegative)
    (same : first.SameBooks second) :
    second.Nonnegative := by
  unfold Database.Nonnegative
  rw [same.transactions]
  exact nonneg

/-- Balances change with their versions. -/
theorem Changes.versions (changes : Changes) {id : AccountId} {account : Account}
    (found : first.accounts.get? id = some account) :
    ∃ later, (changes.apply first).accounts.get? id = some later ∧
      account.version ≤ later.version := by
  obtain ⟨rounds, step⟩ := get?_adjustAll changes.adjustments first.accounts id
  rw [found, Option.map_some] at step
  exact ⟨_, step, Nat.le_add_right _ _⟩

section Creates

variable {dto : CreatePaymentDto} {row : Transaction}

/-- A new payment changes the account of its sender. -/
theorem Creates.account (creates : Creates setting dto row first second) {account : Account}
    (found : first.accounts.get? dto.senderAccountId = some account) :
    second.accounts.get? dto.senderAccountId = some (account.bump (-dto.amount)) := by
  obtain ⟨quote, entry, opened, reserved, _, _, _, _, _, _, _, _, _, _, _, _, _, terms, rfl⟩ :=
    creates
  have named : entry.accountId = dto.senderAccountId := congrArg EntryTerms.accountId terms
  have amount : entry.amount = -dto.amount := congrArg EntryTerms.amount terms
  change (adjust first.accounts (entry.accountId, entry.amount)).get? dto.senderAccountId = _
  rw [get?_adjust, if_pos named.symm, found, Option.map_some, amount]

/-- The rows after a payment was opened. -/
theorem Creates.rows (creates : Creates setting dto row first second) (id : TransactionId) :
    second.transactions.get? id =
      if id = row.id then some { row with status := .processing }
      else first.transactions.get? id := by
  obtain ⟨quote, entry, opened, reserved, _, _, _, _, _, _, _, _, _, _, _, _, _, _, rfl⟩ := creates
  exact get?_opening first quote row entry opened reserved id

theorem Creates.sender (creates : Creates setting dto row first second) :
    row.senderAccountId = dto.senderAccountId ∧ row.sourceAmount = dto.amount := by
  obtain ⟨_, _, _, _, _, _, _, _, sender, _, _, _, amount, _⟩ := creates
  exact ⟨sender, amount⟩

/-- The checked limits leave room for the payment where the check shows every excess. -/
theorem Limited.admits {start : Nat} {seen : Database} (limited : Limited deployment dto start seen)
    (amount : row.sourceAmount = dto.amount)
    (shows : deployment.ShowsExcess
      ((seen.outgoing dto.senderAccountId start).map Transaction.sourceAmount).sum dto.amount) :
    deployment.Admits row (seen.outgoing dto.senderAccountId start) where
  count := limited.count
  volume := by
    rw [amount]
    by_contra exceeds
    exact limited.volume (shows (not_le.mp exceeds))

theorem Creates.denominates (creates : Creates setting dto row first second) :
    first.Denominates dto.senderAccountId dto.sourceCurrency := by
  obtain ⟨_, _, _, _, _, _, _, _, _, _, _, _, _, _, _, _, currency, _⟩ := creates
  exact currency

/-- What counts after a payment was opened. -/
theorem Creates.within (creates : Creates setting dto row first second) {other : Transaction}
    (member : other ∈ second.transactions.rows) :
    other = { row with status := .processing } ∨ other ∈ first.transactions.rows := by
  have found := Table.get?_of_mem member
  rw [creates.rows] at found
  split at found
  · exact .inl (Option.some.inj found).symm
  · exact .inr (Table.mem_of_get? found)

/-- A new payment that the limits of its day admit beside all that counts keeps its sender
within the limits of every day. -/
theorem Creates.allows {seen : Database} (creates : Creates setting dto row first second)
    (admits : deployment.Admits row
      (seen.outgoing dto.senderAccountId (startOfDay row.createdAt)))
    (includes : seen.Includes first dto.senderAccountId) (begun : seen.Nonnegative)
    (nonneg : first.Nonnegative) {accountId : AccountId} {start : Nat}
    (allows : deployment.Allows (first.outgoingOn accountId start)) :
    deployment.Allows (second.outgoingOn accountId start) := by
  have distinct := second.outgoingOn_distinct accountId start
  by_cases today : accountId = dto.senderAccountId ∧ start = startOfDay row.createdAt
  · obtain ⟨rfl, rfl⟩ := today
    refine admits.allows.within distinct ?_ ?_
    · intro other counted
      obtain ⟨member, sender, counts, day⟩ := Database.mem_outgoingOn.mp counted
      rcases creates.within member with rfl | old
      · exact ⟨row, List.mem_cons_self, rfl⟩
      · obtain ⟨before, listed, kept⟩ := includes.outgoingOn other
          (Database.mem_outgoingOn.mpr ⟨old, sender, counts, day⟩)
        exact ⟨before, List.mem_cons_of_mem _ (Database.outgoing_of_outgoingOn listed), kept⟩
    · intro old member
      rcases List.mem_cons.mp member with rfl | counted
      · exact Int.le_of_lt creates.positive
      · exact begun old (Database.mem_outgoing.mp counted).1
  · refine allows.within distinct (fun other counted => ?_) fun old counted =>
      nonneg old (Database.mem_outgoingOn.mp counted).1
    obtain ⟨member, sender, counts, day⟩ := Database.mem_outgoingOn.mp counted
    rcases creates.within member with rfl | old
    · exact (today ⟨sender.symm.trans creates.sender.1, day.symm⟩).elim
    · exact ⟨other, Database.mem_outgoingOn.mpr ⟨old, sender, counts, day⟩, rfl⟩

end Creates

theorem Command.Commits.nonnegative {command : Command}
    (commits : command.Commits setting deployment first second) (nonneg : first.Nonnegative) :
    second.Nonnegative := by
  intro row member
  rcases commits.carries with carries | ⟨dto, opened, creates, _⟩
  · obtain ⟨old, before, carried⟩ := carries row.id row (Table.get?_of_mem member)
    have amount : old.sourceAmount = row.sourceAmount :=
      (congrArg Transaction.sourceAmount carried.terms :)
    rw [← amount]
    exact nonneg old (Table.mem_of_get? before)
  · rcases creates.within member with rfl | old
    · exact Int.le_of_lt creates.positive
    · exact nonneg row old

end Payroute
