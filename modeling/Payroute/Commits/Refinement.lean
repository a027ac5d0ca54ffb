import Payroute.Books.Evolution

/-! # Each commit refines the lifecycle

The hypotheses name the two places where a commit of the services may leave the
lifecycle: a refund of a disputed payment, and a dispute rejected for a payment
that is not disputed.
-/

namespace Payroute

open KeyedTable

variable {setting : Setting} {strict : Prop} {reaches : TransactionStatus → Prop}
  {id : TransactionId} {first second : Database}

namespace Database

variable {db : Database} {old : Dossier}

/-- The mark of a reversal is on one of the payment's postings. -/
theorem hasReversal_iff (found : db.dossier id = some old) :
    db.HasReversal id ↔ ∃ posting ∈ old.postings, posting.isReversal = true := by
  obtain ⟨_, entries, _⟩ := get?_of_dossier found
  unfold HasReversal Dossier.postings
  rw [entries]
  constructor
  · rintro ⟨entry, member, marked⟩
    exact ⟨entry.posting, List.mem_map_of_mem member, marked⟩
  · rintro ⟨posting, member, marked⟩
    obtain ⟨entry, there, rfl⟩ := List.mem_map.mp member
    exact ⟨entry, there, marked⟩

/-- The debits a compensation reverses, as postings. -/
theorem originalDebits_postings (found : db.dossier id = some old) :
    (db.originalDebits id).map LedgerEntry.posting =
      old.postings.filter fun posting => decide posting.IsOriginalDebit := by
  obtain ⟨_, entries, _⟩ := get?_of_dossier found
  unfold originalDebits Dossier.postings
  rw [entries, List.filter_map]
  rfl

end Database

/-- The entries' transaction can be read off their terms. -/
theorem transactionId_of_terms {entries : List LedgerEntry} {terms : List EntryTerms}
    (same : entries.map LedgerEntry.terms = terms)
    (owned : ∀ posted ∈ terms, posted.transactionId = id) :
    ∀ entry ∈ entries, entry.transactionId = id := by
  intro entry member
  apply owned entry.terms
  rw [← same]
  exact List.mem_map_of_mem member

/-- The postings can be read off the terms. -/
theorem postings_of_terms {entries : List LedgerEntry} {terms : List EntryTerms}
    (same : entries.map LedgerEntry.terms = terms) :
    entries.map LedgerEntry.posting = terms.map EntryTerms.posting := by
  rw [← same, List.map_map]
  rfl

section Postings

variable {db : Database} {old : Dossier} {entries : List LedgerEntry}

/-- The entries that charge a payment back are its own. -/
theorem ChargesBack.own {row : Transaction} (charges : ChargesBack db row entries) :
    ∀ entry ∈ entries, entry.transactionId = row.id := by
  rcases charges with ⟨_, rfl⟩ | ⟨_, _, _, _, _, _, terms⟩
  · exact fun entry member => by cases member
  · apply transactionId_of_terms terms
    intro posted member
    rcases List.mem_cons.mp member with rfl | rest
    · rfl
    · rw [List.mem_singleton.mp rest]
      rfl

/-- A chargeback moves the money of a payment that was credited. -/
theorem ChargesBack.credited (charges : ChargesBack db old.row entries)
    (found : db.dossier old.row.id = some old)
    (booked : Booked old.row old.row.status old.postings)
    (credited : old.row.status = .completed ∨ old.row.status = .disputed) :
    entries.map LedgerEntry.posting = [old.row.takeBack, old.row.giveBack] := by
  rcases charges with ⟨marked, _⟩ | ⟨_, _, _, _, _, _, terms⟩
  · rw [Database.hasReversal_iff found, booked.reversal] at marked
    rcases credited with status | status
    · rw [status] at marked
      rcases marked with absurd | ⟨absurd, _⟩ <;> cases absurd
    · rw [status] at marked
      rcases marked with absurd | ⟨absurd, _⟩ <;> cases absurd
  · exact postings_of_terms terms

/-- A chargeback of a failed payment posts nothing: its funds are back already. -/
theorem ChargesBack.failed (charges : ChargesBack db old.row entries)
    (found : db.dossier old.row.id = some old)
    (booked : Booked old.row old.row.status old.postings) (failed : old.row.status = .failed) :
    entries = [] := by
  rcases charges with ⟨_, none⟩ | ⟨unmarked, _⟩
  · exact none
  · rw [Database.hasReversal_iff found, booked.reversal] at unmarked
    exact (unmarked (.inl failed)).elim

/-- So is the entry of a credit. -/
theorem credit_own {accountId : AccountId} {currency : String} {amount : Int}
    (terms : entries.map LedgerEntry.terms = [creditTerms id accountId currency amount]) :
    ∀ entry ∈ entries, entry.transactionId = id := by
  apply transactionId_of_terms terms
  intro posted member
  rw [List.mem_singleton.mp member]
  rfl

/-- So are the reversals of its debits. -/
theorem reversals_own {debits : List LedgerEntry}
    (terms : entries.map LedgerEntry.terms = debits.map (reversalTerms id)) :
    ∀ entry ∈ entries, entry.transactionId = id := by
  apply transactionId_of_terms terms
  intro posted member
  obtain ⟨debit, _, rfl⟩ := List.mem_map.mp member
  rfl

/-- So are the entries that return its funds. -/
theorem ReturnsFunds.own (returns : ReturnsFunds db id entries) :
    ∀ entry ∈ entries, entry.transactionId = id := by
  rcases returns with ⟨_, rfl⟩ | ⟨_, terms⟩
  · exact fun entry member => by cases member
  · exact reversals_own terms

/-- What a compensation posts, as postings. -/
theorem postings_of_reversals (found : db.dossier id = some old)
    (terms : entries.map LedgerEntry.terms = (db.originalDebits id).map (reversalTerms id)) :
    entries.map LedgerEntry.posting =
      (old.postings.filter fun posting => decide posting.IsOriginalDebit).map Posting.reversal := by
  rw [postings_of_terms terms, ← Database.originalDebits_postings found, List.map_map, List.map_map]
  rfl

/-- Compensating a payment in progress returns the reserved funds. -/
theorem reversals_processing (found : db.dossier id = some old) (lawful : old.Lawful)
    (processing : old.row.status = .processing)
    (terms : entries.map LedgerEntry.terms = (db.originalDebits id).map (reversalTerms id)) :
    entries.map LedgerEntry.posting = [old.row.release] := by
  have booked := lawful.booked
  rw [processing] at booked
  rw [postings_of_reversals found terms]
  generalize old.postings = postings at booked
  cases booked
  exact congrArg (fun posting => [posting]) (old.row.reversal_reserve lawful.nonneg)

/-- Returning the funds of a payment in progress releases them. -/
theorem ReturnsFunds.processing (returns : ReturnsFunds db id entries)
    (found : db.dossier id = some old) (lawful : old.Lawful)
    (processing : old.row.status = .processing) :
    entries.map LedgerEntry.posting = [old.row.release] := by
  rcases returns with ⟨marked, _⟩ | ⟨_, terms⟩
  · have booked := lawful.booked
    rw [Database.hasReversal_iff found, booked.reversal, processing] at marked
    rcases marked with absurd | ⟨absurd, _⟩ <;> cases absurd
  · exact reversals_processing found lawful processing terms

/-- Those of a failed payment have been returned already. -/
theorem ReturnsFunds.failed (returns : ReturnsFunds db id entries)
    (found : db.dossier id = some old) (lawful : old.Lawful)
    (failed : old.row.status = .failed) : entries = [] := by
  rcases returns with ⟨_, none⟩ | ⟨unmarked, _⟩
  · exact none
  · rw [Database.hasReversal_iff found, lawful.booked.reversal] at unmarked
    exact (unmarked (.inl failed)).elim

end Postings

/-! ## Commits -/

/-- A settlement that changes the status lets its payment go on. -/
theorem Settlement.evolves {settlement : Settlement} {old : Dossier} {next : TransactionStatus}
    (own : settlement.Own) (found : first.dossier settlement.id = some old)
    (postings : List Posting)
    (posted : settlement.entries.map LedgerEntry.posting = postings)
    (status : (settlement.advance old).row.status = next)
    (terms : (settlement.advance old).row.terms = old.row.terms)
    (advances : Advances old.row old.stage (next, old.postings ++ postings))
    (recorded : settlement.history.map (fun row => (row.fromState, row.toState)) =
      [(some old.row.status.text, next.text)])
    (reached : reaches next) : first.Evolves strict reaches (settlement.apply first) := by
  refine .advances settlement.id old (settlement.advance old) (settlement.moves own found) terms
    ?_ ?_ ?_
  · have stage : (settlement.advance old).stage = (next, old.postings ++ postings) := by
      rw [← posted, ← status]
      exact congrArg (Prod.mk _) List.map_append
    rw [stage]
    exact advances
  · rw [status, ← recorded]
    exact List.map_append
  · rw [status]
    exact reached

/-- The statuses a transaction may be reversed from. -/
theorem allows_reversed {status : TransactionStatus}
    (allowed : status.Allows TransactionStatus.reversed.text) :
    status = .failed ∨ status = .completed ∨ status = .disputed := by
  rw [TransactionStatus.allows_text_iff] at allowed
  cases status <;> simp [TransactionStatus.validTransitions] at allowed ⊢

/-- Only a completed payment is disputed. -/
theorem allows_disputed {status : TransactionStatus}
    (allowed : status.Allows TransactionStatus.disputed.text) : status = .completed := by
  rw [TransactionStatus.allows_text_iff] at allowed
  cases status <;> simp [TransactionStatus.validTransitions] at allowed ⊢

/-- The settlements of refunds and chargebacks. -/
theorem reversal_evolves {row : Transaction} {entries : List LedgerEntry} {postings : List Posting}
    (found : first.transactions.get? id = some row) {timestamp : Nat}
    (owned : ∀ entry ∈ entries, entry.transactionId = id)
    (posted : entries.map LedgerEntry.posting = postings)
    (advances : Advances row (row.status, (first.entriesOf id).map LedgerEntry.posting)
      (.reversed, (first.entriesOf id).map LedgerEntry.posting ++ postings))
    (reached : reaches .reversed) :
    first.Evolves strict reaches (Settlement.apply
      { id := id
        entries := entries
        patches := [{ status := some .reversed }]
        history := [{ transactionId := id, fromState := some row.status.text
                      toState := TransactionStatus.reversed.text, timestamp := timestamp }] }
      first) := by
  exact Settlement.evolves ⟨owned, history_own⟩ (Database.dossier_of_get? found) postings posted
    rfl rfl advances rfl reached

/-- A refund moves one payment along its lifecycle, unless the payment is disputed. -/
theorem Refunds.evolves (refunds : Refunds setting id first second)
    (lawful : first.Each Dossier.Lawful)
    (undisputed : ∀ row, first.transactions.get? id = some row → row.status ≠ .disputed)
    (reached : reaches .reversed) : first.Evolves strict reaches second := by
  obtain ⟨row, entries, timestamp, _, found, allowed, posts, rfl⟩ := refunds
  have there := Database.dossier_of_get? found
  have held := lawful id _ there
  have named : row.id = id := Table.key_of_get? found
  rcases allows_reversed allowed with failed | completed | disputed
  · have other : ¬ row.status = .completed := by
      rw [failed]
      decide
    rw [if_neg other] at posts
    have posted : entries.map LedgerEntry.posting = [] := by
      rw [posts.failed there held failed, List.map_nil]
    refine reversal_evolves found posts.own posted ?_ reached
    rw [failed, List.append_nil]
    exact .close _
  · rw [if_pos completed] at posts
    subst named
    refine reversal_evolves found posts.own
      (posts.credited there held.booked (.inl completed)) ?_ reached
    rw [completed]
    exact .refund _
  · exact (undisputed row found disputed).elim

/-- So does a reversal of a dispute. -/
theorem Reverses.evolves (reverses : Reverses setting id first second)
    (lawful : first.Each Dossier.Lawful) (reached : reaches .reversed) :
    first.Evolves strict reaches second := by
  obtain ⟨row, entries, timestamp, _, found, allowed, posts, rfl⟩ := reverses
  have there := Database.dossier_of_get? found
  have held := lawful id _ there
  have named : row.id = id := Table.key_of_get? found
  subst named
  rcases allows_reversed allowed with failed | completed | disputed
  · have posted : entries.map LedgerEntry.posting = [] := by
      rw [posts.failed there held.booked failed, List.map_nil]
    refine reversal_evolves found posts.own posted ?_ reached
    rw [failed, List.append_nil]
    exact .close _
  · refine reversal_evolves found posts.own
      (posts.credited there held.booked (.inl completed)) ?_ reached
    rw [completed]
    exact .refund _
  · refine reversal_evolves found posts.own
      (posts.credited there held.booked (.inr disputed)) ?_ reached
    rw [disputed]
    exact .chargeBack _

/-- A dispute raised on the strength of the current status. -/
theorem Raises.evolves (raises : Raises setting id first second)
    (current : ∀ row checked, first.transactions.get? id = some row →
      setting.Read first id checked →
      checked = row)
    (reached : reaches .disputed) : first.Evolves strict reaches second := by
  obtain ⟨row, checked, timestamp, found, read, allowed, _, rfl⟩ := raises
  have same := current row checked found read
  subst same
  have completed := allows_disputed allowed
  refine Settlement.evolves ⟨no_entries, history_own⟩ (Database.dossier_of_get? found) [] rfl rfl
    rfl ?_ rfl reached
  change Advances checked (checked.status, _) _
  rw [completed, List.append_nil]
  exact .dispute _

/-- A rejected dispute, where there is one. -/
theorem Rejects.evolves (rejects : Rejects setting id first second)
    (disputed : ∀ row, first.transactions.get? id = some row → row.status = .disputed)
    (reached : reaches .completed) : first.Evolves strict reaches second := by
  obtain ⟨row, checked, timestamp, found, _, _, _, rfl⟩ := rejects
  have status := disputed row found
  refine Settlement.evolves ⟨no_entries, history_own⟩ (Database.dossier_of_get? found) [] rfl rfl
    rfl ?_ ?_ reached
  · change Advances row (row.status, _) _
    rw [status, List.append_nil]
    exact .reject _
  · change [_] = [(some row.status.text, _)]
    rw [status]
    rfl

/-- So does the dead-letter handler. -/
theorem Exhausts.evolves (exhausts : Exhausts setting id first second)
    (lawful : first.Each Dossier.Lawful) (reached : reaches .failed) :
    first.Evolves strict reaches second := by
  obtain ⟨row, entries, timestamp, _, found, processing, returns, rfl⟩ := exhausts
  have there := Database.dossier_of_get? found
  have held := lawful id _ there
  refine Settlement.evolves ⟨returns.own, history_own⟩ there _
    (returns.processing there held processing) rfl rfl ?_ ?_ reached
  · change Advances row (row.status, _) _
    rw [processing]
    exact .release _
  · change [_] = [(some row.status.text, _)]
    rw [processing]
    rfl

/-- The assignment of a reference leaves every payment where it is. -/
theorem Assigns.evolves (assigns : Assigns setting id first second) :
    first.Evolves strict reaches second := by
  obtain ⟨checked, reference, _, _, _, rfl⟩ := assigns
  have own : Settlement.Own { id := id, patches := [{ providerReference := some reference }] } :=
    Settlement.own_patches
  cases found : first.dossier id with
  | none =>
      refine .stays fun other => ?_
      by_cases same : other = id
      · subst same
        rw [Settlement.dossier_apply own, found]
        rfl
      · exact Settlement.dossier_other own first same
  | some old =>
      refine .rests id old _ (Settlement.moves own found) rfl ?_ fun _ => ?_
      · change (_, List.map _ (old.entries ++ [])) = _
        rw [List.append_nil]
        rfl
      · change List.map _ (old.history ++ []) = _
        rw [List.append_nil]
        rfl

/-- Storing a reference changes no status. -/
theorem Assigns.statusOf (assigns : Assigns setting id first second) (other : TransactionId) :
    second.statusOf other = first.statusOf other := by
  obtain ⟨checked, stored, _, _, _, rfl⟩ := assigns
  unfold Database.statusOf
  rw [Settlement.get?_apply]
  by_cases same : other = id
  · rw [if_pos same, Option.map_map]
    rfl
  · rw [if_neg same]

/-- What `createPayment` opens. -/
theorem Creates.opens {dto : CreatePaymentDto} {row : Transaction}
    (creates : Creates setting dto row first second) :
    ∃ entry opened reserved,
      second.dossier row.id = some (openingDossier row entry opened reserved) ∧
      (∀ other, other ≠ row.id → second.dossier other = first.dossier other) ∧
      entry.posting = row.reserve := by
  obtain ⟨quote, entry, opened, reserved, _, _, entries, history, sender, _, _, _, amount, _, _, _,
    _, terms, rfl⟩ := creates
  have owner : entry.transactionId = row.id := congrArg EntryTerms.transactionId terms
  obtain ⟨after, others⟩ := dossier_opening owner entries history
  refine ⟨entry, opened, reserved, after, others, ?_⟩
  unfold LedgerEntry.posting
  rw [terms, Transaction.reserve, sender, amount]
  rfl

/-- A new payment goes to another account. -/
theorem Creates.parties {dto : CreatePaymentDto} {row : Transaction}
    (creates : Creates setting dto row first second) :
    row.senderAccountId ≠ row.recipientAccountId ∧ 0 ≤ row.sourceAmount := by
  obtain ⟨_, _, _, _, _, _, _, _, sender, recipient, _, _, amount, _⟩ := creates
  rw [sender, recipient, amount]
  exact ⟨dto.notSelfPayment, Int.natCast_nonneg _⟩

/-- It is of a positive amount. -/
theorem Creates.positive {dto : CreatePaymentDto} {row : Transaction}
    (creates : Creates setting dto row first second) : 0 < row.sourceAmount := by
  obtain ⟨_, _, _, _, _, _, _, _, _, _, _, _, amount, _⟩ := creates
  rw [amount]
  exact Int.natCast_pos.mpr dto.isPositive

/-- It starts the lifecycle. -/
theorem Creates.evolves {dto : CreatePaymentDto} {row : Transaction}
    (creates : Creates setting dto row first second) : first.Evolves strict reaches second := by
  have absent : first.transactions.get? row.id = none := by
    obtain ⟨_, _, _, _, _, absent, _⟩ := creates
    exact absent
  obtain ⟨entry, opened, reserved, after, others, posting⟩ := creates.opens
  obtain ⟨parties, nonneg⟩ := creates.parties
  exact .opens row.id row entry opened reserved absent after others parties nonneg posting

/-- The first two statuses a delivery may ask for. -/
theorem allows_completed {status : TransactionStatus} (allowed : status.Allows "completed") :
    status = .processing ∨ status = .disputed := by
  have allowed : status.Allows TransactionStatus.completed.text := allowed
  rw [TransactionStatus.allows_text_iff] at allowed
  cases status <;> simp [TransactionStatus.validTransitions] at allowed ⊢

/-- Only a payment in progress fails. -/
theorem allows_failed {status : TransactionStatus} (allowed : status.Allows "failed") :
    status = .initiated ∨ status = .processing := by
  have allowed : status.Allows TransactionStatus.failed.text := allowed
  rw [TransactionStatus.allows_text_iff] at allowed
  cases status <;> simp [TransactionStatus.validTransitions] at allowed ⊢

/-- Only a new one starts to be processed. -/
theorem allows_processing {status : TransactionStatus} (allowed : status.Allows "processing") :
    status = .initiated := by
  have allowed : status.Allows TransactionStatus.processing.text := allowed
  rw [TransactionStatus.allows_text_iff] at allowed
  cases status <;> simp [TransactionStatus.validTransitions] at allowed ⊢

/-- No status allows itself. -/
theorem allows_changes {current next : TransactionStatus} (allowed : current.Allows next.text) :
    next ≠ current := by
  rw [TransactionStatus.allows_text_iff] at allowed
  intro same
  rw [same] at allowed
  cases current <;> simp [TransactionStatus.validTransitions] at allowed

/-- A committed payment is past its first status. -/
theorem Dossier.Lawful.not_initiated {dossier : Dossier} (lawful : dossier.Lawful) :
    dossier.row.status ≠ .initiated := by
  intro initiated
  have booked := lawful.booked
  rw [initiated] at booked
  cases booked

/-- A delivery, unless it completes a disputed payment. -/
theorem Delivers.evolves {deployment : Deployment} {payload : WebhookPayloadDto}
    {rawBody : List UInt8} {signature : String}
    (delivers : Delivers setting deployment payload rawBody signature first second)
    (lawful : first.Each Dossier.Lawful) (admitted : strict → payload.Admitted)
    (undisputed : ∀ row, setting.LooksUp payload.reference (some row) first →
      first.transactions.get? row.id = some row → payload.status = "completed" →
      row.status ≠ .disputed)
    (completes : reaches .completed) (fails : reaches .failed) :
    first.Evolves strict reaches second := by
  obtain ⟨_, row, entries, patches, events, _, timestamp, _, looks, found, allowed, settles, rfl⟩ :=
    delivers
  have there := Database.dossier_of_get? found
  have held := lawful row.id _ there
  unfold DeliverySettles at settles
  by_cases completed : payload.status = "completed"
  · rw [if_pos completed] at settles
    obtain ⟨currency, completedAt, _, terms, rfl⟩ := settles
    have processing : row.status = .processing := by
      rcases allows_completed (completed ▸ allowed) with processing | disputed
      · exact processing
      · exact (undisputed row looks found completed disputed).elim
    refine Settlement.evolves ⟨credit_own terms, history_own⟩ there _ (postings_of_terms terms) rfl
      rfl ?_ ?_ completes
    · change Advances row (row.status, _) _
      rw [processing]
      exact .settle _
    · change [(some row.status.text, payload.status)] = [(some row.status.text, _)]
      rw [completed]
      rfl
  · rw [if_neg completed] at settles
    by_cases failed : payload.status = "failed"
    · rw [if_pos failed] at settles
      obtain ⟨terms, rfl⟩ := settles
      have processing : row.status = .processing := by
        rcases allows_failed (failed ▸ allowed) with initiated | processing
        · exact (held.not_initiated initiated).elim
        · exact processing
      refine Settlement.evolves ⟨reversals_own terms, history_own⟩ there _
        (reversals_processing there held processing terms) rfl rfl ?_ ?_ fails
      · change Advances row (row.status, _) _
        rw [processing]
        exact .release _
      · change [(some row.status.text, payload.status)] = [(some row.status.text, _)]
        rw [failed]
        rfl
    · rw [if_neg failed] at settles
      obtain ⟨rfl, rfl⟩ := settles
      refine .rests row.id _ _ (Settlement.moves ⟨no_entries, history_own⟩ there) rfl ?_
        fun strictly => ?_
      · change (_, List.map _ (_ ++ [])) = _
        rw [List.append_nil]
        rfl
      · rcases List.mem_cons.mp (admitted strictly) with absurd | rest
        · exact (completed absurd).elim
        · rcases List.mem_cons.mp rest with absurd | last
          · exact (failed absurd).elim
          · have processing := List.mem_singleton.mp last
            exact (held.not_initiated (allows_processing (processing ▸ allowed))).elim

/-- A delivery that finds no payment leaves the books alone. -/
theorem Misses.books {payload : WebhookPayloadDto} (misses : Misses setting payload first second) :
    first.SameBooks second := by
  obtain ⟨events, _, _, _, rfl⟩ := misses
  exact ⟨rfl, rfl, List.append_nil _, List.append_nil _⟩

/-- A delivery that misses its payment moves none. -/
theorem Misses.evolves {payload : WebhookPayloadDto}
    (misses : Misses setting payload first second) :
    first.Evolves strict reaches second := .stays misses.books.dossier

end Payroute
