import Payroute.Effects.Completes
import Payroute.Runs.Accounts
import Payroute.Runs.Emissions
import Payroute.Runs.Reversal

/-! # Deliveries that run alone

A delivery that stored its event row keeps it, whatever becomes of the rest. A delivery
that is not disturbed settles its payment where the tables leave room for the amount.
-/

namespace Payroute

open EffectSystem KeyedTable Program

/-! ## The event row -/

/-- The write removes no event. -/
def Write.SparesEvents : Write → Prop
  | .purgeEvents _ => False
  | _ => True

section Tables

variable {db : Database} {wanted : ProviderReference × String} {version : Write}

/-- A write that spares the events keeps the stored one. -/
theorem Database.event_write (spares : version.SparesEvents)
    (stored : (db.webhookEvents.get? wanted).isSome = true) :
    ((db.write version).webhookEvents.get? wanted).isSome = true := by
  cases version with
  | event row =>
      change ((db.webhookEvents.put row).get? wanted).isSome = true
      rw [Table.get?_put]
      split
      · rfl
      · exact stored
  | purgeEvents cutoff => exact spares.elim
  | _ => exact stored

/-- So do the writes of a transaction. -/
theorem Database.event_replay {log : List Write} (spares : ∀ version ∈ log, version.SparesEvents)
    (stored : (db.webhookEvents.get? wanted).isSome = true) :
    ((db.replay log).webhookEvents.get? wanted).isSome = true := by
  induction log generalizing db with
  | nil => exact stored
  | cons version rest ih =>
      exact ih (fun later member => spares later (List.mem_cons_of_mem _ member))
        (Database.event_write (spares version List.mem_cons_self) stored)

/-- Only the cleanup removes events. -/
theorem Statement.spares_of_eval {statement : Statement} {view : Database} {session : Session}
    {outcome : Outcome statement.Reply} (delivering : (Operation.sql statement).Delivering)
    (done : statement.eval view session = .ok outcome) :
    ∀ version, outcome.writes = some version → version.SparesEvents := by
  intro version written
  have writes := written_of_eval done written
  generalize outcome.locks = locks, outcome.draws = draws at writes
  cases writes with
  | purgeEvents cutoff => exact delivering.elim
  | _ => trivial

end Tables

/-- There is an event with the key, and the process is not about to remove events. -/
structure World.Filed (wanted : ProviderReference × String) (who : ProcessId) (world : World) :
    Prop where
  stored : (world.db.webhookEvents.get? wanted).isSome = true
  pending : ∀ version ∈ world.log who, version.SparesEvents

namespace World

variable {world : World} {who : ProcessId} {wanted : ProviderReference × String}

/-- Outside of a transaction an event is filed once it is committed. -/
theorem filed_of_closed (closed : world.sessions who = none)
    (stored : (world.db.webhookEvents.get? wanted).isSome = true) : world.Filed wanted who := by
  refine ⟨stored, ?_⟩
  unfold log
  rw [closed]
  exact fun _ member => (List.not_mem_nil member).elim

/-- A statement that spares the events keeps one filed. -/
theorem Filed.apply (filed : world.Filed wanted who) {ρ : Type} {outcome : Outcome ρ}
    (spares : ∀ version, outcome.writes = some version → version.SparesEvents) :
    (world.apply who outcome).Filed wanted who := by
  cases opened : world.sessions who with
  | none =>
      refine filed_of_closed ?_ ?_
      · rw [apply_closed outcome opened]
        exact opened
      · rw [apply_closed_db opened]
        cases written : outcome.writes with
        | none => exact filed.stored
        | some version => exact Database.event_write (spares version written) filed.stored
  | some session =>
      rw [apply_open outcome opened]
      cases written : outcome.writes with
      | none => exact ⟨filed.stored, filed.pending⟩
      | some version =>
          refine ⟨filed.stored, fun later member => ?_⟩
          unfold log at member
          simp only [Function.update_self] at member
          rcases List.mem_append.mp member with old | new
          · refine filed.pending later ?_
            rw [log_open opened]
            exact old
          · rw [List.mem_singleton.mp new]
            exact spares version written

/-- What happens aside of the database keeps it filed. -/
theorem Filed.aside {next : World} (filed : world.Filed wanted who) (aside : world.Aside next) :
    next.Filed wanted who := by
  refine ⟨?_, ?_⟩
  · rw [aside.db]
    exact filed.stored
  · unfold log
    rw [aside.sessions]
    exact filed.pending

/-- Every call of the handling of a delivery keeps its event filed. -/
theorem Filed.perform (filed : world.Filed wanted who) {op : Operation}
    (delivering : op.Delivering) : (world.perform who op).2.Filed wanted who := by
  cases op with
  | begin isolation =>
      refine ⟨filed.stored, ?_⟩
      unfold log
      simp only [World.perform, begin, Function.update_self]
      exact fun _ member => (List.not_mem_nil member).elim
  | commit =>
      exact filed_of_closed (Function.update_self ..)
        (Database.event_replay filed.pending filed.stored)
  | rollback => exact filed_of_closed (Function.update_self ..) filed.stored
  | sql statement =>
      change (world.execute who statement).2.Filed wanted who
      rcases execute_cases world who statement with ⟨error, refused⟩ | ⟨outcome, done, _, ran⟩
      · rw [refused]
        exact filed
      · rw [ran]
        exact filed.apply (Statement.spares_of_eval delivering done)
  | _ => exact filed.aside (perform_neutral trivial)

/-- Also one that is lost or not acknowledged. -/
theorem Filed.exec (filed : world.Filed wanted who) (delivery : Delivery) {op : Operation}
    (delivering : op.Delivering) : (World.exec who delivery op world).2.Filed wanted who := by
  rcases exec_state who delivery op world with same | ran
  · rw [same]
    exact filed
  · rw [ran]
    exact filed.perform delivering

end World

section Alone

variable {deployment : Deployment} {who : ProcessId} {world : World} {payload : WebhookPayloadDto}
  {rawBody : List UInt8} {signature : String} {choices : List Delivery}

/-- The statement with which a delivery stores its event row. -/
def storing (deployment : Deployment) (payload : WebhookPayloadDto) (rawBody : List UInt8)
    (signature : String) : Service (Option WebhookEvent) :=
  sql (.insertEvent (Setting.eventDraft payload
    (WebhooksService.verifySignature deployment rawBody signature)))

/-- A row that a delivery has stored was not there before, and stays. -/
theorem stored_of_run (rest : world.AtRest) {event : WebhookEvent}
    (inserted : (backend.run who (storing deployment payload rawBody signature) choices
      world).outcome = .ok (some event)) :
    world.db.webhookEvents.get? (payload.reference, payload.status) = none ∧
      ((backend.run who (WebhooksService.processWebhook deployment payload rawBody signature)
        choices world).state.db.webhookEvents.get?
          (payload.reference, payload.status)).isSome = true := by
  have stores : Solo backend (fun _ _ => True) who
      (fun outcome last => world.Calm last ∧ ∀ event, outcome = .ok (some event) →
        (serial world).Arrived payload event last.db)
      (storing deployment payload rawBody signature) world := solo_insertEvent rest
  obtain ⟨calm, arrived⟩ := stores choices fun _ _ => trivial
  obtain ⟨_, rfl, absent, reference, status, _, _, written⟩ := arrived event inserted
  refine ⟨absent, ?_⟩
  have delivering := WebhooksService.delivering_processWebhook deployment payload rawBody signature
  rw [storing, sql, call, Machine.run_perform] at calm written
  have filed : (backend.exec who choices.headI (.sql (.insertEvent (Setting.eventDraft payload
      (WebhooksService.verifySignature deployment rawBody signature)))) world).2.Filed
        (payload.reference, payload.status) who := by
    refine World.filed_of_closed (calm.rest.sessions who) ?_
    rw [written]
    change ((world.db.webhookEvents.put event).get? _).isSome = true
    have named : (payload.reference, payload.status) = key event := by
      rw [← reference, ← status]
      rfl
    rw [Table.get?_put, if_pos named]
    rfl
  refine (backend.run_keeps who (World.Filed (payload.reference, payload.status) who)
    (fun choice op state allowed filed => filed.exec choice allowed)
    (delivering.2 _) choices.tail filed).stored

end Alone

/-! ## Undisturbed deliveries -/

section Rules

variable {who : ProcessId} {start world : World} {changes : Changes} {row : Transaction}
  {status : String} {next : TransactionStatus}

/-- The clock is read without changing what the transaction did. -/
theorem succeeds_newDate (working : start.Working who changes world) :
    Succeeds who (fun _ last => start.Working who changes last) newDate world := by
  have done : world.perform who .now = (.ok (world.clock / 1000 * 1000), world) := rfl
  exact succeeds_call done working

/-- Marking the event always works. -/
theorem succeeds_updateEvent (working : start.Working who changes world) (id : Nat)
    (patch : WebhookEventPatch) :
    Succeeds who (fun _ last => ∃ events,
      start.Working who { changes with events := changes.events ++ events } last)
      (sql (.updateEvent id patch)) world := by
  have done : (Statement.updateEvent id patch).eval (world.view who) (world.session who) =
      .ok ((world.view who).updateEvent id patch) := rfl
  have unlocked : ((world.view who).updateEvent id patch).locks = none := by
    unfold Database.updateEvent
    cases (world.view who).eventById id <;> rfl
  refine succeeds_statement done (fun wanted locked => ?_) ?_
  · rw [unlocked] at locked
    cases locked
  · unfold Database.updateEvent
    cases (world.view who).eventById id with
    | none =>
        refine ⟨[], ?_⟩
        rw [List.append_nil]
        exact working.apply rfl
    | some event =>
        exact ⟨[patch.apply event], working.apply (changes.apply_touch _ _).symm⟩

/-- The payment a delivery names is found and locked, as nobody else has it. -/
theorem succeeds_lockTransactionByReference (working : start.Working who changes world)
    {reference : ProviderReference}
    (found : (changes.apply (start.view who)).byReference reference = some row)
    (free : start.Free who (.transaction row.id)) :
    Succeeds who (fun reply last => reply = some row ∧ start.Working who changes last)
      (sql (.lockTransactionByReference reference)) world := by
  rw [← working.view] at found
  have done : (Statement.lockTransactionByReference reference).eval (world.view who)
      (world.session who) = .ok { reply := some row, locks := some (.transaction row.id) } := by
    simp only [Statement.eval, Statement.target, found, Option.map_some]
  apply succeeds_statement done
  · intro wanted locked
    cases locked
    exact working.free free
  · exact ⟨rfl, working.apply rfl⟩

/-- What the tables must have for a delivery to bring its payment to the next status. -/
inductive Database.Deliverable (db : Database) (row : Transaction) :
    String → TransactionStatus → Prop
  | completed {account : Account} (owed : 0 ≤ row.destinationAmount)
      (found : db.accounts.get? row.recipientAccountId = some account)
      (solvent : 0 ≤ account.balance) (fits : Fits (account.balance + row.destinationAmount)) :
      Deliverable db row "completed" .completed
  | failed (able : db.Reimbursable row.id (db.originalDebits row.id)) :
      Deliverable db row "failed" .failed

/-- Settling works where the status can be reached and the amount can be booked. -/
theorem succeeds_settle (working : start.Working who {} world)
    (found : (start.view who).transactions.get? row.id = some row)
    (able : (start.view who).Deliverable row status next) (free : ∀ row, start.Free who row) :
    Succeeds who (fun _ last => ∃ entries patch, patch.status = some next ∧
      start.Working who ((Changes.postAll {} entries).patch row.id patch) last)
      (WebhooksService.settle row status) world := by
  have kept : ∀ entries : List LedgerEntry, ((Changes.postAll {} entries).apply
      (start.view who)).transactions.get? row.id = some row := by
    intro entries
    rw [Changes.postAll_eq]
    exact found
  have payment : (Changes.apply {} (start.view who)).transactions.get? row.id ≠ none := by
    rw [Changes.apply_empty, found]
    exact Option.some_ne_none _
  unfold WebhooksService.settle
  cases able with
  | completed owed there solvent fits =>
      rw [if_pos rfl]
      rw [← Changes.apply_empty (start.view who)] at there
      apply (succeeds_credit working owed payment there solvent fits (free _)).bind
      intro entry second credited
      have posted : start.Working who (Changes.postAll {} [entry]) second := credited.2
      apply (succeeds_newDate posted).bind
      intro completedAt third working
      apply (succeeds_updateTransaction working
        { status := some .completed, completedAt := some completedAt } (kept _) (free _)).mono
      exact fun _ last working => ⟨_, _, rfl, working⟩
  | failed able =>
      rw [if_neg (by decide), if_pos rfl]
      apply (succeeds_createCompensatingEntries working able fun debit _ => free _).bind
      intro entries second posted
      apply (succeeds_updateTransaction posted.2 { status := some .failed } (kept _) (free _)).mono
      exact fun _ last working => ⟨_, _, rfl, working⟩

/-- The payment's settlement leaves it in the given status. -/
def Settlement.Reaches (settlement : Settlement) (id : TransactionId)
    (next : TransactionStatus) : Prop :=
  settlement.id = id ∧ ∃ patch, settlement.patches = [patch] ∧ patch.status = some next

/-- A settlement that reaches a status leaves the payment in it. -/
theorem Settlement.Reaches.statusOf {settlement : Settlement} {id : TransactionId} {db : Database}
    (reaches : settlement.Reaches id next) (found : db.transactions.get? id = some row) :
    (settlement.apply db).statusOf id = some next := by
  obtain ⟨named, patch, patches, status⟩ := reaches
  unfold Database.statusOf
  rw [Settlement.get?_apply, if_pos named.symm, found, patches]
  change some (patch.status.getD _) = some next
  rw [status, Option.getD_some]

/-- The delivery is applied to the payment it found. -/
theorem succeeds_applyWebhook {payload : WebhookPayloadDto} (eventId : Nat)
    (working : start.Working who {} world)
    (found : (start.view who).transactions.get? row.id = some row)
    (allowed : row.status.Allows payload.status)
    (able : (start.view who).Deliverable row payload.status next)
    (free : ∀ row, start.Free who row) :
    Succeeds who (fun _ last => ∃ settlement : Settlement, settlement.Reaches row.id next ∧
      start.Working who settlement.changes last)
      (WebhooksService.applyWebhook row payload eventId) world := by
  apply (succeeds_require (fun _ last => start.Working who {} last) allowed working).bind
  intro _ second working
  apply (succeeds_settle working found able free).bind
  intro _ third settled
  obtain ⟨entries, patch, status, working⟩ := settled
  have there : ((Changes.postAll {} entries).apply (start.view who)).transactions.get? row.id =
      some row := by
    rw [Changes.postAll_eq]
    exact found
  apply (succeeds_insertHistory working _ _ (Changes.patch_known patch there)).bind
  intro _ fourth recorded
  obtain ⟨timestamp, working⟩ := recorded
  apply (succeeds_newDate working).bind
  intro processedAt fifth working
  apply (succeeds_updateEvent working _ _).mono
  intro _ last touched
  obtain ⟨events, working⟩ := touched
  refine ⟨{ id := row.id, entries := entries, patches := [patch], events := events
            history := [{ transactionId := row.id, fromState := some row.status.text
                          toState := payload.status, timestamp := timestamp }] },
    ⟨rfl, patch, rfl, status⟩, ?_⟩
  rw [Changes.postAll_eq] at working
  exact working

end Rules

section Operation

variable {deployment : Deployment} {who : ProcessId} {world : World} {payload : WebhookPayloadDto}
  {rawBody : List UInt8} {signature : String} {row : Transaction} {next : TransactionStatus}

/-- Run alone, the transaction of a delivery commits the status it reports. -/
theorem succeeds_applyEvent (rest : world.AtRest) (eventId : Nat)
    (looked : world.db.byReference payload.reference = some row)
    (allowed : row.status.Allows payload.status)
    (able : world.db.Deliverable row payload.status next) :
    Succeeds who (fun reply last => reply = some row ∧ last.db.statusOf row.id = some next)
      (WebhooksService.applyEvent payload eventId) world := by
  obtain ⟨opened, view, free⟩ := rest.begun who
  have found : world.db.transactions.get? row.id = some row :=
    Table.get?_of_mem (List.mem_of_find?_eq_some looked)
  rw [← view] at looked found able
  apply Completes.tryCatch
  apply succeeds_transaction
  have seen : (Changes.apply {} ((world.begin who .readCommitted).view who)).byReference
      payload.reference = some row := by
    rw [Changes.apply_empty]
    exact looked
  apply (succeeds_lockTransactionByReference (.refl opened) seen (free _)).bind
  intro reply second locked
  obtain ⟨rfl, working⟩ := locked
  apply (succeeds_applyWebhook eventId working found allowed able free).bind
  intro _ last settled
  obtain ⟨settlement, reaches, working⟩ := settled
  apply Completes.ret
  refine ⟨rfl, ?_⟩
  rw [view] at found
  have committed : (last.commit who).db = settlement.apply world.db := working.commit
  rw [committed]
  exact reaches.statusOf found

/-- The announcement leaves the tables as they are. -/
theorem succeeds_announce :
    Succeeds who (fun _ last => last.db = world.db) (WebhooksService.announce row payload)
      world := by
  have emits : ∀ event, Succeeds who (fun _ last => last.db = world.db)
      (call (.emit event)) world := fun event =>
    (succeeds_aside (.emit event) trivial rfl).mono fun _ last emitted => emitted.2.db
  unfold WebhooksService.announce
  split
  · exact emits _
  · split
    · exact emits _
    · exact Completes.ret rfl

/-- The event row of a delivery that is not disturbed is stored. -/
theorem succeeds_storing (rest : world.AtRest)
    (absent : world.db.webhookEvents.get? (payload.reference, payload.status) = none) :
    Succeeds who (fun reply last => (∃ event, reply = some event) ∧ last.AtRest ∧
      world.db.SameBooks last.db) (storing deployment payload rawBody signature) world := by
  have stores : Solo backend (fun _ _ => True) who
      (fun outcome last => world.Calm last ∧ ∀ event, outcome = .ok (some event) →
        (serial world).Arrived payload event last.db)
      (storing deployment payload rawBody signature) world := solo_insertEvent rest
  have inserts : Succeeds who (fun reply _ => ∃ event, reply = some event)
      (storing deployment payload rawBody signature) world := by
    rw [← World.view_closed (rest.sessions who)] at absent
    let draft := Setting.eventDraft payload
      (WebhooksService.verifySignature deployment rawBody signature)
    have done : (Statement.insertEvent draft).eval (world.view who) (world.session who) =
        .ok ((world.view who).insertEvent (world.session who) draft) := rfl
    have fresh : (world.view who).webhookEvents.get? (draft.providerReference, draft.eventType) =
        none := absent
    simp only [Database.insertEvent, fresh] at done
    exact succeeds_statement done (fun _ locked => by cases locked) ⟨_, rfl⟩
  apply (inserts.and stores).mono
  intro reply last stored
  exact ⟨stored.1, stored.2.1.rest, stored.2.1.books⟩

/-- Whether a delivery can be booked depends on the books only. -/
theorem Database.SameBooks.deliverable {first second : Database} (same : first.SameBooks second)
    {status : String} (able : first.Deliverable row status next) :
    second.Deliverable row status next := by
  have debits : second.originalDebits row.id = first.originalDebits row.id := by
    unfold originalDebits entriesOf
    rw [same.ledgerEntries]
  cases able with
  | completed owed found solvent fits =>
      rw [← same.accounts] at found
      exact .completed owed found solvent fits
  | failed able =>
      obtain ⟨payment, account, fits, solvent, room⟩ := able
      rw [← same.accounts] at account solvent room
      rw [← same.transactions] at payment
      rw [← debits] at account fits room
      exact .failed ⟨payment, account, fits, solvent, room⟩

/-- A delivery that is not disturbed brings its payment to the next status. -/
theorem succeeds_processWebhook (rest : world.AtRest)
    (absent : world.db.webhookEvents.get? (payload.reference, payload.status) = none)
    (valid : WebhooksService.verifySignature deployment rawBody signature = true)
    (looked : world.db.byReference payload.reference = some row)
    (allowed : row.status.Allows payload.status)
    (able : world.db.Deliverable row payload.status next) :
    Succeeds who (fun _ last => last.db.statusOf row.id = some next)
      (WebhooksService.processWebhook deployment payload rawBody signature) world := by
  apply (succeeds_storing rest absent).bind
  intro reply second stored
  obtain ⟨⟨event, rfl⟩, rested, same⟩ := stored
  change Succeeds who _ (WebhooksService.handleEvent payload
    (WebhooksService.verifySignature deployment rawBody signature) event.id) second
  unfold WebhooksService.handleEvent
  rw [if_pos valid]
  have looked : second.db.byReference payload.reference = some row := by
    unfold Database.byReference at looked ⊢
    rw [same.transactions]
    exact looked
  apply (succeeds_applyEvent rested event.id looked allowed (same.deliverable able)).bind
  intro processed third applied
  obtain ⟨rfl, reached⟩ := applied
  apply succeeds_invalidatePaymentCaches.bind
  intro _ fourth dropped
  apply succeeds_announce.mono
  intro _ last announced
  rw [announced, dropped]
  exact reached

end Operation
end Payroute
