import Payroute.Commits.Requests

/-! # The webhooks service -/

namespace Payroute

open EffectSystem KeyedTable

/-- What a delivery settles depends on the entries of its payment. -/
theorem DeliverySettles.persists {first second : Database} {row : Transaction} {status : String}
    {entries : List LedgerEntry} {patches : List TransactionPatch}
    (settles : DeliverySettles first row status entries patches)
    (same : second.entriesOf row.id = first.entriesOf row.id) (persists : first.Persists second) :
    DeliverySettles second row status entries patches := by
  unfold DeliverySettles at settles ⊢
  by_cases completed : status = "completed"
  · rw [if_pos completed] at settles ⊢
    obtain ⟨currency, completedAt, denominates, rest⟩ := settles
    exact ⟨currency, completedAt, denominates.persists persists, rest⟩
  · rw [if_neg completed] at settles ⊢
    by_cases failed : status = "failed"
    · rw [if_pos failed] at settles ⊢
      rw [Database.originalDebits_congr same]
      exact settles
    · rw [if_neg failed] at settles ⊢
      exact settles

namespace Setting

namespace Within

variable {setting : Setting} {commit : Database → Database → Prop} {who : ProcessId}
  {world : World} {changes : Changes} {payload : WebhookPayloadDto} {event : WebhookEvent}

/-- Patch the event of a delivery inside its transaction. -/
theorem markEvent (drafts : world.Drafts who .readCommitted changes)
    (untouched : changes.events = []) (arrived : setting.Arrived payload event world.db)
    (patch : WebhookEventPatch) :
    setting.Within commit who
      (fun _ last => ∃ events, setting.Marks payload patch last.db events ∧
        last.Drafts who .readCommitted { changes with events := events })
      (sql (.updateEvent event.id patch)) world := by
  refine (Within.updateEvent drafts event.id patch).mono ?_
  rintro _ last _ kept marked
  have unseen : ∀ id, (changes.apply last.db).eventById id = last.db.eventById id := by
    intro id
    simp only [Database.eventById, Changes.apply, untouched, List.foldl_nil]
  have arrived := arrived.drift kept.drift
  rw [unseen] at marked
  rcases marked with ⟨row, found, drafts⟩ | ⟨absent, drafts⟩
  · refine ⟨_, ⟨event, last.db, arrived, setting.drift_refl _, rfl⟩, ?_⟩
    simp only [Changes.touch, untouched, List.nil_append] at drafts
    rw [found]
    exact drafts
  · refine ⟨_, ⟨event, last.db, arrived, setting.drift_refl _, rfl⟩, ?_⟩
    rw [absent, Option.map_none, Option.toList_none, ← untouched]
    exact drafts

/-- The postings and the patch of a delivery. -/
theorem settle (drafts : world.Drafts who .readCommitted {}) {row : Transaction}
    (found : world.db.transactions.get? row.id = some row)
    (locked : world.rowLocks (.transaction row.id) = some who) (status : String) :
    setting.Within commit who
      (fun _ last => ∃ entries patches, DeliverySettles last.db row status entries patches ∧
        last.Drafts who .readCommitted
          (Settlement.changes { id := row.id, entries := entries, patches := patches }))
      (WebhooksService.settle row status) world := by
  unfold WebhooksService.settle DeliverySettles
  by_cases completed : status = "completed"
  · simp only [if_pos completed]
    apply (Within.credit drafts locked (numericOfText_amountText _)).bind
    rintro entry second _ kept ⟨currency, denominates, terms, drafts⟩
    apply (Within.newDate drafts).bind
    rintro now third _ keptThird drafts
    have keeps := kept.trans keptThird
    have drafts : third.Drafts who .readCommitted (Changes.postAll {} [entry]) := drafts
    refine (Within.updateKnown drafts ⟨row, (keeps.transaction locked).trans found⟩ rfl).mono ?_
    rintro _ last _ keptLast ⟨_, _, _, _, drafts⟩
    refine ⟨[entry], _, ⟨currency, now, ?_, ?_, rfl⟩, drafts⟩
    · exact denominates.persists (keptThird.trans keptLast).persists
    · rw [List.map_cons, List.map_nil, terms]
  · simp only [if_neg completed]
    by_cases failed : status = "failed"
    · simp only [if_pos failed]
      apply (Within.createCompensatingEntries drafts locked).bind
      rintro entries second _ kept ⟨terms, drafts⟩
      have foundSecond := (kept.transaction locked).trans found
      refine (Within.updateKnown drafts ⟨row, foundSecond⟩ rfl).mono ?_
      rintro _ last _ keptLast ⟨_, _, _, _, drafts⟩
      refine ⟨entries, _, ⟨?_, rfl⟩, drafts⟩
      rw [Database.originalDebits_congr (keptLast.entriesOf (kept.locks _ locked))]
      exact terms
    · simp only [if_neg failed]
      exact .ret ⟨[], [], ⟨rfl, rfl⟩, drafts⟩

/-- What the transaction of a delivery has drafted when it returns. -/
def Handles (setting : Setting) (deployment : Deployment) (who : ProcessId)
    (payload : WebhookPayloadDto) (rawBody : List UInt8) (signature : String)
    (found : Option Transaction) (last : World) : Prop :=
  ∃ changes, last.Drafts who .readCommitted changes ∧
    ∀ later : World, setting.Rely who last later → match found with
      | none => Misses setting payload later.db (changes.apply later.db)
      | some row => Delivers setting deployment payload rawBody signature later.db
          (changes.apply later.db) ∧ setting.LooksUp payload.reference (some row) later.db

/-- A delivery settles the locked payment it found. -/
theorem applyWebhook (drafts : world.Drafts who .readCommitted {}) {row : Transaction}
    (found : world.db.transactions.get? row.id = some row)
    (locked : world.rowLocks (.transaction row.id) = some who)
    (arrived : setting.Arrived payload event world.db)
    (looks : setting.LooksUp payload.reference (some row) world.db)
    {deployment : Deployment} {rawBody : List UInt8} {signature : String}
    (valid : WebhooksService.verifySignature deployment rawBody signature = true) :
    setting.Within commit who
      (fun _ last => Handles setting deployment who payload rawBody signature (some row) last)
      (WebhooksService.applyWebhook row payload event.id) world := by
  apply Within.require_bind
  intro allowed
  apply (Within.settle drafts found locked payload.status).bind
  rintro _ second _ kept₁ ⟨entries, patches, settles, drafts⟩
  have held := kept₁.locks _ locked
  apply (Within.insertHistory drafts _ _ _ held).bind
  rintro _ third _ kept₂ ⟨timestamp, drafts⟩
  apply (Within.newDate drafts).bind
  rintro processedAt fourth _ kept₃ drafts
  have before := (kept₁.trans kept₂).trans kept₃
  refine (Within.markEvent drafts rfl (arrived.drift before.drift) _).mono ?_
  rintro _ last _ kept₄ ⟨events, marks, drafts⟩
  refine ⟨_, drafts, fun later rely => ?_⟩
  have after := Keeps.of_rely rely
  have all := (before.trans kept₄).trans after
  have rest := ((kept₂.trans kept₃).trans kept₄).trans after
  have looked := looks.drift all.drift
  exact ⟨⟨valid, row, entries, patches, events, processedAt, timestamp, marks.drift rely.drift,
    looked, (all.transaction locked).trans found, allowed,
    settles.persists (rest.entriesOf held) rest.persists, rfl⟩, looked⟩

/-- Its transaction handles the event: it misses its payment or settles it. -/
theorem webhookBody (drafts : world.Drafts who .readCommitted {})
    (arrived : setting.Arrived payload event world.db)
    {deployment : Deployment} {rawBody : List UInt8} {signature : String}
    (valid : WebhooksService.verifySignature deployment rawBody signature = true) :
    setting.Within commit who (Handles setting deployment who payload rawBody signature)
      (WebhooksService.webhookBody payload event.id) world := by
  apply (Within.lockTransactionByReference drafts payload.reference).bind
  rintro found second _ kept₁ ⟨drafts, read, permitted, known, locks⟩
  rw [Changes.apply_empty] at read permitted
  have arrived := arrived.drift kept₁.drift
  have looks : setting.LooksUp payload.reference found second.db :=
    ⟨second.db, read.symm, permitted, known, setting.drift_refl _⟩
  cases found with
  | none =>
      apply (Within.markEvent drafts rfl arrived _).bind
      rintro _ third _ kept₂ ⟨events, marks, drafts⟩
      apply Within.ret
      refine ⟨_, drafts, fun later rely => ?_⟩
      exact ⟨events, _, marks.drift rely.drift,
        looks.drift (kept₂.trans (Keeps.of_rely rely)).drift, rfl⟩
  | some row =>
      have found := Database.byReference_get? read.symm
      apply (Within.applyWebhook drafts found (locks row rfl) arrived looks valid).bind
      rintro _ last _ _ handles
      exact .ret handles

end Within

/-! ## Deliveries as a whole -/

/-- The row a delivery inserts. -/
def eventDraft (payload : WebhookPayloadDto) (signatureValid : Bool) : EventDraft where
  providerReference := payload.reference
  eventType := payload.status
  signatureValid := signatureValid

/-- Why a delivery ended without an error. -/
inductive Answered (setting : Setting) (deployment : Deployment) (payload : WebhookPayloadDto)
    (rawBody : List UInt8) (signature : String) (db : Database) : Prop
  | forged (invalid : WebhooksService.verifySignature deployment rawBody signature = false)
  | known (seen : Database) (event : WebhookEvent)
      (found : seen.webhookEvents.get? (payload.reference, payload.status) = some event)
      (permitted : setting.permits seen (.sql (.insertEvent
        (eventDraft payload (WebhooksService.verifySignature deployment rawBody signature)))))
      (holds : setting.holds seen) (since : setting.drift seen db)
  | missed (looked : Database) (looks : setting.LooksUp payload.reference none looked)
  | applied (first second : Database)
      (delivers : Delivers setting deployment payload rawBody signature first second)
      (since : setting.drift second db)

namespace Outside

variable {setting : Setting} {commit : Database → Database → Prop} {who : ProcessId}
  {world : World} {payload : WebhookPayloadDto} {event : WebhookEvent} {deployment : Deployment}
  {rawBody : List UInt8} {signature : String}

/-- What the transaction of a delivery has committed when it returns. -/
def Handled (setting : Setting) (deployment : Deployment) (payload : WebhookPayloadDto)
    (rawBody : List UInt8) (signature : String) (found : Option Transaction) (db : Database) :
      Prop :=
  match found with
  | none => ∃ first, Misses setting payload first db
  | some row => ∃ first, Delivers setting deployment payload rawBody signature first db ∧
      setting.LooksUp payload.reference (some row) first

/-- A delivery with a valid signature commits what its transaction does. -/
theorem deliver (arrived : setting.Arrived payload event world.db)
    (valid : WebhooksService.verifySignature deployment rawBody signature = true)
    (included : ∀ first second, Misses setting payload first second ∨
      Delivers setting deployment payload rawBody signature first second → commit first second) :
    setting.Outside commit who
      (fun outcome last => ∀ found, outcome = .ok found →
        Handled setting deployment payload rawBody signature found last.db)
      (Payroute.transaction .readCommitted (WebhooksService.webhookBody payload event.id))
        world := by
  have begins : ∀ start : World, start.Sound → setting.Rely who world start →
      setting.Within commit who (Within.Handles setting deployment who payload rawBody signature)
        (WebhooksService.webhookBody payload event.id) (start.begin who .readCommitted) :=
    fun start _ rely => Within.webhookBody (.begin start who _) (arrived.drift rely.drift) valid
  refine Outside.transaction (fun start sound rely _ => begins start sound rely) ?_
    fun error last found absurd => by cases absurd
  rintro found before middle _ ⟨changes, drafts, commits⟩ rely
  have committed := commits middle rely
  refine ⟨changes, drafts.frame rely.frame, .inr ?_, fun last done other same => ?_⟩
  · cases found with
    | none => exact included _ _ (.inl committed)
    | some row => exact included _ _ (.inr committed.1)
  · cases same
    rw [done]
    cases found with
    | none => exact ⟨_, committed⟩
    | some row => exact ⟨_, committed⟩

/-- So it does with the log of a failure around it. -/
theorem applyEvent (arrived : setting.Arrived payload event world.db)
    (valid : WebhooksService.verifySignature deployment rawBody signature = true)
    (included : ∀ first second, Misses setting payload first second ∨
      Delivers setting deployment payload rawBody signature first second → commit first second) :
    setting.Outside commit who
      (fun outcome last => ∀ found, outcome = .ok found →
        Handled setting deployment payload rawBody signature found last.db)
      (WebhooksService.applyEvent payload event.id) world := by
  refine (Outside.deliver arrived valid included).tryCatch (fun value middle holds => holds)
    fun error middle _ => ?_
  have notes : setting.Outside commit who (fun _ _ => True)
      (Program.swallow (sql (.updateEvent event.id { error := some error.message }))) middle :=
    Outside.swallow (Outside.skipSide (by rfl) fun _ _ => trivial) fun _ _ _ => trivial
  refine notes.bind (fun _ _ _ => Outside.fail fun found absurd => by cases absurd)
    fun error last _ found absurd => by cases absurd

/-- What holds of the committed tables is not lost by announcing. -/
theorem announce {row : Transaction} {property : Database → Prop}
    (stable : ∀ first second, setting.drift first second → property first → property second)
    (holds : property world.db) :
    setting.Outside commit who (fun _ last => property last.db)
      (WebhooksService.announce row payload) world := by
  unfold WebhooksService.announce
  by_cases completed : payload.status = "completed"
  · rw [if_pos completed]
    exact Outside.pass (by trivial) stable holds
  · rw [if_neg completed]
    by_cases failed : payload.status = "failed"
    · rw [if_pos failed]
      exact Outside.pass (by trivial) stable holds
    · rw [if_neg failed]
      exact Outside.ret holds

/-- The handling of a stored event commits what its transaction does, and returns when it is
answered. -/
theorem handleEvent (arrived : setting.Arrived payload event world.db)
    (included : ∀ first second, Misses setting payload first second ∨
      Delivers setting deployment payload rawBody signature first second → commit first second) :
    setting.Outside commit who
      (fun outcome last => outcome = .ok () →
        setting.Answered deployment payload rawBody signature last.db)
      (WebhooksService.handleEvent payload
        (WebhooksService.verifySignature deployment rawBody signature) event.id) world := by
  unfold WebhooksService.handleEvent
  cases valid : WebhooksService.verifySignature deployment rawBody signature with
  | false => exact Outside.skipSide (by rfl) fun _ _ _ => .forged valid
  | true =>
      rw [if_pos rfl]
      refine (Outside.applyEvent arrived valid included).bind ?_ fun error last _ absurd => by
        cases absurd
      intro found second holds
      cases found with
      | none =>
          obtain ⟨first, _, _, _, looks, _⟩ := holds none rfl
          exact Outside.ret fun _ => .missed first looks
      | some row =>
          obtain ⟨first, delivers, _⟩ := holds (some row) rfl
          have stable : ∀ left right, setting.drift left right →
              setting.drift second.db left → setting.drift second.db right :=
            fun left right step since => setting.drift_trans _ _ _ since step
          have drops : setting.Outside commit who (fun _ last => setting.drift second.db last.db)
              PaymentsService.invalidatePaymentCaches second :=
            Outside.invalidatePaymentCaches _ stable (setting.drift_refl _)
          refine drops.bind (fun _ third since => ?_) fun error last _ absurd => by cases absurd
          exact (Outside.announce stable since).mono fun _ last since _ =>
            .applied first second.db delivers since

/-- The row of a delivery is inserted, unless there is one already. -/
theorem insertEvent (origin : setting.origin world.db) :
    setting.Outside commit who
      (fun outcome last => ∀ reply, outcome = .ok reply → match reply with
        | none => setting.Answered deployment payload rawBody signature last.db
        | some event => setting.Arrived payload event last.db)
      (sql (.insertEvent
        (eventDraft payload (WebhooksService.verifySignature deployment rawBody signature))))
          world := by
  refine Outside.side (by trivial) ?_ fun error middle _ reply absurd => by cases absurd
  intro middle sound closed rely permitted holds outcome done
  refine ⟨fun reply same => ?_, fun reply absurd => by cases absurd⟩
  cases same
  simp only [Statement.eval, Database.insertEvent] at done
  split at done
  · next event found =>
    cases done
    refine .known middle.db event found permitted holds ?_
    rw [World.apply_closed_db closed]
    exact setting.drift_refl _
  · next absent =>
    cases done
    have unused : ∀ old ∈ middle.db.webhookEvents.rows, old.id ≠ middle.next .event :=
      fun old member => Nat.ne_of_lt (sound.numbered.db.events old member)
    refine ⟨middle.db, setting.origin_drift _ _ origin rely.drift, absent, rfl, rfl, rfl, unused,
      ?_⟩
    rw [World.apply_closed_db closed]
    exact setting.drift_refl _

/-- So does the whole processing of a delivery. -/
theorem processWebhook (origin : setting.origin world.db)
    (included : ∀ first second, Misses setting payload first second ∨
      Delivers setting deployment payload rawBody signature first second → commit first second) :
    setting.Outside commit who
      (fun outcome last => outcome = .ok () →
        setting.Answered deployment payload rawBody signature last.db)
      (WebhooksService.processWebhook deployment payload rawBody signature) world := by
  refine (Outside.insertEvent origin).bind ?_ fun error last _ absurd => by cases absurd
  intro reply middle holds
  cases reply with
  | none => exact Outside.ret fun _ => holds none rfl
  | some event => exact Outside.handleEvent (holds (some event) rfl) included

end Outside
end Setting
end Payroute
