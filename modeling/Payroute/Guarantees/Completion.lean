import Payroute.Runs.Transitions

/-! # Only the provider completes a payment

In serial runs a payment is completed or disputed only after a signed webhook
reported its completion, unless a dispute is rejected for a payment in progress.
-/

namespace Payroute

open EffectSystem KeyedTable

/-- The operation rejects no dispute of a payment in progress. -/
def Command.RejectsDisputes (world : World) : Command → Prop
  | .resolveDispute id dto => ¬ (dto.action = .reject ∧
      (world.db.transactions.get? id).map Transaction.status = some .processing)
  | _ => True

instance (world : World) (command : Command) : Decidable (command.RejectsDisputes world) :=
  match command with
  | .resolveDispute _ _ => inferInstanceAs (Decidable (¬ _))
  | .createPayment _ _ | .process _ | .processWebhook _ _ _ | .onProviderJobExhausted _ _
  | .refundPayment _ _ | .raiseDispute _ _ | .retryStuckPayments | .cleanupExpiredIdempotencyKeys
  | .cleanupOldProcessedWebhookEvents => .isTrue trivial

/-- Earlier in the run a signed webhook that reported the completion of a payment was
processed and completed it. -/
def Reported (deployment : Deployment) (admits : World → Command → Prop) (initial last : World)
    (id : TransactionId) (reference : ProviderReference) : Prop :=
  ∃ (before after : World) (who : ProcessId) (rawBody : List UInt8) (signature : String)
    (choices : List Delivery),
    SerialRun deployment admits initial before ∧
    WebhooksService.verifySignature deployment rawBody signature = true ∧
    after = (backend.run who
      (WebhooksService.processWebhook deployment ⟨reference, "completed"⟩ rawBody signature) choices
      before).state ∧
    (before.db.transactions.get? id).map (fun row => (row.status, row.providerReference)) =
      some (.processing, some reference) ∧
    (after.db.transactions.get? id).map Transaction.status = some .completed ∧
    SerialRun deployment admits after last

/-- The payment has been reported. -/
def Transaction.ReportedIn (row : Transaction) (deployment : Deployment)
    (admits : World → Command → Prop) (initial last : World) : Prop :=
  row.status = .completed ∨ row.status = .disputed → ∃ reference,
    row.providerReference = some reference ∧
    Reported deployment admits initial last row.id reference

section Runs

variable {deployment : Deployment} {admits : World → Command → Prop} {initial world last : World}

theorem Reported.extend {id : TransactionId} {reference : ProviderReference}
    (reported : Reported deployment admits initial world id reference)
    (step : SerialStep deployment admits world last) :
    Reported deployment admits initial last id reference := by
  obtain ⟨before, after, who, rawBody, signature, choices, run, signed, delivered, processing,
    completed, rest⟩ := reported
  exact ⟨before, after, who, rawBody, signature, choices, run, signed, delivered, processing,
    completed, rest.tail step⟩

/-- A row that keeps its reference stays reported where it was reported before. -/
theorem Transaction.ReportedIn.extend {old new : Transaction}
    (reported : old.ReportedIn deployment admits initial world)
    (step : SerialStep deployment admits world last) (id : new.id = old.id)
    (reference : new.providerReference = old.providerReference)
    (settled : new.status = .completed ∨ new.status = .disputed →
      old.status = .completed ∨ old.status = .disputed) :
    new.ReportedIn deployment admits initial last := by
  intro status
  obtain ⟨stored, named, earlier⟩ := reported (settled status)
  rw [reference, id]
  exact ⟨stored, named, earlier.extend step⟩

/-- A step by an operation that rejects only disputes leaves its payment reported. -/
theorem Command.Transition.reported {command : Command} {who : ProcessId} {choices : List Delivery}
    {old new : Dossier} (transition : command.Transition deployment old new)
    (run : SerialRun deployment admits initial world) (admitted : admits world command)
    (rejects : command.RejectsDisputes world)
    (before : world.db.transactions.get? old.row.id = some old.row)
    (after : (backend.run who (command.program deployment) choices world).state.db.transactions.get?
      old.row.id = some new.row)
    (reported : old.row.ReportedIn deployment admits initial world) :
    new.row.ReportedIn deployment admits initial
      (backend.run who (command.program deployment) choices world).state := by
  have step : SerialStep deployment admits world
      (backend.run who (command.program deployment) choices world).state :=
    .command who command choices admitted
  cases transition with
  | submit data reference named eligible continues =>
      rw [continues.row] at after ⊢
      intro status
      have absurd : old.row.status = .completed ∨ old.row.status = .disputed := status
      rw [eligible.1] at absurd
      rcases absurd with absurd | absurd <;> cases absurd
  | complete payload rawBody signature completedAt signed status referenced allowed continues =>
      rcases allowed with processing | disputed
      · obtain ⟨reference, named⟩ := payload
        cases status
        intro _
        rw [continues.row] at after ⊢
        refine ⟨reference, referenced, world, _, who, rawBody, signature, choices, run, signed, rfl,
          ?_, ?_, .refl⟩
        · change (world.db.transactions.get? old.row.id).map _ = _
          rw [before, Option.map_some, processing, referenced]
        · exact congrArg (Option.map Transaction.status) after
      · rw [continues.row]
        exact reported.extend step rfl rfl fun _ => .inr disputed
  | fail payload rawBody signature signed status referenced allowed continues =>
      rw [continues.row]
      rintro (absurd | absurd) <;> cases absurd
  | note payload rawBody signature signed uncompleted unfailed allowed continues =>
      rw [continues.row]
      exact reported.extend step rfl rfl fun status => status
  | exhaust jobId failedReason allowed continues =>
      rw [continues.row]
      rintro (absurd | absurd) <;> cases absurd
  | refund dto allowed continues =>
      rw [continues.row]
      rintro (absurd | absurd) <;> cases absurd
  | dispute dto allowed continues =>
      rw [continues.row]
      exact reported.extend step rfl rfl fun _ => .inl allowed
  | reverse allowed continues =>
      rw [continues.row]
      rintro (absurd | absurd) <;> cases absurd
  | reject allowed continues =>
      rcases allowed with processing | disputed
      · refine (rejects ⟨rfl, ?_⟩).elim
        rw [before, Option.map_some, processing]
      · rw [continues.row]
        exact reported.extend step rfl rfl fun _ => .inr disputed

end Runs

/-- In every serial run that rejects only disputes, each completed or disputed payment
was completed by a signed webhook with its reference earlier in the run. -/
theorem completed_by_provider (deployment : Deployment) {initial last : World}
    (rest : initial.AtRest) (empty : initial.db.transactions.rows = [])
    (run : SerialRun deployment (fun world command => command.RejectsDisputes world) initial last) :
    ∀ row ∈ last.db.transactions.rows, row.status = .completed ∨ row.status = .disputed →
      ∃ reference, row.providerReference = some reference ∧
        Reported deployment (fun world command => command.RejectsDisputes world) initial last row.id
          reference := by
  have held : last.AtRest ∧ ∀ row ∈ last.db.transactions.rows, row.ReportedIn deployment
      (fun world command => command.RejectsDisputes world) initial last := by
    induction run with
    | refl =>
        refine ⟨rest, fun row member => ?_⟩
        rw [empty] at member
        cases member
    | @tail world last earlier step ih =>
        obtain ⟨rested, reported⟩ := ih
        -- A row that the step does not touch was reported before.
        have kept : ∀ row : Transaction, world.db.transactions.get? row.id = some row →
            row.ReportedIn deployment _ initial last := fun row found =>
          (reported row (Table.mem_of_get? found)).extend step rfl rfl fun status => status
        cases step with
        | command who command choices admitted =>
            refine ⟨(Command.run_alone deployment rested who command choices).1,
              fun row member => ?_⟩
            have current := Table.get?_of_mem member
            change _ = some row at current
            cases Command.run_performs deployment rested who command choices with
            | rests same =>
                rw [same.transactions] at current
                exact kept row current
            | opens dto idempotencyKey new created first second creates checked entry opened
                reserved posting
                absent after others =>
                by_cases same : row.id = new.id
                · have fresh := (Database.get?_of_dossier after).1
                  rw [← same] at fresh
                  cases Option.some.inj (current.symm.trans fresh)
                  rintro (absurd | absurd) <;> cases absurd
                · exact kept row ((Database.get?_congr (others row.id same)).symm.trans current)
            | continues id old new moves transition =>
                have named := Database.dossier_row_id moves.before
                have before := (Database.get?_of_dossier moves.before).1
                have after := (Database.get?_of_dossier moves.after).1
                rw [← named] at before after
                by_cases same : row.id = old.row.id
                · rw [← same] at after
                  cases Option.some.inj (current.symm.trans after)
                  rw [same] at after
                  exact transition.reported earlier admitted admitted before after
                    (reported old.row (Table.mem_of_get? before))
                · rw [named] at same
                  exact kept row
                    ((Database.get?_congr (moves.others row.id same)).symm.trans current)
        | elapse passed =>
            refine ⟨.of_sound ((World.Elapses.aside passed).sound rested.sound) fun who => ?_,
              fun row member => ?_⟩
            · rw [passed.sessions]
              exact rested.sessions who
            · rw [passed.db] at member
              exact kept row (Table.get?_of_mem member)
  exact held.2

theorem completed_by_provider_sample :
    let last := runAll sampleDeployment sampleCompletion sampleWorld
    ∀ row ∈ last.db.transactions.rows, row.status = .completed ∨ row.status = .disputed →
      ∃ reference, row.providerReference = some reference ∧
        Reported sampleDeployment (fun world command => command.RejectsDisputes world) sampleWorld
          last row.id reference :=
  completed_by_provider sampleDeployment sampleWorld_atRest rfl
    (runAll_run sampleCompletion (by decide +kernel))

/-- A payment in progress is completed by rejecting a dispute nobody raised. -/
def sampleUnreported : List (Command × List Delivery) :=
  [(.createPayment samplePayment "key", []), (.resolveDispute 0 ⟨.reject⟩, [])]

/-- A payment without a provider reference can become completed. -/
theorem rejection_completes_unreported :
    ∃ (deployment : Deployment) (initial last : World), initial.AtRest ∧
      initial.db.transactions.rows = [] ∧ SerialRun deployment (fun _ _ => True) initial last ∧
      ∃ row ∈ last.db.transactions.rows, row.status = .completed ∧ row.providerReference = none ∧
        ¬ ∃ reference, row.providerReference = some reference ∧
          Reported deployment (fun _ _ => True) initial last row.id reference := by
  have shape : ((runAll sampleDeployment sampleUnreported sampleWorld).db.transactions.get? 0).map
      (fun row => (row.status, row.providerReference)) =
        some (.completed, none) := by decide +kernel
  obtain ⟨row, found, same⟩ := Option.map_eq_some_iff.mp shape
  obtain ⟨completed, unreferenced⟩ := Prod.mk.inj same
  refine ⟨sampleDeployment, sampleWorld, _, sampleWorld_atRest, rfl,
    runAll_run sampleUnreported (by decide +kernel), row, Table.mem_of_get? found, completed,
    unreferenced, ?_⟩
  rintro ⟨reference, named, _⟩
  rw [unreferenced] at named
  cases named

end Payroute
