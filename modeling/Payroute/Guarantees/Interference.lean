import Payroute.Runs.Twins
import Payroute.Runs.Serial

/-! # Forged deliveries

A delivery whose signature is not the HMAC of its body moves no money, but it stores an event
row, and a row keeps later deliveries of the same reference and type out. Two runs that
differ in forged deliveries alone keep the same books as long as no delivery with a valid
signature meets a row that only the full run has.
-/

namespace Payroute

open EffectSystem KeyedTable Program

/-! ## Programs -/

section Programs

variable {α : Type} {ties later : Ties}

/-- Programs of two runs that go in step. -/
abbrev InStep (ties : Ties) (body image : Service α) : Prop :=
  Alike (Operation.Twins ties) body image

theorem InStep.grow {body image : Service α} (step : InStep ties body image)
    (grows : ties.Grows later) : InStep later body image :=
  step.mono fun _ _ twins => twins.grow grows

/-- A program that touches no event rows goes in step with itself. -/
theorem inStep_of_eventless {body : Service α} (eventless : body.OnlyCalls Operation.Eventless) :
    InStep ties body body :=
  .of_onlyCalls (fun _ calls => .same calls) eventless

theorem inStep_mark {tie : Tie} (made : tie ∈ ties.made) (patch : WebhookEventPatch) :
    InStep ties (sql (.updateEvent tie.short patch)) (sql (.updateEvent tie.full patch)) := by
  refine .call (.mark made patch) fun reply answer same => ?_
  have equal : reply = answer := eq_of_heq same
  subst equal
  cases reply with
  | ok value => exact .ret value
  | error error => exact .fail error

theorem inStep_transaction {body image : Service α} (isolation : Isolation)
    (step : InStep ties body image) :
    InStep ties (transaction isolation body) (transaction isolation image) := by
  refine .tryCatch ?_ fun error => inStep_of_eventless (.bind (onlyCalls_perform trivial)
    fun _ => trivial)
  refine .bind (inStep_of_eventless (onlyCalls_perform trivial)) fun _ => .bind step fun value => ?_
  exact inStep_of_eventless (.bind (onlyCalls_perform trivial) fun _ => trivial)

end Programs

namespace Operation

theorem Ordinary.eventless {op : Operation} (ordinary : op.Ordinary) : op.Eventless := by
  cases op with
  | sql statement =>
      cases statement with
      | insertEvent _ | updateEvent _ _ => exact ordinary.elim
      | _ => trivial
  | _ => trivial

theorem Sweeping.eventless {op : Operation} (sweeping : op.Sweeping) : op.Eventless := by
  cases op with
  | sql statement =>
      cases statement with
      | select query => trivial
      | _ => exact sweeping.elim
  | _ => trivial

end Operation

namespace WebhooksService

variable {ties : Ties} {tie : Tie}

/-- A delivery with a valid signature is handled alike, with its own event row in each run. -/
theorem inStep_handleEvent (payload : WebhookPayloadDto) (made : tie ∈ ties.made) :
    InStep ties (handleEvent payload true tie.short) (handleEvent payload true tie.full) := by
  have booking : ∀ {α : Type} {body : Service α}, Booking body → InStep ties body body :=
    fun booking => inStep_of_eventless (booking.mono fun _ calls =>
      (Operation.Booking.inner calls).ordinary.eventless)
  have serving : ∀ {α : Type} {body : Service α}, Serving body → InStep ties body body :=
    fun serving => inStep_of_eventless (serving.mono fun _ calls =>
      (Operation.Serving.ordinary calls).eventless)
  have body : InStep ties (webhookBody payload tie.short) (webhookBody payload tie.full) := by
    refine .bind (booking (booking_call trivial)) fun found => ?_
    cases found with
    | none => exact .bind (inStep_mark made _) fun _ => .ret none
    | some row =>
        refine .bind ?_ fun _ => .ret _
        refine .bind (booking (onlyCalls_require _ _)) fun _ => ?_
        refine .bind (booking (booking_settle _ _)) fun _ => ?_
        refine .bind (booking (booking_call trivial)) fun _ => ?_
        exact .bind (booking (booking_call trivial)) fun _ => inStep_mark made _
  have applies : InStep ties (applyEvent payload tie.short) (applyEvent payload tie.full) :=
    .tryCatch (inStep_transaction _ body) fun error =>
      .bind (.swallow (inStep_mark made _)) fun _ => .fail error
  refine .bind applies fun processed => ?_
  cases processed with
  | none => exact .ret ()
  | some row =>
      exact .bind (serving PaymentsService.serving_invalidatePaymentCaches) fun _ =>
        serving (serving_announce row payload)

/-- The row a delivery asks for. -/
def draft (deployment : Deployment) (payload : WebhookPayloadDto) (rawBody : List UInt8)
    (signature : String) : EventDraft where
  providerReference := payload.reference
  eventType := payload.status
  signatureValid := verifySignature deployment rawBody signature

/-- What follows the storing of a delivery without a valid signature. -/
theorem noting_handleEvent (payload : WebhookPayloadDto) (eventId : Nat) :
    (handleEvent payload false eventId).OnlyCalls Operation.Noting :=
  onlyCalls_perform rfl

/-- The handling of a delivery begins by storing it. -/
theorem processWebhook_call (deployment : Deployment) (payload : WebhookPayloadDto)
    (rawBody : List UInt8) (signature : String) :
    ∃ next, processWebhook deployment payload rawBody signature =
        .call (.sql (.insertEvent (draft deployment payload rawBody signature))) next ∧
      (∀ error, next (.error error) = .fail error) ∧ next (.ok none) = .ret () ∧
      (∀ event, next (.ok (some event)) =
        handleEvent payload (verifySignature deployment rawBody signature) event.id) ∧
      (verifySignature deployment rawBody signature = false →
        ∀ reply, (next reply).OnlyCalls Operation.Noting) := by
  refine ⟨_, rfl, fun _ => rfl, rfl, fun _ => rfl, fun invalid reply => ?_⟩
  cases reply with
  | error error => trivial
  | ok stored =>
      cases stored with
      | none => trivial
      | some event =>
          change (handleEvent payload (verifySignature deployment rawBody signature)
            event.id).OnlyCalls Operation.Noting
          rw [invalid]
          exact noting_handleEvent payload event.id

/-- The handling of a delivery without a valid signature notes that on its event row. -/
theorem intruding_processWebhook {deployment : Deployment} {rawBody : List UInt8}
    {signature : String} (payload : WebhookPayloadDto)
    (invalid : verifySignature deployment rawBody signature = false) :
    (processWebhook deployment payload rawBody signature).OnlyCalls Operation.Intruding := by
  obtain ⟨next, shape, _, _, _, noting⟩ :=
    processWebhook_call deployment payload rawBody signature
  rw [shape]
  exact ⟨trivial, fun reply => (noting invalid reply).mono fun _ => Operation.Noting.intruding⟩

end WebhooksService

theorem WebhooksService.verifySignature_of_ne {deployment : Deployment} {rawBody : List UInt8}
    {signature : String}
    (forged : deployment.hmacSha256 deployment.webhookSecret rawBody ≠ signature) :
    verifySignature deployment rawBody signature = false := by
  unfold verifySignature
  split
  · rfl
  · dsimp only
    split
    · rfl
    · exact beq_false_of_ne forged

/-- The operations other than deliveries touch no event rows. -/
theorem Command.eventless (deployment : Deployment) {command : Command}
    (other : ∀ payload rawBody signature, command ≠ .processWebhook payload rawBody signature) :
    (command.program deployment).OnlyCalls Operation.Eventless := by
  refine Command.onlyCalls deployment (fun _ => Operation.Ordinary.eventless)
    (fun _ => Operation.Sweeping.eventless) (fun _ => trivial) (fun _ => trivial) command ?_ ?_
  · intro data _
    exact ProviderProcessor.onlyCalls_process data (fun _ => trivial) (fun _ => trivial)
      (fun _ _ => trivial) (fun _ _ => trivial) fun _ => trivial
  · intro payload rawBody signature same
    exact (other payload rawBody signature same).elim

/-! ## Two runs -/

/-- A delivery whose signature is not the HMAC of its raw body. -/
def Command.Forged (deployment : Deployment) : Command → Prop
  | .processWebhook _ rawBody signature =>
      deployment.hmacSha256 deployment.webhookSecret rawBody ≠ signature
  | _ => False

instance (deployment : Deployment) : (command : Command) → Decidable (command.Forged deployment)
  | .processWebhook _ rawBody signature =>
      inferInstanceAs (Decidable (deployment.hmacSha256 deployment.webhookSecret rawBody ≠
        signature))
  | .createPayment _ _ | .process _ | .onProviderJobExhausted _ _ | .refundPayment _ _
  | .raiseDispute _ _ | .resolveDispute _ _ | .retryStuckPayments
  | .cleanupExpiredIdempotencyKeys | .cleanupOldProcessedWebhookEvents => .isFalse id

/-- The validly signed delivery a process is about to store. -/
def arrival : Option (Service Unit) → Option EventDraft
  | some (.call (.sql (.insertEvent draft)) _) => if draft.signatureValid then some draft else none
  | _ => none

namespace Entry

/-- Whether both runs have the entry: the additional processes are in the full run alone. -/
def common (extra : ProcessId → Bool) : Entry → Bool
  | start who _ | call who _ | finish who | die who => !extra who
  | elapse _ _ _ _ => true

/-- The additional processes handle forged deliveries. -/
def Forges (deployment : Deployment) (extra : ProcessId → Bool) : Entry → Prop
  | start who command => extra who = true → command.Forged deployment
  | _ => True

instance (deployment : Deployment) (extra : ProcessId → Bool) :
    (entry : Entry) → Decidable (entry.Forges deployment extra)
  | start who command => inferInstanceAs (Decidable (extra who = true → command.Forged deployment))
  | call _ _ | finish _ | die _ | elapse _ _ _ _ => .isTrue trivial

/-- A validly signed delivery whose storing is answered next finds its key taken in the full
run only where it does so in the short one. -/
def Clear (short full : Pool ProcessId Failure Operation.Reply World) : Entry → Prop
  | call who .delivered => ∀ draft ∈ arrival (full.running who),
      draft.Taken full.shared.db → draft.Taken short.shared.db
  | _ => True

instance (short full : Pool ProcessId Failure Operation.Reply World) :
    (entry : Entry) → Decidable (entry.Clear short full)
  | call who .delivered => inferInstanceAs (Decidable (∀ draft ∈ arrival (full.running who),
      draft.Taken full.shared.db → draft.Taken short.shared.db))
  | call _ .lost | call _ .unacknowledged | start _ _ | finish _ | die _ | elapse _ _ _ _ =>
      .isTrue trivial

end Entry

/-- The books after every common step are the same with the additional processes and
without them. -/
def Undisturbed (deployment : Deployment) (extra : ProcessId → Bool) (schedule : List Entry)
    (initial : World) : Prop :=
  ∀ earlier, earlier <+: schedule →
    (Entry.playAll deployment (earlier.filter (Entry.common extra))
        (Pool.quiet initial)).shared.db.SameBooks
      (Entry.playAll deployment earlier (Pool.quiet initial)).shared.db

/-! ### How the processes stand -/

/-- How a process of both runs stands: it goes in step, a delivery is about to be stored, or
the delivery had no valid signature and each run may still note that. -/
inductive Counterparts (deployment : Deployment) (ties : Ties) (resting : Prop) :
    Option (Service Unit) → Option (Service Unit) → Prop
  | idle : Counterparts deployment ties resting none none
  | inStep {body image : Service Unit} (step : InStep ties body image) :
      Counterparts deployment ties resting (some body) (some image)
  | arriving (payload : WebhookPayloadDto) (rawBody : List UInt8) (signature : String)
      (rests : resting) :
      Counterparts deployment ties resting
        (some (WebhooksService.processWebhook deployment payload rawBody signature))
        (some (WebhooksService.processWebhook deployment payload rawBody signature))
  | noting {body image : Service Unit} (first : body.OnlyCalls Operation.Noting)
      (second : image.OnlyCalls Operation.Noting) (rests : resting) :
      Counterparts deployment ties resting (some body) (some image)

theorem Counterparts.grow {deployment : Deployment} {ties later : Ties} {resting : Prop}
    {body image : Option (Service Unit)}
    (stands : Counterparts deployment ties resting body image) (grows : ties.Grows later)
    {still : Prop} (keeps : resting → still) : Counterparts deployment later still body image := by
  cases stands with
  | idle => exact .idle
  | inStep step => exact .inStep (step.grow grows)
  | arriving payload rawBody signature rests =>
      exact .arriving payload rawBody signature (keeps rests)
  | noting first second rests => exact .noting first second (keeps rests)

/-- The full run mirrors the short one, and its additional processes only intrude. -/
structure Mirrors (deployment : Deployment) (extra : ProcessId → Bool) (ties : Ties)
    (short full : Pool ProcessId Failure Operation.Reply World) : Prop where
  twins : short.shared.Twins ties full.shared
  common : ∀ who, extra who = false →
    Counterparts deployment ties (short.shared.sessions who = none) (short.running who)
      (full.running who)
  closed : ∀ who, extra who = true → full.shared.sessions who = none
  intrudes : ∀ who, extra who = true → ∀ body, full.running who = some body →
    body.OnlyCalls Operation.Intruding

namespace Mirrors

variable {deployment : Deployment} {extra : ProcessId → Bool} {ties later : Ties}
  {short full : Pool ProcessId Failure Operation.Reply World} {who : ProcessId}

theorem ne_of_roles {other : ProcessId} (ordinary : extra who = false)
    (additional : extra other = true) : other ≠ who := by
  rintro rfl
  rw [ordinary] at additional
  cases additional

/-- A process of both runs moves on, and the others stay where they are. -/
theorem both (mirrors : Mirrors deployment extra ties short full) (ordinary : extra who = false)
    (grows : ties.Grows later) {world image : World} (twins : world.Twins later image)
    (others : ∀ other, other ≠ who → world.sessions other = short.shared.sessions other)
    {body next : Option (Service Unit)}
    (stands : Counterparts deployment later (world.sessions who = none) body next) :
    Mirrors deployment extra later ⟨world, Function.update short.running who body⟩
      ⟨image, Function.update full.running who next⟩ := by
  refine ⟨twins, fun other common => ?_, fun other additional => ?_,
    fun other additional rest current => ?_⟩
  · by_cases same : other = who
    · subst same
      simp only [Function.update_self]
      exact stands
    · simp only [Function.update_of_ne same]
      refine (mirrors.common other common).grow grows fun closed => ?_
      rw [others other same]
      exact closed
  · have differs := ne_of_roles ordinary additional
    rw [twins.closed_iff, others other differs, ← mirrors.twins.closed_iff]
    exact mirrors.closed other additional
  · have differs := ne_of_roles ordinary additional
    simp only [Function.update_of_ne differs] at current
    exact mirrors.intrudes other additional rest current

/-- An additional process moves on in the full run. -/
theorem alone (mirrors : Mirrors deployment extra ties short full) (additional : extra who = true)
    (grows : ties.Grows later) {image : World} (twins : short.shared.Twins later image)
    (closed : image.sessions who = none) {next : Option (Service Unit)}
    (intrudes : ∀ body, next = some body → body.OnlyCalls Operation.Intruding) :
    Mirrors deployment extra later short ⟨image, Function.update full.running who next⟩ := by
  refine ⟨twins, fun other common => ?_, fun other extraneous => ?_,
    fun other extraneous rest current => ?_⟩
  · have differs := (ne_of_roles common additional).symm
    simp only [Function.update_of_ne differs]
    exact (mirrors.common other common).grow grows id
  · by_cases same : other = who
    · rw [same]
      exact closed
    · rw [twins.closed_iff, ← mirrors.twins.closed_iff]
      exact mirrors.closed other extraneous
  · by_cases same : other = who
    · subst same
      simp only [Function.update_self] at current
      exact intrudes rest current
    · simp only [Function.update_of_ne same] at current
      exact mirrors.intrudes other extraneous rest current

/-! ### Calls -/

theorem play_call {pool : Pool ProcessId Failure Operation.Reply World} {op : Operation}
    {next : Except Failure op.Reply → Service Unit}
    (current : pool.running who = some (.call op next)) (delivery : Delivery) :
    Pool.play backend pool (.call who delivery) =
      ⟨(World.exec who delivery op pool.shared).2, Function.update pool.running who
        (some (next (World.exec who delivery op pool.shared).1))⟩ :=
  Pool.play_call current delivery

/-- What a process does that only notes something on an event row. -/
theorem play_noting {pool : Pool ProcessId Failure Operation.Reply World} {body : Service Unit}
    (current : pool.running who = some body) (noting : body.OnlyCalls Operation.Noting)
    (closed : pool.shared.sessions who = none) (delivery : Delivery) :
    ∃ (world : World) (rest : Service Unit),
      Pool.play backend pool (.call who delivery) =
        ⟨world, Function.update pool.running who (some rest)⟩ ∧
      rest.OnlyCalls Operation.Noting ∧ world.sessions = pool.shared.sessions ∧
      (∀ ties (image : World), pool.shared.Twins ties image → world.Twins ties image) ∧
      ∀ ties (image : World), image.Twins ties pool.shared → image.Twins ties world := by
  have same : (⟨pool.shared, Function.update pool.running who (some body)⟩ :
      Pool ProcessId Failure Operation.Reply World) = pool := by
    rw [← current, Function.update_eq_self]
  cases body with
  | ret value =>
      refine ⟨_, _, (Pool.play_still current delivery ?_).trans same.symm, noting, rfl,
        fun _ _ twins => twins, fun _ _ twins => twins⟩
      rintro op next ⟨⟩
  | fail error =>
      refine ⟨_, _, (Pool.play_still current delivery ?_).trans same.symm, noting, rfl,
        fun _ _ twins => twins, fun _ _ twins => twins⟩
      rintro op next ⟨⟩
  | call op next =>
      obtain ⟨statement, rfl⟩ := noting.1.intruding.statement
      refine ⟨_, _, play_call current delivery, noting.2 _, ?_, ?_, ?_⟩
      · funext other
        by_cases same : other = who
        · rw [same, World.closed_exec closed, closed]
        · exact World.exec_sessions same delivery _
      · exact fun ties image twins => twins.note_short closed noting.1 delivery
      · exact fun ties image twins => twins.note_full closed noting.1 delivery

/-- A delivery of both runs is stored. -/
theorem arrive (mirrors : Mirrors deployment extra ties short full) (ordinary : extra who = false)
    {payload : WebhookPayloadDto} {rawBody : List UInt8} {signature : String}
    (current : short.running who =
      some (WebhooksService.processWebhook deployment payload rawBody signature))
    (counterpart : full.running who =
      some (WebhooksService.processWebhook deployment payload rawBody signature))
    (closed : short.shared.sessions who = none) {delivery : Delivery}
    (clear : (Entry.call who delivery).Clear short full) :
    ∃ later, Mirrors deployment extra later (Pool.play backend short (.call who delivery))
      (Pool.play backend full (.call who delivery)) := by
  obtain ⟨next, shape, failed, known, stored, noting⟩ :=
    WebhooksService.processWebhook_call deployment payload rawBody signature
  rw [shape] at current counterpart
  rw [play_call current, play_call counterpart]
  obtain ⟨later, grows, twins, received⟩ := mirrors.twins.insertEvent closed
    (WebhooksService.draft deployment payload rawBody signature) delivery
  refine ⟨later, mirrors.both ordinary grows twins
    (fun other differs => World.exec_sessions differs delivery _) ?_⟩
  cases valid : WebhooksService.verifySignature deployment rawBody signature with
  | true =>
      have arrives : arrival (full.running who) =
          some (WebhooksService.draft deployment payload rawBody signature) := by
        rw [counterpart]
        exact if_pos valid
      have replies := received (by rintro rfl; exact clear _ arrives)
      refine .inStep ?_
      generalize (World.exec who delivery _ short.shared).1 = reply,
        (World.exec who delivery _ full.shared).1 = answer at replies ⊢
      cases replies with
      | failed error =>
          rw [failed]
          exact .fail error
      | known =>
          rw [known]
          exact .ret ()
      | stored made short full =>
          rw [stored, stored, valid, short, full]
          exact WebhooksService.inStep_handleEvent payload made
  | false => exact .noting (noting valid _) (noting valid _) (World.closed_exec closed delivery _)

/-- A call of a process of both runs. -/
theorem call (mirrors : Mirrors deployment extra ties short full) (ordinary : extra who = false)
    {delivery : Delivery} (clear : (Entry.call who delivery).Clear short full) :
    ∃ later, Mirrors deployment extra later (Pool.play backend short (.call who delivery))
      (Pool.play backend full (.call who delivery)) := by
  have stands := mirrors.common who ordinary
  generalize current : short.running who = body, counterpart : full.running who = image at stands
  cases stands with
  | idle =>
      rw [Pool.play_still current delivery (by rintro op next ⟨⟩),
        Pool.play_still counterpart delivery (by rintro op next ⟨⟩)]
      exact ⟨ties, mirrors⟩
  | inStep step =>
      cases step with
      | ret value | fail error =>
          rw [Pool.play_still current delivery (by rintro op next ⟨⟩),
            Pool.play_still counterpart delivery (by rintro op next ⟨⟩)]
          exact ⟨ties, mirrors⟩
      | call corresponds rest =>
          rw [play_call current, play_call counterpart]
          obtain ⟨replies, twins⟩ := mirrors.twins.exec corresponds delivery
          exact ⟨ties, mirrors.both ordinary (.refl ties) twins
            (fun other differs => World.exec_sessions differs delivery _)
            (.inStep (rest _ _ replies))⟩
  | arriving payload rawBody signature closed =>
      exact mirrors.arrive ordinary current counterpart closed clear
  | noting first second closed =>
      have ended := (mirrors.twins.closed_iff who).mpr closed
      obtain ⟨world, rest, played, noting, sessions, left, _⟩ :=
        play_noting current first closed delivery
      obtain ⟨other, following, replayed, noted, _, _, right⟩ :=
        play_noting counterpart second ended delivery
      rw [played, replayed]
      refine ⟨ties, mirrors.both ordinary (.refl ties) (left _ _ (right _ _ mirrors.twins))
        (fun other _ => congrFun sessions other) (.noting noting noted ?_)⟩
      rw [sessions]
      exact closed

/-! ### Entries -/

/-- What is known of every pool that concurrent operations reach. -/
abbrev Sound (deployment : Deployment) (pool : Pool ProcessId Failure Operation.Reply World) :
    Prop :=
  concurrent.Valid (Command.CommitsOf concurrent deployment fun _ => True) (fun _ _ _ => True) pool

/-- An entry of both runs. -/
theorem common_step (mirrors : Mirrors deployment extra ties short full)
    (sound : Sound deployment full) {entry : Entry} (common : entry.common extra = true)
    (playable : entry.Playable full) (clear : entry.Clear short full) :
    ∃ later, Mirrors deployment extra later (entry.play deployment short)
      (entry.play deployment full) := by
  cases entry with
  | start who command =>
      have closed : short.shared.sessions who = none :=
        (mirrors.twins.closed_iff who).mp
          (sound.resting who (Option.isNone_iff_eq_none.mp playable))
      refine ⟨ties, mirrors.both ((Bool.not_eq_true' _).mp common) (.refl ties) mirrors.twins
        (fun _ _ => rfl) ?_⟩
      cases command with
      | processWebhook payload rawBody signature =>
          exact .arriving payload rawBody signature closed
      | _ => exact .inStep (inStep_of_eventless (Command.eventless deployment (by rintro _ _ _ ⟨⟩)))
  | call who delivery => exact mirrors.call ((Bool.not_eq_true' _).mp common) clear
  | finish who =>
      exact ⟨ties, mirrors.both ((Bool.not_eq_true' _).mp common) (.refl ties) mirrors.twins
        (fun _ _ => rfl) .idle⟩
  | die who =>
      exact ⟨ties, mirrors.both ((Bool.not_eq_true' _).mp common) (.refl ties)
        (mirrors.twins.release who) (fun other differs => Function.update_of_ne differs _ _) .idle⟩
  | elapse time lockLapses entryLapses jobs =>
      exact ⟨ties, mirrors.twins.elapse time lockLapses entryLapses jobs, mirrors.common,
        mirrors.closed, mirrors.intrudes⟩

/-- An entry of the full run alone. -/
theorem extra_step (mirrors : Mirrors deployment extra ties short full)
    (sound : Sound deployment full) {entry : Entry} (additional : entry.common extra = false)
    (forges : entry.Forges deployment extra) :
    ∃ later, Mirrors deployment extra later short (entry.play deployment full) := by
  cases entry with
  | start who command =>
      have own : extra who = true := (Bool.not_eq_false' _).mp additional
      refine ⟨ties, mirrors.alone own (.refl ties) mirrors.twins (mirrors.closed who own) ?_⟩
      rintro body ⟨⟩
      have forged := forges own
      cases command with
      | processWebhook payload rawBody signature =>
          exact WebhooksService.intruding_processWebhook payload
            (WebhooksService.verifySignature_of_ne forged)
      | _ => exact forged.elim
  | call who delivery =>
      have own : extra who = true := (Bool.not_eq_false' _).mp additional
      change ∃ later, Mirrors deployment extra later short
        (Pool.play backend full (.call who delivery))
      cases current : full.running who with
      | none =>
          rw [Pool.play_still current delivery (by rintro op next ⟨⟩)]
          exact ⟨ties, mirrors⟩
      | some body =>
          cases body with
          | ret value | fail error =>
              rw [Pool.play_still current delivery (by rintro op next ⟨⟩)]
              exact ⟨ties, mirrors⟩
          | call op next =>
              have only := mirrors.intrudes who own _ current
              have closed := mirrors.closed who own
              obtain ⟨later, grows, twins⟩ := mirrors.twins.intrude closed only.1 delivery
              rw [play_call current]
              obtain ⟨statement, rfl⟩ := only.1.statement
              refine ⟨later, mirrors.alone own grows twins
                (World.closed_exec closed delivery statement) ?_⟩
              rintro rest ⟨⟩
              exact only.2 _
  | finish who =>
      have own : extra who = true := (Bool.not_eq_false' _).mp additional
      refine ⟨ties, mirrors.alone own (.refl ties) mirrors.twins (mirrors.closed who own) ?_⟩
      rintro body ⟨⟩
  | die who =>
      have own : extra who = true := (Bool.not_eq_false' _).mp additional
      have closed := mirrors.closed who own
      change ∃ later, Mirrors deployment extra later short ⟨full.shared.release who, _⟩
      rw [World.release_of_closed sound.inv closed]
      refine ⟨ties, mirrors.alone own (.refl ties) mirrors.twins closed ?_⟩
      rintro body ⟨⟩
  | elapse time lockLapses entryLapses jobs => cases additional

end Mirrors

/-! ### Runs -/

/-- Before anything happens a world is its own twin. -/
theorem World.twins_self {initial : World} (rest : initial.AtRest) :
    initial.Twins (.untied (initial.next .event)) initial where
  db := by
    refine ⟨rfl, fun key => ?_⟩
    cases found : initial.db.webhookEvents.get? key with
    | none => exact .vacant
    | some row =>
        have below := rest.below.events row (Table.mem_of_get? found)
        exact .loose ⟨below, fun _ absurd => (List.not_mem_nil absurd).elim⟩
          ⟨below, fun _ absurd => (List.not_mem_nil absurd).elim⟩ fun _ => Iff.rfl
  sessions := by
    intro who
    rw [rest.sessions]
    exact .none
  rowLocks := rfl
  redisLocks := rfl
  cache := rfl
  jobs := rfl
  callbacks := rfl
  emitted := rfl
  clock := rfl
  next := fun _ _ => rfl
  short := rfl
  full := rfl
  journal := rfl

theorem Mirrors.quiet (deployment : Deployment) (extra : ProcessId → Bool) {initial : World}
    (rest : initial.AtRest) :
    Mirrors deployment extra (.untied (initial.next .event)) (Pool.quiet initial)
      (Pool.quiet initial) where
  twins := World.twins_self rest
  common := fun _ _ => .idle
  closed := fun who _ => rest.sessions who
  intrudes := by
    intro who own body absurd
    cases absurd

theorem Mirrors.Sound.play {deployment : Deployment}
    {pool : Pool ProcessId Failure Operation.Reply World} (sound : Sound deployment pool)
    {entry : Entry} (playable : entry.Playable pool) :
    Sound deployment (entry.play deployment pool) := by
  rcases Entry.play_step deployment playable with same | step
  · rw [same]
    exact sound
  · exact (Command.pool_step sound step).1

/-- Additional forged deliveries leave the books after every common step as they are, in every
run in which no delivery with a valid signature meets an event row that only they brought. -/
theorem forged_undisturbed (deployment : Deployment) {initial : World} (rest : initial.AtRest)
    (extra : ProcessId → Bool) {schedule : List Entry}
    (playable : Entry.PlayableAll deployment schedule (Pool.quiet initial))
    (forged : ∀ entry ∈ schedule, entry.Forges deployment extra)
    (clear : Along (Entry.play deployment) (Entry.common extra) Entry.Clear schedule
      (Pool.quiet initial) (Pool.quiet initial)) :
    Undisturbed deployment extra schedule initial := by
  intro earlier cut
  have along := ((Entry.along_of_playable (Entry.common extra) playable).and clear).and
    (Along.of_forall forged)
  have related : ∃ ties, Mirrors deployment extra ties
      (Entry.playAll deployment (earlier.filter (Entry.common extra)) (Pool.quiet initial))
      (Entry.playAll deployment earlier (Pool.quiet initial)) ∧
      Mirrors.Sound deployment (Entry.playAll deployment earlier (Pool.quiet initial)) := by
    refine Along.unwind (fun short full =>
      ∃ ties, Mirrors deployment extra ties short full ∧ Mirrors.Sound deployment full)
      ?_ ?_ (along.of_prefix cut) ⟨_, .quiet deployment extra rest, Setting.valid_quiet rest⟩
    · rintro short full entry ⟨ties, mirrors, sound⟩ ⟨⟨playable, clear⟩, _⟩ common
      obtain ⟨later, kept⟩ := mirrors.common_step sound common playable clear
      exact ⟨later, kept, sound.play playable⟩
    · rintro short full entry ⟨ties, mirrors, sound⟩ ⟨⟨playable, _⟩, forges⟩ additional
      obtain ⟨later, kept⟩ := mirrors.extra_step sound additional forges
      exact ⟨later, kept, sound.play playable⟩
  obtain ⟨_, mirrors, _⟩ := related
  exact mirrors.twins.db.sameBooks

/-- A process handles an operation in one go. -/
def Entry.turn (who : ProcessId) (command : Command) : List Entry :=
  .start who command :: List.replicate 40 (.call who .delivered)

/-- The sample payment with a delivery of the given status that is not signed before the one
that is. -/
def forgedBefore (status : String) : List Entry :=
  Entry.turn 0 (.createPayment samplePayment "key") ++ Entry.turn 1 (.process sampleJob) ++
    Entry.turn 2 (.processWebhook ⟨0, status⟩ [] "guess") ++
    Entry.turn 3 (.processWebhook ⟨0, "completed"⟩ [] "secret")

theorem forged_undisturbed_sample :
    Undisturbed sampleDeployment (fun who => who == 2) (forgedBefore "failed") sampleWorld :=
  forged_undisturbed sampleDeployment sampleWorld_atRest _ (by decide +kernel) (by decide +kernel)
    (by decide +kernel)

/-- The forged delivery keeps the signed one out, and the recipient is not paid. -/
theorem forged_disturbs :
    ¬ ∀ (deployment : Deployment) (initial : World), initial.AtRest →
      ∀ (extra : ProcessId → Bool) (schedule : List Entry),
      Entry.PlayableAll deployment schedule (Pool.quiet initial) →
      Entry.PlayableAll deployment (schedule.filter (Entry.common extra)) (Pool.quiet initial) →
      (∀ entry ∈ schedule, entry.Forges deployment extra) →
      Undisturbed deployment extra schedule initial := by
  intro claimed
  have same := claimed sampleDeployment sampleWorld sampleWorld_atRest (fun who => who == 2)
    (forgedBefore "completed") (by decide +kernel) (by decide +kernel) (by decide +kernel)
    (forgedBefore "completed") (List.prefix_refl _)
  have balance := congrArg (fun accounts : Table Account => (accounts.get? 1).map Account.balance)
    same.accounts
  exact absurd balance (by decide +kernel)

end Payroute
