import Payroute.Runs.Requests
import Payroute.Runs.Traffic

/-! # The record of a response

A request that commits a payment records its response in the cache and in the row of its
key. Both writes swallow their failures, so the record is there as far as they get
through. The requests that come later leave it alone.
-/

namespace Payroute

open EffectSystem KeyedTable Program IdempotencyInterceptor

/-! ## Writes that get through -/

namespace Operation

/-- The write of the response to the cache. -/
def cachesResponse (key : String) : Operation → Bool
  | .cacheSet wanted _ _ => decide (wanted = .idempotency key)
  | _ => false

/-- The insertion of the row of the key. -/
def insertsKey (key : String) : Operation → Bool
  | .sql (.insertKey wanted _) => decide (wanted = key)
  | _ => false

/-- The write of the response to the row of the key. -/
def updatesKey (key : String) : Operation → Bool
  | .sql (.updateKey wanted _ _) => decide (wanted = key)
  | _ => false

end Operation

namespace CallLog

/-- The writes take effect, whether they are answered or not. -/
def Lands (log : CallLog) (writes : Operation → Bool) : Prop :=
  ∀ entry ∈ log, writes entry.1 = true → entry.2 ≠ .lost

/-- The response gets into the cache. -/
def Caches (log : CallLog) (key : String) : Prop := log.Lands (Operation.cachesResponse key)

/-- The row of the key is there before the handler runs. -/
def Opens (log : CallLog) (key : String) (first : Database) : Prop :=
  first.idempotencyKeys.get? key ≠ none ∨
    (∀ entry ∈ log, Consults key entry.1 entry.2) ∧ log.Lands (Operation.insertsKey key)

/-- The response gets into the row of the key. -/
def Stores (log : CallLog) (key : String) (first : Database) : Prop :=
  log.Opens key first ∧ log.Lands (Operation.updatesKey key)

variable (log : CallLog) (key : String) (first : Database)

instance (writes : Operation → Bool) : Decidable (log.Lands writes) :=
  inferInstanceAs (Decidable (∀ entry ∈ log, _))

instance : Decidable (log.Caches key) := inferInstanceAs (Decidable (log.Lands _))

instance : Decidable (log.Opens key first) := inferInstanceAs (Decidable (_ ∨ _))

instance : Decidable (log.Stores key first) := inferInstanceAs (Decidable (_ ∧ _))

end CallLog

/-! ## What is kept -/

namespace IdempotencyInterceptor

/-- What is recorded of the response stays recorded. -/
structure Shared.Retains (first last : Shared) : Prop where
  cached : first.cached ≠ none → last.cached ≠ none
  row : first.row ≠ none → last.row ≠ none
  answered : first.row.join ≠ none → last.row.join ≠ none

namespace Shared.Retains

/-- A record retains itself. -/
theorem refl (shared : Shared) : shared.Retains shared := ⟨id, id, id⟩

/-- What is retained over two stretches is retained over both. -/
theorem trans {first second third : Shared} (left : first.Retains second)
    (right : second.Retains third) : first.Retains third :=
  ⟨right.1 ∘ left.1, right.2 ∘ left.2, right.3 ∘ left.3⟩

end Shared.Retains

end IdempotencyInterceptor

section Recorded

variable {world : World} {who : ProcessId} {key : String}

/-- Whether Redis has a response for the key. -/
theorem World.caches_iff : world.Caches key ↔ (world.shared key).cached ≠ none := by
  unfold World.Caches World.shared
  cases world.cache (.idempotency key) with
  | none =>
      refine iff_of_false ?_ fun absurd => absurd rfl
      rintro ⟨_, _, absurd⟩
      cases absurd
  | some value =>
      cases value with
      | response body statusCode =>
          exact iff_of_true ⟨body, statusCode, rfl⟩ (Option.some_ne_none _)
      | rate _ | page _ | stats _ =>
          refine iff_of_false ?_ fun absurd => absurd rfl
          rintro ⟨_, _, absurd⟩
          cases absurd

/-- Whether the key has a row. -/
theorem World.row_iff :
    world.db.idempotencyKeys.get? key ≠ none ↔ (world.shared key).row ≠ none := by
  unfold World.shared
  rw [Ne, Ne, Option.map_eq_none_iff]

/-- Whether that row has a response. -/
theorem World.recalls_iff : world.db.Recalls key ↔ (world.shared key).row.join ≠ none := by
  unfold Database.Recalls World.shared
  cases world.db.idempotencyKeys.get? key with
  | none =>
      refine iff_of_false ?_ fun absurd => absurd rfl
      rintro ⟨_, absurd, _⟩
      cases absurd
  | some row =>
      have joined : ((some row).map recorded).join = row.responseBody.map fun body =>
        ⟨body, row.statusCode.getD 0⟩ := rfl
      simp only [joined, Option.mem_some, exists_eq_left', ne_eq, Option.map_eq_none_iff,
        Option.isSome_iff_ne_none]

/-- The calls of the interceptor. -/
def Operation.Minds (key : String) : Operation → Prop
  | .cacheGet _ | .now | .sleep _ | .sql (.select _) => True
  | .acquireLock wanted _ | .releaseLock wanted _ => wanted = .idempotency key
  | .cacheSet wanted (.response _ _) _ => wanted = .idempotency key
  | .sql (.insertKey wanted _) => wanted = key
  | .sql (.updateKey wanted _ statusCode) => wanted = key ∧ statusCode = created
  | _ => False

/-- A call that minds the key books nothing. -/
theorem Operation.Minds.bookless {op : Operation} (minds : op.Minds key) : op.Bookless := by
  cases op with
  | sql statement =>
      cases statement with
      | select _ => exact ⟨trivial, trivial⟩
      | insertKey _ _ | updateKey _ _ _ => trivial
      | _ => exact minds.elim
  | cacheGet _ | now | sleep _ | acquireLock _ _ | releaseLock _ _ | cacheSet _ _ _ =>
      exact ⟨trivial, trivial⟩
  | _ => exact minds.elim

/-- A call of the interceptor keeps what is recorded. -/
theorem World.perform_retains (closed : world.sessions who = none) {op : Operation}
    (minds : op.Minds key) :
    (world.shared key).Retains ((world.perform who op).2.shared key) := by
  cases op with
  | cacheGet _ | now | sleep _ => exact .refl _
  | acquireLock wanted ttlMs =>
      cases minds
      obtain ⟨_, _, _, same⟩ | ⟨_, same⟩ := @shared_acquireLock world key ttlMs
      · exact same.symm ▸ ⟨id, id, id⟩
      · exact same.symm ▸ .refl _
  | releaseLock wanted token =>
      cases minds
      have same : ((world.perform who (.releaseLock (.idempotency key) token)).2.shared key) =
        (world.shared key).release token := shared_releaseLock token
      rw [same]
      unfold Shared.release
      split
      · exact ⟨id, id, id⟩
      · exact .refl _
  | cacheSet wanted value ttlMs =>
      cases value with
      | response body statusCode =>
          cases minds
          have same := @shared_cacheSet world who key ⟨body, statusCode⟩ ttlMs
          rw [same]
          exact ⟨fun _ => Option.some_ne_none _, id, id⟩
      | rate _ | page _ | stats _ => exact minds.elim
  | sql statement =>
      cases statement with
      | select query =>
          have same : (world.perform who (.sql (.select query))).2 = world := rfl
          rw [same]
          exact .refl _
      | insertKey wanted expiresAt =>
          cases minds
          have same : (world.perform who (.sql (.insertKey key expiresAt))).2.shared key = _ :=
            (shared_insertKey closed expiresAt).2
          rw [same]
          exact ⟨id, fun _ => Option.some_ne_none _, id⟩
      | updateKey wanted body statusCode =>
          obtain ⟨rfl, rfl⟩ := minds
          have same : (world.perform who (.sql (.updateKey wanted body created))).2.shared wanted
            = _ := (shared_updateKey closed body).2
          rw [same]
          refine ⟨id, ?_, ?_⟩
          · cases (world.shared wanted).row with
            | none => exact id
            | some _ => exact fun _ => Option.some_ne_none _
          · cases (world.shared wanted).row with
            | none => exact id
            | some _ => exact fun _ => Option.some_ne_none _
      | _ => exact minds.elim
  | _ => exact minds.elim

/-- So it does where the call fails. -/
theorem World.exec_retains (closed : world.sessions who = none) (delivery : Delivery)
    {op : Operation} (minds : op.Minds key) :
    (world.shared key).Retains ((World.exec who delivery op world).2.shared key) := by
  rcases World.exec_state who delivery op world with same | ran
  · rw [same]
    exact .refl _
  · rw [ran]
    exact World.perform_retains closed minds

end Recorded

/-! ## The parts of a request -/

/-- The books are as they were, and what was recorded of the response still is. -/
structure World.Spares (key : String) (first last : World) : Prop where
  calm : first.Calm last
  retains : (first.shared key).Retains (last.shared key)

/-- Sparing a key composes. -/
theorem World.Spares.trans {key : String} {first second third : World}
    (left : first.Spares key second) (right : second.Spares key third) :
    first.Spares key third := ⟨left.calm.trans right.calm, left.retains.trans right.retains⟩

/-- A world at rest spares every key. -/
theorem World.AtRest.spares {world : World} (rest : world.AtRest) (key : String) :
    world.Spares key world := ⟨rest.calm, .refl _⟩

section Parts

variable {key : String} {token : LockToken}

/-- Reading a cached response minds the key. -/
theorem minds_getResponse : (getResponse key).OnlyCalls (Operation.Minds key) :=
  onlyCalls_getResponse key trivial

/-- So does waiting for one. -/
theorem minds_poll (remaining : Nat) : (poll key remaining).OnlyCalls (Operation.Minds key) :=
  onlyCalls_poll key remaining trivial trivial

/-- So does releasing the key's lock. -/
theorem minds_releaseLock :
    (releaseLock (.idempotency key) token).OnlyCalls (Operation.Minds key) :=
  .swallow (onlyCalls_perform rfl)

variable {fine : Operation → Delivery → Prop} {who : ProcessId} {α : Type} {world : World}

/-- The interceptor's own calls. -/
theorem solo_spares (rest : world.AtRest) {body : Service α}
    (only : body.OnlyCalls (Operation.Minds key)) :
    Solo backend fine who (fun _ last => world.Spares key last) body world :=
  Solo.keeps (fun last => world.Spares key last)
    (fun delivery _ _ minds held => held.trans
      ⟨held.calm.rest.calm.exec who delivery minds.bookless,
        World.exec_retains (held.calm.rest.sessions who) delivery minds⟩) only (rest.spares key)

/-- A call that is not lost takes effect. -/
theorem World.exec_landed {delivery : Delivery} (landed : delivery ≠ .lost) (op : Operation) :
    (World.exec who delivery op world).2 = (world.perform who op).2 := by
  unfold World.exec
  split
  · cases delivery with
    | delivered => rfl
    | unacknowledged => rfl
    | lost => exact (landed rfl).elim
  · rfl

variable {log : CallLog}

/-- The call is one of those recorded. -/
def CallLog.Made (log : CallLog) (op : Operation) (delivery : Delivery) : Prop :=
  (op, delivery) ∈ log

/-- A write that gets through leaves what it is for. -/
theorem solo_write (rest : world.AtRest) (op : Operation) (minds : op.Minds key)
    {writes : Operation → Bool} (writing : writes op = true) {result : World → Prop}
    (done : result (world.perform who op).2) :
    Solo backend log.Made who (fun _ last => world.Spares key last ∧
      (log.Lands writes → result last)) (call op) world := by
  refine (solo_spares rest (onlyCalls_perform minds)).and ?_
  refine solo_call op fun delivery made lands => ?_
  rw [World.exec_landed (lands _ made writing)]
  exact done

/-- The response is written to the cache. -/
theorem solo_setResponse (rest : world.AtRest) (response : Response) :
    Solo backend log.Made who (fun outcome last => outcome = .ok () ∧ world.Spares key last ∧
      (log.Caches key → last.Caches key)) (swallow (setResponse key response)) world := by
  refine Solo.swallow (solo_write rest (.cacheSet (.idempotency key)
    (.response response.body response.statusCode) idempotencyTtlMs) rfl (decide_eq_true rfl) ?_)
    fun _ _ ended => ⟨rfl, ended⟩
  exact ⟨_, _, Function.update_self ..⟩

/-- The response is written to the row of the key. -/
theorem solo_updateKey (rest : world.AtRest) (body : Transaction) :
    Solo backend log.Made who (fun outcome last => outcome = .ok () ∧ world.Spares key last ∧
      (log.Lands (Operation.updatesKey key) →
        world.db.idempotencyKeys.get? key ≠ none → last.db.Recalls key))
      (swallow (sql (.updateKey key body created))) world := by
  refine Solo.swallow (solo_write rest (.sql (.updateKey key body created)) ⟨rfl, rfl⟩
    (decide_eq_true rfl) fun opened => ?_) fun _ _ ended => ⟨rfl, ended⟩
  have same : (world.perform who (.sql (.updateKey key body created))).2.shared key = _ :=
    (World.shared_updateKey (rest.sessions who) body).2
  rw [World.recalls_iff, same]
  obtain ⟨row, present⟩ := Option.ne_none_iff_exists'.mp (World.row_iff.mp opened)
  rw [present]
  exact Option.some_ne_none _

/-- As far as its writes get through, the response is in the cache and in the row of the
key. -/
structure CallLog.Records (log : CallLog) (key : String) (first last : World) : Prop where
  cached : log.Caches key → last.Caches key
  stored : log.Lands (Operation.updatesKey key) →
    first.db.idempotencyKeys.get? key ≠ none → last.db.Recalls key

/-- A response in Redis stays there. -/
theorem World.Spares.caches {first last : World} (spares : first.Spares key last)
    (caches : first.Caches key) : last.Caches key :=
  World.caches_iff.mpr (spares.retains.cached (World.caches_iff.mp caches))

/-- So does one in the key's row. -/
theorem World.Spares.recalls {first last : World} (spares : first.Spares key last)
    (recalls : first.db.Recalls key) : last.db.Recalls key :=
  World.recalls_iff.mpr (spares.retains.answered (World.recalls_iff.mp recalls))

/-- The row stays there too. -/
theorem World.Spares.row {first last : World} (spares : first.Spares key last)
    (opened : first.db.idempotencyKeys.get? key ≠ none) :
    last.db.idempotencyKeys.get? key ≠ none :=
  World.row_iff.mpr (spares.retains.row (World.row_iff.mp opened))

/-- The record of a response is made as far as its writes get through. -/
theorem solo_persist (rest : world.AtRest) (cacheFirst : Bool) (body : Transaction) :
    Solo backend log.Made who (fun _ last => world.Spares key last ∧ log.Records key world last)
      (persist cacheFirst key token { body := body, statusCode := created }) world := by
  have releases : ∀ middle, world.Spares key middle → log.Records key world middle →
      Solo backend log.Made who (fun _ last => world.Spares key last ∧ log.Records key world last)
        (releaseLock (.idempotency key) token) middle := by
    intro middle spares records
    refine (solo_spares spares.calm.rest minds_releaseLock).mono fun _ last later => ?_
    exact ⟨spares.trans later, fun caches => later.caches (records.cached caches),
      fun lands opened => later.recalls (records.stored lands opened)⟩
  cases cacheFirst with
  | true =>
      refine (solo_setResponse rest _).bind ?_ fun _ _ ended => by cases ended.1
      rintro _ second ⟨_, spares, cached⟩
      refine (solo_updateKey spares.calm.rest body).bind ?_ fun _ _ ended => by cases ended.1
      rintro _ third ⟨_, later, stored⟩
      exact releases third (spares.trans later) ⟨fun caches => later.caches (cached caches),
        fun lands opened => stored lands (spares.row opened)⟩
  | false =>
      refine (solo_updateKey rest body).bind ?_ fun _ _ ended => by cases ended.1
      rintro _ second ⟨_, spares, stored⟩
      refine (solo_setResponse spares.calm.rest _).bind ?_ fun _ _ ended => by cases ended.1
      rintro _ third ⟨_, later, cached⟩
      exact releases third (spares.trans later) ⟨cached,
        fun lands opened => later.recalls (stored lands opened)⟩

/-- The lock is released, whether the call gets through or not. -/
theorem solo_releaseLock (rest : world.AtRest) :
    Solo backend log.Made who (fun outcome last => outcome = .ok () ∧ world.Spares key last)
      (releaseLock (.idempotency key) token) world :=
  Solo.swallow (solo_spares rest (onlyCalls_perform rfl)) fun _ _ ended => ⟨rfl, ended⟩

/-- The lookup of the key is answered with its row. -/
theorem solo_select (rest : world.AtRest) :
    Solo backend log.Made who (fun outcome last => world.Spares key last ∧
      ((∀ entry ∈ log, Consults key entry.1 entry.2) →
        outcome = .ok (world.db.idempotencyKeys.get? key)))
      (sql (.select (.idempotencyKey key))) world := by
  have selects : (sql (.select (.idempotencyKey key))).OnlyCalls (Operation.Minds key) :=
    onlyCalls_perform trivial
  refine (solo_spares rest selects).and ?_
  refine solo_call (.sql (.select (.idempotencyKey key))) fun delivery made consults => ?_
  cases consults _ made rfl
  rw [← World.view_closed (rest.sessions who)]
  rfl

/-- The row of the key is inserted. -/
theorem solo_insertKey (rest : world.AtRest) (expiresAt : Nat) :
    Solo backend log.Made who (fun _ last => world.Spares key last ∧
      (log.Lands (Operation.insertsKey key) → last.db.idempotencyKeys.get? key ≠ none))
      (sql (.insertKey key expiresAt)) world := by
  refine solo_write rest (.sql (.insertKey key expiresAt)) rfl (decide_eq_true rfl) ?_
  have same : (world.perform who (.sql (.insertKey key expiresAt))).2.shared key = _ :=
    (World.shared_insertKey (rest.sessions who) expiresAt).2
  rw [World.row_iff, same]
  exact Option.some_ne_none _

/-- A lookup that is answered and finds no response inserts the row of the key. -/
theorem solo_lookup (rest : world.AtRest) :
    Solo backend log.Made who (fun outcome last => world.Spares key last ∧
      ((∀ entry ∈ log, Consults key entry.1 entry.2) → log.Lands (Operation.insertsKey key) →
        (∃ response, outcome = .ok (some response)) ∨ last.db.idempotencyKeys.get? key ≠ none))
      (lookup key token) world := by
  refine (solo_select rest).bind (fun row second selected => ?_) fun _ _ ended =>
    ⟨ended.1, fun consults _ => by cases ended.2 consults⟩
  cases row.bind recorded with
  | some response =>
      refine (solo_setResponse selected.1.calm.rest response).bind (fun _ third cached => ?_)
        fun _ _ ended => by cases ended.1
      have spares := selected.1.trans cached.2.1
      refine (solo_releaseLock spares.calm.rest).bind (fun _ last released => ?_)
        fun _ _ ended => by cases ended.1
      exact .ret ⟨spares.trans released.2, fun _ _ => .inl ⟨_, rfl⟩⟩
  | none =>
      have dates : newDate.OnlyCalls (Operation.Minds key) := onlyCalls_perform trivial
      have answered : Solo backend log.Made who (fun outcome _ => ∃ now, outcome = .ok now)
          newDate second := solo_call .now fun _ _ => ⟨_, rfl⟩
      have timed := (solo_spares selected.1.calm.rest dates).and answered
      refine timed.bind (fun now third dated => ?_)
        fun _ _ ended => by obtain ⟨_, _, absurd⟩ := ended; cases absurd
      have spares := selected.1.trans dated.1
      have later : ∀ {outcome : Except Failure (Option Response)} {last : World},
          third.Spares key last ∧ (log.Lands (Operation.insertsKey key) →
            last.db.idempotencyKeys.get? key ≠ none) →
          world.Spares key last ∧ ((∀ entry ∈ log, Consults key entry.1 entry.2) →
            log.Lands (Operation.insertsKey key) →
              (∃ response, outcome = .ok (some response)) ∨
                last.db.idempotencyKeys.get? key ≠ none) :=
        fun ended => ⟨spares.trans ended.1, fun _ lands => .inr (ended.2 lands)⟩
      exact (solo_insertKey spares.calm.rest _).bind (fun _ _ ended => .ret (later ended))
        fun _ _ ended => later ended

/-- Where the lookup finds no response, the row of the key is there as far as the calls
that insert it get through. -/
theorem solo_preCheck_opens (rest : world.AtRest) :
    Solo backend log.Made who (fun outcome last => world.Spares key last ∧
      (outcome = .ok none → log.Opens key world.db → last.db.idempotencyKeys.get? key ≠ none))
      (preCheck key token) world := by
  have opens : ∀ {outcome : Except Failure (Option Response)} {last : World},
      (¬ ∃ response, outcome = .ok (some response)) → world.Spares key last ∧
      ((∀ entry ∈ log, Consults key entry.1 entry.2) → log.Lands (Operation.insertsKey key) →
        (∃ response, outcome = .ok (some response)) ∨ last.db.idempotencyKeys.get? key ≠ none) →
      log.Opens key world.db → last.db.idempotencyKeys.get? key ≠ none := by
    intro outcome last unanswered ended opens
    rcases opens with present | ⟨consults, lands⟩
    · exact ended.1.row present
    · exact (ended.2 consults lands).resolve_left unanswered
  refine (solo_lookup rest).tryCatch ?_ ?_
  · intro found last ended
    refine ⟨ended.1, fun missed => opens ?_ ended⟩
    rintro ⟨response, same⟩
    cases missed.symm.trans same
  · intro error last ended
    refine .ret ⟨ended.1, fun _ => opens ?_ ended⟩
    rintro ⟨_, absurd⟩
    cases absurd

/-! ## The whole request -/

/-- What a request leaves where its calls are dependable: the books as they were, or a
payment whose response is recorded as far as the writes of the record get through. -/
structure CallLog.Answers (log : CallLog) (key : String) (first last : World) : Prop where
  retains : (first.shared key).Retains (last.shared key)
  recorded : first.db.SameBooks last.db ∨
    (log.Caches key → last.Caches key) ∧ (log.Stores key first.db → last.db.Recalls key)

/-- The handler of a request whose calls are dependable. -/
theorem solo_createPayment (dependable : log.Dependable) (rest : world.AtRest)
    (deployment : Deployment) (dto : CreatePaymentDto) (idempotencyKey : String) :
    Solo backend log.Made who (fun outcome last => last.AtRest ∧
      last.shared key = world.shared key ∧
      ∀ error, outcome = .error error → world.db.SameBooks last.db)
      (PaymentsService.createPayment deployment dto idempotencyKey) world := by
  have kept : Solo backend log.Made who (fun _ last => world.KeepsKey key who last)
      (PaymentsService.createPayment deployment dto idempotencyKey) world := by
    refine Solo.keeps (fun last => world.KeepsKey key who last) ?_
      (PaymentsService.plain_createPayment deployment dto idempotencyKey)
      (.refl (World.keyless_of_closed (rest.sessions who)))
    intro delivery op later ordinary held
    have step : later.KeepsKey key who (World.exec who delivery op later).2 :=
      World.exec_keepsKey held.keyless delivery ordinary
    exact ⟨step.shared.trans held.shared, step.keyless⟩
  intro choices allowed
  have clean : CallLog.Dependable [] := fun _ member => (List.not_mem_nil member).elim
  have tracked : Tracked who (fun outcome last => last.1.AtRest ∧
      Created dto idempotencyKey world outcome last.1 last.2)
      (PaymentsService.createPayment deployment dto idempotencyKey) world [] :=
    tracked_createPayment rest clean deployment dto idempotencyKey
  have tracked := tracked choices fun _ _ => trivial
  rw [Machine.run_recorded] at tracked
  refine ⟨tracked.1, (kept choices allowed).shared, fun error failed => ?_⟩
  rcases tracked.2 with ⟨_, returned, _⟩ | ⟨_, _, same, _⟩ | ⟨_, _, _, _, unclean⟩
  · cases returned.symm.trans failed
  · exact same
  · refine (unclean fun entry member => ?_).elim
    exact dependable entry (allowed entry member)

end Parts

section Whole

variable {key idempotencyKey : String} {token : LockToken} {who : ProcessId} {world : World}
  {log : CallLog} {deployment : Deployment} {dto : CreatePaymentDto}

/-- A request that spared the key has answered for it. -/
theorem World.Spares.answers {last : World} (spares : world.Spares key last) :
    log.Answers key world last := ⟨spares.retains, .inl spares.calm.books⟩

/-- How a request goes on once its response is known. -/
def CallLog.Answering (log : CallLog) (key : String) (who : ProcessId) (first : World)
    (outcome : Except Failure (Response × Service Unit)) (last : World) : Prop :=
  match outcome with
  | .error _ => log.Answers key first last
  | .ok answered => Solo backend log.Made who (fun _ final => log.Answers key first final)
      (swallow answered.2) last

/-- The handler and the record of its response. -/
theorem solo_handle (dependable : log.Dependable) (cacheFirst : Bool)
    {start : World} (spares : world.Spares key start)
    (opened : log.Opens key world.db → start.db.idempotencyKeys.get? key ≠ none) :
    Solo backend log.Made who (fun outcome last => log.Answering key who world outcome last)
      (handle cacheFirst key token
        (PaymentsService.createPayment deployment dto idempotencyKey)) start := by
  have handled : Solo backend log.Made who (fun outcome last => (∀ error, outcome = .error error →
        log.Answers key world last) ∧ ∀ body, outcome = .ok body → last.AtRest ∧
          last.shared key = start.shared key)
      (tryCatch (PaymentsService.createPayment deployment dto idempotencyKey) fun error => do
        releaseLock (.idempotency key) token
        .fail error) start := by
    refine (solo_createPayment dependable spares.calm.rest deployment dto idempotencyKey).tryCatch
      (fun body last ended =>
        ⟨fun _ absurd => (by cases absurd), fun _ _ => ⟨ended.1, ended.2.1⟩⟩) ?_
    intro error last ended
    obtain ⟨rest, shared, books⟩ := ended
    have answers : ∀ {final : World}, last.Spares key final → log.Answers key world final := by
      intro final released
      refine ⟨?_, .inl ((spares.calm.books.trans (books error rfl)).trans released.calm.books)⟩
      exact spares.retains.trans (shared ▸ released.retains)
    refine (solo_releaseLock rest).bind (fun _ final released => .fail ?_)
      fun _ final released => ?_
    · exact ⟨fun _ _ => answers released.2, fun _ absurd => by cases absurd⟩
    · exact ⟨fun _ _ => answers released.2, fun _ absurd => by cases absurd⟩
  refine handled.bind (fun body last ended => .ret ?_) fun error last ended => ended.1 error rfl
  obtain ⟨rest, shared⟩ := ended.2 body rfl
  change Solo backend log.Made who (fun _ final => log.Answers key world final) _ last
  refine Solo.swallow (solo_persist rest cacheFirst body) fun _ final persisted => ?_
  obtain ⟨later, records⟩ := persisted
  refine ⟨spares.retains.trans (shared ▸ later.retains), .inr ⟨records.cached, fun stores => ?_⟩⟩
  refine records.stored stores.2 (World.row_iff.mpr ?_)
  rw [shared]
  exact World.row_iff.mp (opened stores.1)

/-- What a request leaves. -/
theorem solo_serve (dependable : log.Dependable) (rest : world.AtRest) (cacheFirst : Bool) :
    Solo backend log.Made who (fun _ last => log.Answers key world last)
      (serve cacheFirst key (PaymentsService.createPayment deployment dto idempotencyKey))
      world := by
  have replies : ∀ {response : Response} {last : World}, world.Spares key last →
      Solo backend log.Made who (fun outcome last => log.Answering key who world outcome last)
        (.ret (response, .ret ())) last := by
    intro response last spares
    have nothing : Solo backend log.Made who (fun _ final => log.Answers key world final)
        (swallow (.ret () : Service Unit)) last := .ret spares.answers
    exact .ret nothing
  have intercepts : Solo backend log.Made who
      (fun outcome last => log.Answering key who world outcome last)
      (intercept cacheFirst key
        (PaymentsService.createPayment deployment dto idempotencyKey)) world := by
    refine (solo_spares rest minds_getResponse).bind (fun cached second spares => ?_)
      fun _ _ spares => spares.answers
    cases cached with
    | some response => exact replies spares
    | none =>
        have locks : (acquireLock (.idempotency key) lockTtlMs).OnlyCalls (Operation.Minds key) :=
          onlyCalls_perform rfl
        refine (solo_spares spares.calm.rest locks).bind (fun token third taken => ?_)
          fun _ _ taken => (spares.trans taken).answers
        have spares := spares.trans taken
        cases token with
        | none =>
            refine (solo_spares spares.calm.rest (minds_poll _)).bind
              (fun response last polled => replies (spares.trans polled))
              fun _ _ polled => (spares.trans polled).answers
        | some token =>
            refine (solo_preCheck_opens spares.calm.rest).bind (fun known last looked => ?_)
              fun _ _ looked => (spares.trans looked.1).answers
            cases known with
            | some response => exact replies (spares.trans looked.1)
            | none =>
                refine solo_handle dependable cacheFirst (spares.trans looked.1) fun opens => ?_
                exact looked.2 rfl (opens.imp spares.row id)
  refine intercepts.bind (fun answered last ended => ?_) fun _ _ ended => ended
  have finishes : Solo backend log.Made who (fun _ final => log.Answers key world final)
      (swallow answered.2) last := ended
  exact finishes.bind (fun _ final answers => .ret answers) fun _ _ answers => answers

end Whole

end Payroute
