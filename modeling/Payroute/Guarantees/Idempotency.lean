import Payroute.Runs.Serial
import Payroute.Runs.Traffic

/-! # One key, one execution

However the requests with one idempotency key interleave, their handlers run one after
another, one of them at most returns, and every request ends with the recorded response,
with the failure of its own handler, or with the conflict. When no request is left the
lock is free.
-/

namespace Payroute

open EffectSystem IdempotencyInterceptor

section Stories

variable {known : Option Response} {filed : Bool} {phase : Phase} {notes : List Note}

theorem Concluded.started (concluded : Concluded known notes) :
    notes.count .handlerStarted ≤ 1 := by
  cases concluded with
  | _ => simp

/-- A request runs its handler once at most. -/
theorem Phase.Story.started (story : phase.Story known filed notes) :
    notes.count .handlerStarted ≤ 1 := by
  cases phase with
  | absent | arrived | locking | polling | looking _ =>
      rw [show notes = [] from story]
      simp
  | answering _ | restoring _ _ | freeing _ _ | preparing _ | starting _ =>
      rw [story.1]
      simp
  | handling _ _ | returned _ _ | persisting _ _ _ _ =>
      rw [story.1]
      simp
  | throwing _ error | refusing error =>
      rw [show notes = [.handlerStarted, .handlerThrew error] from story]
      simp
  | ended => exact Concluded.started story

end Stories

/-- The requests with one key, with any handlers, in every order of their steps: one
handler at most returns; a handler starts only after all that started before have thrown,
and once for each request; a request that has ended was answered with the recorded
response, or threw what its own handler threw, or was refused; and when no request is
running the lock is free and the recorded response is found. -/
theorem idempotency_key (key : String) {start : World} {last : Traffic}
    (free : start.redisLocks (.idempotency key) = none) (unnoted : start.journal = [])
    (run : Traffic.Steps key (.quiet start) last) :
    let known := answer (start.shared key).recalled (last.world.shared key)
    (results last.world.journal).length ≤ 1 ∧
      Ordered last.world.journal ∧
      (∀ who, (notesOf who last.world.journal).count .handlerStarted ≤ 1) ∧
      (∀ who ∈ last.arrived, last.running who = none →
        Concluded known (notesOf who last.world.journal)) ∧
      ((∀ who, last.running who = none) →
        last.world.redisLocks (.idempotency key) = none ∧
          (last.world.shared key).recalled = known) := by
  intro known
  obtain ⟨requests, steps, matched⟩ := Traffic.Steps.refines run
  have initial : Requests.Initial ⟨start.shared key, fun _ => .absent⟩ := by
    refine ⟨fun _ => rfl, ?_, unnoted⟩
    change (start.redisLocks (.idempotency key)).map RedisLock.token = none
    rw [free]
    rfl
  have sound : requests.Sound (start.shared key).recalled := steps.sound initial.sound
  have shared := matched.shared
  obtain ⟨ours, phase⟩ := requests
  change ours = _ at shared
  subst shared
  refine ⟨sound.once, sound.ordered, fun who => Phase.Story.started (sound.stories who), ?_, ?_⟩
  · intro who arrived idle
    have story := sound.stories who
    rcases (matched.stands who).idle idle with absent | ended
    · exact ((matched.stands who).absent.mp absent arrived).elim
    · change Phase.Story _ _ (phase who) _ at story
      change phase who = .ended at ended
      rw [ended] at story
      exact story
  · intro idle
    obtain ⟨unlocked, found⟩ := sound.quiet fun who => (matched.stands who).idle (idle who)
    exact ⟨Option.map_eq_none_iff.mp unlocked, found⟩

/-! ## A concrete run -/

/-- The next call of a process, which is delivered, or its end. -/
def Traffic.turn (traffic : Traffic) (who : ProcessId) : Traffic :=
  match traffic.running who with
  | some (.call op next) =>
      ⟨(backend.exec who .delivered op traffic.world).2,
        Function.update traffic.running who
          (some (next (backend.exec who .delivered op traffic.world).1)), traffic.arrived⟩
  | some _ => ⟨traffic.world, Function.update traffic.running who none, traffic.arrived⟩
  | none => traffic

/-- Whether the processes can take these turns. -/
def Traffic.Poised (traffic : Traffic) : List ProcessId → Prop
  | [] => True
  | who :: rest => Pool.Poised backend who .delivered traffic.world (traffic.running who) ∧
      (traffic.turn who).Poised rest

instance Traffic.Poised.decidable : (traffic : Traffic) → (turns : List ProcessId) →
    Decidable (traffic.Poised turns)
  | _, [] => .isTrue trivial
  | traffic, who :: rest =>
      have := Traffic.Poised.decidable (traffic.turn who) rest
      inferInstanceAs (Decidable (_ ∧ _))

theorem Traffic.turn_steps (key : String) {traffic : Traffic} {who : ProcessId}
    (poised : Pool.Poised backend who .delivered traffic.world (traffic.running who)) :
    Traffic.Steps key traffic (traffic.turn who) := by
  unfold turn
  cases current : traffic.running who with
  | none => exact .refl
  | some program =>
      rw [current] at poised
      cases program with
      | ret value => exact .single (.finish who (.inl current))
      | fail error => exact .single (.finish who (.inr ⟨error, current⟩))
      | call op next => exact .single (.call who .delivered op next current poised fun _ => rfl)

theorem Traffic.turns_steps (key : String) (turns : List ProcessId) {traffic : Traffic}
    (poised : traffic.Poised turns) : Traffic.Steps key traffic (turns.foldl turn traffic) := by
  induction turns generalizing traffic with
  | nil => exact .refl
  | cons who rest ih => exact (turn_steps key poised.1).trans (ih poised.2)

/-- A request of the sample payment. -/
def sampleHandled : Service Unit :=
  request true "key" (PaymentsService.handler sampleDeployment samplePayment "key").body

/-- Two requests with one key have arrived. -/
def sampleTraffic : Traffic where
  world := sampleWorld
  running := Function.update (Function.update (fun _ => none) 1 (some sampleHandled)) 2
    (some sampleHandled)
  arrived := [2, 1]

/-- The second request reads the cache before the first one runs, and takes the lock after
the first one has released it. -/
def sampleTurns : List ProcessId := 2 :: List.replicate 34 1 ++ List.replicate 6 2

theorem sampleTraffic_steps : Traffic.Steps "key" (.quiet sampleWorld) sampleTraffic := by
  have first : Traffic.Step "key" (.quiet sampleWorld)
      ⟨sampleWorld, Function.update (fun _ => none) 1 (some sampleHandled), [1]⟩ :=
    .arrive 1 true _ (by decide) rfl
  have second : Traffic.Step "key"
      ⟨sampleWorld, Function.update (fun _ => none) 1 (some sampleHandled), [1]⟩ sampleTraffic :=
    .arrive 2 true _ (by decide) rfl
  exact (Relation.ReflTransGen.single first).tail second

theorem idempotency_key_sample :
    let last := sampleTurns.foldl Traffic.turn sampleTraffic
    let known := answer (sampleWorld.shared "key").recalled (last.world.shared "key")
    (results last.world.journal).length ≤ 1 ∧ Ordered last.world.journal ∧
      Concluded known (notesOf 1 last.world.journal) ∧
      Concluded known (notesOf 2 last.world.journal) := by
  intro last known
  have run : Traffic.Steps "key" (.quiet sampleWorld) last :=
    sampleTraffic_steps.trans (Traffic.turns_steps "key" sampleTurns (by decide +kernel))
  obtain ⟨once, ordered, _, ends, _⟩ := idempotency_key "key" rfl rfl run
  refine ⟨once, ordered, ends 1 ?_ ?_, ends 2 ?_ ?_⟩
  · decide +kernel
  · exact Option.isNone_iff_eq_none.mp (by decide +kernel)
  · decide +kernel
  · exact Option.isNone_iff_eq_none.mp (by decide +kernel)

end Payroute
