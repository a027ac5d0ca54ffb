import Mathlib.Data.List.Defs
import Mathlib.Logic.Function.Basic
import Mathlib.Logic.Relation
import Payroute.Effects.Program

/-! # Sequential and interleaved execution of programs

A machine says what one operation does to the shared state and when it may be
issued. The choice type carries whatever the environment decides about one
call, such as whether the call fails. Programs run either alone, from beginning
to end, or in a pool where the calls of any number of programs interleave and a
running program may crash between two of its calls.
-/

namespace EffectSystem

/-- The meaning of single operations for the processes `ι`. -/
structure Machine (ι χ ε : Type) {Op : Type} (Res : Op → Type) (σ : Type) where
  exec : ι → χ → (op : Op) → σ → Except ε (Res op) × σ
  ready : ι → χ → (op : Op) → σ → Prop

variable {ι χ ε Op σ : Type} {Res : Op → Type} {α β : Type}

namespace Machine

variable (M : Machine ι χ ε Res σ) (who : ι)

section Sequential

variable [Inhabited χ]

/-- What a program run alone leaves: its outcome, the unused choices, the state. -/
structure Result (ε χ σ α : Type) where
  outcome : Except ε α
  choices : List χ
  state : σ

/-- Run a program alone. Each call takes one choice; when they run out the
default choice is taken. -/
def run : Program ε Res α → List χ → σ → Result ε χ σ α
  | .ret value, choices, state => ⟨.ok value, choices, state⟩
  | .fail error, choices, state => ⟨.error error, choices, state⟩
  | .call op next, choices, state =>
      run (next (M.exec who choices.headI op state).1) choices.tail
        (M.exec who choices.headI op state).2

/-- The calls a run makes, with the choice taken at each. -/
def calls : Program ε Res α → List χ → σ → List (Op × χ)
  | .ret _, _, _ => []
  | .fail _, _, _ => []
  | .call op next, choices, state =>
      (op, choices.headI) :: calls (next (M.exec who choices.headI op state).1) choices.tail
        (M.exec who choices.headI op state).2

@[simp] theorem run_ret (value : α) (choices : List χ) (state : σ) :
    M.run who (.ret value) choices state = ⟨.ok value, choices, state⟩ := rfl

@[simp] theorem run_fail (error : ε) (choices : List χ) (state : σ) :
    M.run who (.fail error : Program ε Res α) choices state = ⟨.error error, choices, state⟩ :=
  rfl

theorem run_call (op : Op) (next : Except ε (Res op) → Program ε Res α) (choices : List χ)
    (state : σ) :
    M.run who (.call op next) choices state =
      M.run who (next (M.exec who choices.headI op state).1) choices.tail
        (M.exec who choices.headI op state).2 := rfl

/-- A run of one raised call. -/
theorem run_perform (op : Op) (choices : List χ) (state : σ) :
    M.run who (Program.perform op) choices state = ⟨(M.exec who choices.headI op state).1,
      choices.tail, (M.exec who choices.headI op state).2⟩ := by
  unfold Program.perform
  rw [run_call]
  cases (M.exec who choices.headI op state).1 <;> rfl

/-- A run that starts with one raised call. -/
theorem run_perform_bind (op : Op) (f : Res op → Program ε Res β) (choices : List χ) (state : σ) :
    M.run who ((Program.perform op).bind f) choices state =
      match (M.exec who choices.headI op state).1 with
      | .ok value => M.run who (f value) choices.tail (M.exec who choices.headI op state).2
      | .error error => ⟨.error error, choices.tail, (M.exec who choices.headI op state).2⟩ := by
  change M.run who (Program.bind (match (M.exec who choices.headI op state).1 with
    | .ok value => .ret value
    | .error error => .fail error) f) _ _ = _
  cases (M.exec who choices.headI op state).1 <;> rfl

/-- A composed run is the first run followed by the second where the first returned. -/
theorem run_bind (body : Program ε Res α) (f : α → Program ε Res β) (choices : List χ)
    (state : σ) :
    M.run who (body.bind f) choices state =
      match (M.run who body choices state).outcome with
      | .ok value => M.run who (f value) (M.run who body choices state).choices
          (M.run who body choices state).state
      | .error error => ⟨.error error, (M.run who body choices state).choices,
          (M.run who body choices state).state⟩ := by
  induction body generalizing choices state with
  | ret value => rfl
  | fail error => rfl
  | call op next ih => exact ih _ _ _

/-- Once the choices have run out they stay so. -/
theorem run_default_choices (body : Program ε Res α) (state : σ) :
    (M.run who body [] state).choices = [] := by
  induction body generalizing state with
  | ret value => rfl
  | fail error => rfl
  | call op next ih => exact ih _ _

/-- A composed run whose first part returned. -/
theorem run_bind_of_ok {body : Program ε Res α} {f : α → Program ε Res β} {choices rest : List χ}
    {state later : σ} {value : α}
    (ran : M.run who body choices state = ⟨.ok value, rest, later⟩) :
    M.run who (body.bind f) choices state = M.run who (f value) rest later := by
  rw [run_bind, ran]

theorem run_bind_of_error {body : Program ε Res α} {f : α → Program ε Res β}
    {choices rest : List χ} {state later : σ} {error : ε}
    (ran : M.run who body choices state = ⟨.error error, rest, later⟩) :
    M.run who (body.bind f) choices state = ⟨.error error, rest, later⟩ := by
  rw [run_bind, ran]

/-- Only the run of the first part matters. -/
theorem run_bind_congr {first second : Program ε Res α} {choices : List χ} {state : σ}
    (same : M.run who first choices state = M.run who second choices state)
    (f : α → Program ε Res β) :
    M.run who (first.bind f) choices state = M.run who (second.bind f) choices state := by
  rw [run_bind, run_bind, same]

/-- Dropping the reply does not change what is left. -/
theorem run_discard (body : Program ε Res α) (value : β) (choices : List χ) (state : σ) :
    (M.run who (body.bind fun _ => .ret value) choices state).state =
      (M.run who body choices state).state := by
  rw [run_bind]
  cases (M.run who body choices state).outcome with
  | ok _ => rfl
  | error _ => rfl

/-- Recording the failure does not change what is executed. -/
theorem run_attempt (body : Program ε Res α) (choices : List χ) (state : σ) :
    M.run who body.attempt choices state =
      ⟨.ok (M.run who body choices state).outcome, (M.run who body choices state).choices,
        (M.run who body choices state).state⟩ := by
  induction body generalizing choices state with
  | ret value => rfl
  | fail error => rfl
  | call op next ih => exact ih _ _ _

theorem run_attempt_congr {first second : Program ε Res α} {choices : List χ} {state : σ}
    (same : M.run who first choices state = M.run who second choices state) :
    M.run who first.attempt choices state = M.run who second.attempt choices state := by
  rw [run_attempt, run_attempt, same]

/-- The calls of a composed run are those of its parts. -/
theorem calls_bind (body : Program ε Res α) (f : α → Program ε Res β) (choices : List χ)
    (state : σ) :
    M.calls who (body.bind f) choices state =
      M.calls who body choices state ++
        match (M.run who body choices state).outcome with
        | .ok value => M.calls who (f value) (M.run who body choices state).choices
            (M.run who body choices state).state
        | .error _ => [] := by
  induction body generalizing choices state with
  | ret value => rfl
  | fail error => rfl
  | call op next ih =>
      change (op, _) :: M.calls who ((next _).bind f) _ _ = _
      rw [ih]
      rfl

theorem calls_attempt (body : Program ε Res α) (choices : List χ) (state : σ) :
    M.calls who body.attempt choices state = M.calls who body choices state := by
  induction body generalizing choices state with
  | ret value => rfl
  | fail error => rfl
  | call op next ih => exact congrArg (_ :: ·) (ih _ _ _)

/-- A run only makes calls its program can issue. -/
theorem calls_allowed {allowed : Op → Prop} {body : Program ε Res α}
    (only : body.OnlyCalls allowed) (choices : List χ) (state : σ) :
    ∀ entry ∈ M.calls who body choices state, allowed entry.1 := by
  induction body generalizing choices state with
  | ret value => exact fun _ member => (List.not_mem_nil member).elim
  | fail error => exact fun _ member => (List.not_mem_nil member).elim
  | call op next ih =>
      intro entry member
      rcases List.mem_cons.mp member with rfl | later
      · exact only.1
      · exact ih _ (only.2 _) _ _ entry later

/-- Once the choices have run out the calls take the default. -/
theorem calls_default (body : Program ε Res α) (state : σ) :
    ∀ entry ∈ M.calls who body [] state, entry.2 = default := by
  induction body generalizing state with
  | ret value => exact fun _ member => (List.not_mem_nil member).elim
  | fail error => exact fun _ member => (List.not_mem_nil member).elim
  | call op next ih =>
      intro entry member
      rcases List.mem_cons.mp member with rfl | later
      · rfl
      · exact ih _ _ entry later

/-- A property that every call of the program keeps holds after its run. -/
theorem run_keeps {allowed : Op → Prop} (property : σ → Prop)
    (kept : ∀ choice op state, allowed op → property state →
      property (M.exec who choice op state).2)
    {body : Program ε Res α} (only : body.OnlyCalls allowed) (choices : List χ) {state : σ}
    (holds : property state) : property (M.run who body choices state).state := by
  induction body generalizing choices state with
  | ret value => exact holds
  | fail error => exact holds
  | call op next ih => exact ih _ (only.2 _) _ (kept _ op state only.1 holds)

end Sequential

/-- The machine whose steps additionally satisfy a side condition. -/
def restrict (side : ι → χ → Op → σ → Prop) : Machine ι χ ε Res σ where
  exec := M.exec
  ready := fun who choice op state => M.ready who choice op state ∧ side who choice op state

end Machine

/-! ## Pools -/

/-- The shared state with the programs still running on it. -/
structure Pool (ι ε : Type) {Op : Type} (Res : Op → Type) (σ : Type) where
  shared : σ
  running : ι → Option (Program ε Res Unit)

namespace Pool

variable [DecidableEq ι]

/-- What may happen in a pool besides the calls of its programs. -/
structure Surroundings (ι ε : Type) {Op : Type} (Res : Op → Type) (σ : Type) where
  /-- The programs a process may start. -/
  start : ι → Program ε Res Unit → Prop
  /-- What the death of a process does to the shared state. -/
  crash : ι → σ → σ
  /-- Changes made by nobody in the pool. -/
  drift : σ → σ → Prop

/-- One step of a pool. -/
inductive Step (M : Machine ι χ ε Res σ) (around : Surroundings ι ε Res σ) :
    Pool ι ε Res σ → Pool ι ε Res σ → Prop
  | spawn {pool : Pool ι ε Res σ} (who : ι) (body : Program ε Res Unit)
      (free : pool.running who = none) (started : around.start who body) :
      Step M around pool ⟨pool.shared, Function.update pool.running who (some body)⟩
  | call {pool : Pool ι ε Res σ} (who : ι) (choice : χ) (op : Op)
      (next : Except ε (Res op) → Program ε Res Unit)
      (current : pool.running who = some (.call op next))
      (ready : M.ready who choice op pool.shared) :
      Step M around pool ⟨(M.exec who choice op pool.shared).2,
        Function.update pool.running who
          (some (next (M.exec who choice op pool.shared).1))⟩
  | finish {pool : Pool ι ε Res σ} (who : ι)
      (ended : pool.running who = some (.ret ()) ∨
        ∃ error, pool.running who = some (.fail error)) :
      Step M around pool ⟨pool.shared, Function.update pool.running who none⟩
  | crash {pool : Pool ι ε Res σ} (who : ι) (alive : pool.running who ≠ none) :
      Step M around pool ⟨around.crash who pool.shared, Function.update pool.running who none⟩
  | drift {pool : Pool ι ε Res σ} (next : σ) (moved : around.drift pool.shared next) :
      Step M around pool ⟨next, pool.running⟩

/-- The steps of a restricted machine are steps of the machine. -/
theorem Step.unrestrict {M : Machine ι χ ε Res σ} {side : ι → χ → Op → σ → Prop}
    {around : Surroundings ι ε Res σ} {first second : Pool ι ε Res σ}
    (step : Step (M.restrict side) around first second) : Step M around first second := by
  cases step with
  | spawn who body free started => exact .spawn who body free started
  | call who choice op next current ready =>
      exact Step.call (M := M) who choice op next current ready.1
  | finish who ended => exact .finish who ended
  | crash who alive => exact .crash who alive
  | drift next moved => exact .drift next moved

/-- A pool without running programs. -/
def quiet (state : σ) : Pool ι ε Res σ := ⟨state, fun _ => none⟩

/-- Any number of steps. -/
abbrev Steps (M : Machine ι χ ε Res σ) (around : Surroundings ι ε Res σ) :
    Pool ι ε Res σ → Pool ι ε Res σ → Prop :=
  Relation.ReflTransGen (Step M around)

/-- The pool can arise from a quiet start. -/
def Reachable (M : Machine ι χ ε Res σ) (around : Surroundings ι ε Res σ) (initial : σ)
    (pool : Pool ι ε Res σ) : Prop :=
  Steps M around (quiet initial) pool

/-! ## Concrete schedules -/

/-- One entry of a schedule. -/
inductive Move (ι χ ε : Type) {Op : Type} (Res : Op → Type) where
  | spawn (who : ι) (body : Program ε Res Unit)
  | call (who : ι) (choice : χ)

/-- Carry out one entry of a schedule, without checking that it is allowed. -/
def play (M : Machine ι χ ε Res σ) (pool : Pool ι ε Res σ) :
    Move ι χ ε Res → Pool ι ε Res σ
  | .spawn who body => ⟨pool.shared, Function.update pool.running who (some body)⟩
  | .call who choice =>
      match pool.running who with
      | some (.call op next) => ⟨(M.exec who choice op pool.shared).2,
          Function.update pool.running who (some (next (M.exec who choice op pool.shared).1))⟩
      | _ => pool

/-- Whether the next call of a running program, if there is one, is ready. -/
def Poised (M : Machine ι χ ε Res σ) (who : ι) (choice : χ) (state : σ) :
    Option (Program ε Res Unit) → Prop
  | some (.call op _) => M.ready who choice op state
  | _ => True

instance (M : Machine ι χ ε Res σ) [∀ who choice op state, Decidable (M.ready who choice op state)]
    (who : ι) (choice : χ) (state : σ) :
    (body : Option (Program ε Res Unit)) → Decidable (Poised M who choice state body)
  | some (.call op _) => inferInstanceAs (Decidable (M.ready who choice op state))
  | some (.ret _) => .isTrue trivial
  | some (.fail _) => .isTrue trivial
  | none => .isTrue trivial

/-- Whether one entry of a schedule can be carried out. -/
def Playable (M : Machine ι χ ε Res σ) (pool : Pool ι ε Res σ) : Move ι χ ε Res → Prop
  | .spawn who _ => (pool.running who).isNone = true
  | .call who choice => Poised M who choice pool.shared (pool.running who)

instance (M : Machine ι χ ε Res σ) [∀ who choice op state, Decidable (M.ready who choice op state)]
    (pool : Pool ι ε Res σ) : (move : Move ι χ ε Res) → Decidable (Playable M pool move)
  | .spawn who _ => inferInstanceAs (Decidable ((pool.running who).isNone = true))
  | .call who choice =>
      inferInstanceAs (Decidable (Poised M who choice pool.shared (pool.running who)))

/-- A process with a call to make makes it. -/
theorem play_call {M : Machine ι χ ε Res σ} {pool : Pool ι ε Res σ} {who : ι} {op : Op}
    {next : Except ε (Res op) → Program ε Res Unit}
    (current : pool.running who = some (.call op next)) (choice : χ) :
    play M pool (.call who choice) = ⟨(M.exec who choice op pool.shared).2,
      Function.update pool.running who (some (next (M.exec who choice op pool.shared).1))⟩ := by
  simp only [play, current]

/-- Any other process stays as it is. -/
theorem play_still {M : Machine ι χ ε Res σ} {pool : Pool ι ε Res σ} {who : ι}
    {body : Option (Program ε Res Unit)} (current : pool.running who = body) (choice : χ)
    (still : ∀ op next, body ≠ some (.call op next)) : play M pool (.call who choice) = pool := by
  cases body with
  | none => simp only [play, current]
  | some body =>
      cases body with
      | ret value => simp only [play, current]
      | fail error => simp only [play, current]
      | call op next => exact (still op next rfl).elim

/-- An entry that can be carried out is a step, unless it changes nothing. -/
theorem play_step {M : Machine ι χ ε Res σ} {around : Surroundings ι ε Res σ}
    {pool : Pool ι ε Res σ} {move : Move ι χ ε Res} (playable : Playable M pool move)
    (starts : ∀ who body, move = .spawn who body → around.start who body) :
    play M pool move = pool ∨ Step M around pool (play M pool move) := by
  cases move with
  | spawn who body =>
      exact .inr (.spawn who body (Option.isNone_iff_eq_none.mp playable) (starts who body rfl))
  | call who choice =>
      cases current : pool.running who with
      | none => exact .inl (play_still current choice (by rintro op next ⟨⟩))
      | some body =>
          cases body with
          | ret value => exact .inl (play_still current choice (by rintro op next ⟨⟩))
          | fail error => exact .inl (play_still current choice (by rintro op next ⟨⟩))
          | call op next =>
              simp only [Playable, current, Poised] at playable
              rw [play_call current choice]
              exact .inr (.call who choice op next current playable)

theorem play_steps {M : Machine ι χ ε Res σ} {around : Surroundings ι ε Res σ}
    {pool : Pool ι ε Res σ} {move : Move ι χ ε Res} (playable : Playable M pool move)
    (starts : ∀ who body, move = .spawn who body → around.start who body) :
    Steps M around pool (play M pool move) := by
  rcases play_step playable starts with same | step
  · rw [same]
  · exact .single step

/-- Carry out a schedule. -/
def playAll (M : Machine ι χ ε Res σ) (pool : Pool ι ε Res σ)
    (schedule : List (Move ι χ ε Res)) : Pool ι ε Res σ :=
  schedule.foldl (play M) pool

/-- Whether every entry of a schedule can be carried out when its turn comes. -/
def PlayableAll (M : Machine ι χ ε Res σ) : Pool ι ε Res σ → List (Move ι χ ε Res) → Prop
  | _, [] => True
  | pool, move :: rest => Playable M pool move ∧ PlayableAll M (play M pool move) rest

instance PlayableAll.decidable (M : Machine ι χ ε Res σ)
    [∀ who choice op state, Decidable (M.ready who choice op state)] :
    (pool : Pool ι ε Res σ) → (schedule : List (Move ι χ ε Res)) →
      Decidable (PlayableAll M pool schedule)
  | _, [] => .isTrue trivial
  | pool, move :: rest =>
      have := PlayableAll.decidable M (play M pool move) rest
      inferInstanceAs (Decidable (Playable M pool move ∧ _))

/-- Whether the program of a process has returned. -/
def hasReturned (pool : Pool ι ε Res σ) (who : ι) : Bool :=
  match pool.running who with
  | some (.ret ()) => true
  | _ => false

omit [DecidableEq ι] in
theorem running_of_hasReturned {pool : Pool ι ε Res σ} {who : ι}
    (returned : pool.hasReturned who = true) : pool.running who = some (.ret ()) := by
  unfold hasReturned at returned
  split at returned
  · next current => exact current
  · cases returned

/-- A schedule that can be carried out gives a run of the pool. -/
theorem playAll_steps {M : Machine ι χ ε Res σ} {around : Surroundings ι ε Res σ}
    (schedule : List (Move ι χ ε Res)) {pool : Pool ι ε Res σ}
    (playable : PlayableAll M pool schedule)
    (starts : ∀ who body, .spawn who body ∈ schedule → around.start who body) :
    Steps M around pool (playAll M pool schedule) := by
  induction schedule generalizing pool with
  | nil => exact .refl
  | cons move rest ih =>
      have first := play_steps playable.1 fun who body same =>
        starts who body (same ▸ List.mem_cons_self ..)
      exact first.trans (ih playable.2 fun who body member =>
        starts who body (List.mem_cons_of_mem _ member))

end Pool
end EffectSystem
