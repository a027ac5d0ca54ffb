import Payroute.Effects.Machine

/-! # The life of one process

Among the steps of a pool, those of one running program and those of everybody else. A
relation between its remaining program and the shared state that both kinds of steps keep
holds as long as the program runs.
-/

namespace EffectSystem.Pool

variable {ι χ ε Op σ : Type} {Res : Op → Type} [DecidableEq ι]

/-- A step through which a process keeps running. -/
structure Attends (M : Machine ι χ ε Res σ) (around : Surroundings ι ε Res σ) (who : ι)
    (first second : Pool ι ε Res σ) : Prop where
  step : Step M around first second
  before : first.running who ≠ none
  after : second.running who ≠ none

/-- A stretch of a run through which a process keeps running. -/
abbrev Life (M : Machine ι χ ε Res σ) (around : Surroundings ι ε Res σ) (who : ι) :
    Pool ι ε Res σ → Pool ι ε Res σ → Prop :=
  Relation.ReflTransGen (Attends M around who)

/-- The process makes its next call. -/
inductive Calls (M : Machine ι χ ε Res σ) (who : ι) (pool : Pool ι ε Res σ) :
    Pool ι ε Res σ → Prop
  | call (choice : χ) (op : Op) (next : Except ε (Res op) → Program ε Res Unit)
      (current : pool.running who = some (.call op next))
      (ready : M.ready who choice op pool.shared) :
      Calls M who pool ⟨(M.exec who choice op pool.shared).2,
        Function.update pool.running who (some (next (M.exec who choice op pool.shared).1))⟩

/-- The process has a call to make. -/
def Calling (pool : Pool ι ε Res σ) (who : ι) : Prop :=
  ∃ op next, pool.running who = some (.call op next)

instance (pool : Pool ι ε Res σ) (who : ι) : Decidable (Calling pool who) :=
  match current : pool.running who with
  | some (.call op next) => .isTrue ⟨op, next, current⟩
  | some (.ret _) => .isFalse fun ⟨_, _, same⟩ => by cases current.symm.trans same
  | some (.fail _) => .isFalse fun ⟨_, _, same⟩ => by cases current.symm.trans same
  | none => .isFalse fun ⟨_, _, same⟩ => by cases current.symm.trans same

section Schedules

variable {M : Machine ι χ ε Res σ} {around : Surroundings ι ε Res σ} {who : ι}
  {pool : Pool ι ε Res σ}

/-- An entry of a schedule that is its turn. -/
theorem Calls.of_play (calling : Calling pool who) {choice : χ}
    (playable : Playable M pool (.call who choice)) :
    Calls M who pool (play M pool (.call who choice)) := by
  obtain ⟨op, next, current⟩ := calling
  have ready : Poised M who choice pool.shared (pool.running who) := playable
  rw [current] at ready
  rw [play_call current]
  exact .call choice op next current ready

/-- A schedule that gives all turns to one process. -/
theorem life_playAll {choices : List χ} (alive : pool.running who ≠ none)
    (playable : PlayableAll M pool (choices.map (.call who))) :
    Life M around who pool (playAll M pool (choices.map (.call who))) := by
  induction choices generalizing pool with
  | nil => exact .refl
  | cons choice rest ih =>
      obtain ⟨ready, later⟩ := playable
      change Life M around who pool (playAll M (play M pool (.call who choice)) _)
      by_cases calling : Calling pool who
      · obtain ⟨op, next, current⟩ := calling
        have ready : Poised M who choice pool.shared (pool.running who) := ready
        rw [current] at ready
        rw [play_call current] at later ⊢
        have stays : Function.update pool.running who
            (some (next (M.exec who choice op pool.shared).1)) who ≠ none := by
          rw [Function.update_self]
          exact Option.some_ne_none _
        exact .head ⟨.call who choice op next current ready, alive, stays⟩ (ih stays later)
      · have still := play_still (M := M) rfl choice fun op next current =>
          calling ⟨op, next, current⟩
        rw [still] at later ⊢
        exact ih alive later

end Schedules

/-- The error a process has ended with. -/
def failure (pool : Pool ι ε Res σ) (who : ι) : Option ε :=
  match pool.running who with
  | some (.fail error) => some error
  | _ => none

omit [DecidableEq ι] in
theorem running_of_failure {pool : Pool ι ε Res σ} {who : ι} {error : ε}
    (failed : pool.failure who = some error) : pool.running who = some (.fail error) := by
  unfold failure at failed
  split at failed
  · next raised running =>
      cases failed
      exact running
  · cases failed

/-- The remaining program of a process fits the shared state, and goes on to do so. -/
structure Accompanies (M : Machine ι χ ε Res σ) (around : Surroundings ι ε Res σ) (who : ι)
    (fits : Program ε Res Unit → σ → Prop) : Prop where
  own : ∀ op next state choice, fits (.call op next) state → M.ready who choice op state →
    fits (next (M.exec who choice op state).1) (M.exec who choice op state).2
  others : ∀ body state other choice op, other ≠ who → fits body state →
    fits body (M.exec other choice op state).2
  crash : ∀ body state other, other ≠ who → fits body state → fits body (around.crash other state)
  drift : ∀ body state next, fits body state → around.drift state next → fits body next

namespace Accompanies

variable {M : Machine ι χ ε Res σ} {around : Surroundings ι ε Res σ} {who : ι}
  {fits : Program ε Res Unit → σ → Prop} {first last : Pool ι ε Res σ}

/-- Its own call. -/
theorem calls (accompanies : Accompanies M around who fits) (called : Calls M who first last)
    {body : Program ε Res Unit} (current : first.running who = some body)
    (holds : fits body first.shared) :
    ∃ later, last.running who = some later ∧ fits later last.shared := by
  cases called with
  | call choice op next running ready =>
      rw [running] at current
      cases current
      exact ⟨_, Function.update_self .., accompanies.own op next _ choice holds ready⟩

/-- Any step through which the process keeps running. -/
theorem attends (accompanies : Accompanies M around who fits)
    (attends : Attends M around who first last) {body : Program ε Res Unit}
    (current : first.running who = some body) (holds : fits body first.shared) :
    ∃ later, last.running who = some later ∧ fits later last.shared := by
  obtain ⟨step, before, after⟩ := attends
  cases step with
  | spawn other started free _ =>
      have differs : who ≠ other := by
        rintro rfl
        exact before free
      exact ⟨body, (Function.update_of_ne differs ..).trans current, holds⟩
  | call other choice op next running ready =>
      by_cases same : other = who
      · subst same
        exact accompanies.calls (.call choice op next running ready) current holds
      · exact ⟨body, (Function.update_of_ne (Ne.symm same) ..).trans current,
          accompanies.others body _ other choice op same holds⟩
  | finish other ended =>
      have differs : who ≠ other := by
        rintro rfl
        exact after (Function.update_self ..)
      exact ⟨body, (Function.update_of_ne differs ..).trans current, holds⟩
  | crash other alive =>
      have differs : who ≠ other := by
        rintro rfl
        exact after (Function.update_self ..)
      exact ⟨body, (Function.update_of_ne differs ..).trans current,
        accompanies.crash body _ other (Ne.symm differs) holds⟩
  | drift next moved => exact ⟨body, current, accompanies.drift body _ next holds moved⟩

/-- The whole stretch. -/
theorem life (accompanies : Accompanies M around who fits) (life : Life M around who first last)
    {body : Program ε Res Unit} (current : first.running who = some body)
    (holds : fits body first.shared) :
    ∃ later, last.running who = some later ∧ fits later last.shared := by
  induction life with
  | refl => exact ⟨body, current, holds⟩
  | tail _ attends ih =>
      obtain ⟨later, running, fitting⟩ := ih
      exact accompanies.attends attends running fitting

end Accompanies
end EffectSystem.Pool
