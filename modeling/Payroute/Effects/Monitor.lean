import Payroute.Effects.Protocol

/-! # Monitored pools

Every process is in some phase of a protocol, and what the phases stand for holds of the
shared state. Unlike under `Governs`, a program may end in any phase, and what is known
about every step from elsewhere may be used.
-/

namespace EffectSystem

variable {ε Op : Type} {Res : Op → Type} {S ι χ σ : Type} [DecidableEq ι]

/-! ## Steady programs -/

section Steady

variable {α β : Type} {protocol : Protocol ε Res S}

/-- Wherever the process stands, the program follows the protocol. -/
def Steady (protocol : Protocol ε Res S) (body : Program ε Res α) : Prop :=
  ∀ phase, Follows protocol (fun _ _ => True) body phase

namespace Steady

/-- A value makes no call. -/
theorem ret (value : α) : Steady protocol (.ret value : Program ε Res α) := fun _ => trivial

/-- A failure makes no call. -/
theorem fail (error : ε) : Steady protocol (.fail error : Program ε Res α) := fun _ => trivial

/-- One call that every phase allows. -/
theorem perform {op : Op} (allows : ∀ phase, protocol.Allows phase op) :
    Steady protocol (Program.perform op) :=
  fun phase => .perform (allows phase) fun _ _ _ => trivial

/-- A steady program followed by steady ones. -/
theorem bind {body : Program ε Res α} {next : α → Program ε Res β}
    (first : Steady protocol body) (rest : ∀ value, Steady protocol (next value)) :
    Steady protocol (body.bind next) := fun phase =>
  (first phase).bind (fun value later _ => rest value later) fun _ _ _ => trivial

/-- Asking for the outcome of a steady program. -/
theorem attempt {body : Program ε Res α} (steady : Steady protocol body) :
    Steady protocol body.attempt :=
  fun phase => (steady phase).attempt.mono fun _ _ _ => trivial

/-- A steady program with a steady handler. -/
theorem tryCatch {body : Program ε Res α} {handler : ε → Program ε Res α}
    (first : Steady protocol body) (caught : ∀ error, Steady protocol (handler error)) :
    Steady protocol (Program.tryCatch body handler) := fun phase =>
  (first phase).tryCatch (fun _ _ _ => trivial) fun error later _ => caught error later

/-- A steady program whose failure is ignored. -/
theorem swallow {body : Program ε Res α} (steady : Steady protocol body) :
    Steady protocol (Program.swallow body) :=
  fun phase => (steady phase).swallow fun _ _ _ => trivial

/-- A cleanup that swallows its own failures. -/
theorem tryFinally {body : Program ε Res α} {cleanup : Program ε Res Unit}
    (first : Steady protocol body) (cleaned : Steady protocol cleanup) :
    Steady protocol (Program.tryFinally body (Program.swallow cleanup)) := fun phase =>
  (first phase).tryFinally fun _ later _ => (cleaned later).swallow fun _ _ _ => ⟨rfl, trivial⟩

/-- A program whose calls are allowed in every phase. -/
theorem of_onlyCalls {allowed : Op → Prop} {body : Program ε Res α}
    (only : body.OnlyCalls allowed)
    (allows : ∀ op, allowed op → ∀ phase, protocol.Allows phase op) : Steady protocol body := by
  intro phase
  induction body generalizing phase with
  | ret value => trivial
  | fail error => trivial
  | call op next ih =>
      exact ⟨allows op only.1 phase, fun reply later _ => ih reply (only.2 reply) later⟩

end Steady
end Steady

/-! ## Pools -/

/-- What the phases stand for is kept by the calls they allow and by everything else
that happens, where every step is known to be one of the relation and to find the
processes that rest idle. -/
structure Monitors (M : Machine ι χ ε Res σ) (around : Pool.Surroundings ι ε Res σ)
    (protocol : Protocol ε Res S) (start : S) (idle : ι → σ → Prop) (known : σ → σ → Prop)
    (fits : (ι → S) → σ → Prop) : Prop where
  follows : ∀ who body, around.start who body → Follows protocol (fun _ _ => True) body start
  enter : ∀ phases state who, fits phases state → idle who state →
    fits (Function.update phases who start) state
  call : ∀ phases state who choice op, fits phases state → protocol.Allows (phases who) op →
    M.ready who choice op state → known state (M.exec who choice op state).2 →
    ∃ later, protocol (phases who) op (M.exec who choice op state).1 later ∧
      fits (Function.update phases who later) (M.exec who choice op state).2
  crash : ∀ phases state who, fits phases state →
    fits (Function.update phases who start) (around.crash who state)
  drift : ∀ phases state next, fits phases state → around.drift state next → fits phases next

/-- Every running program follows the protocol from its phase, and the phases fit. -/
structure Pool.Watched (protocol : Protocol ε Res S) (fits : (ι → S) → σ → Prop)
    (phases : ι → S) (pool : Pool ι ε Res σ) : Prop where
  fits : fits phases pool.shared
  follows : ∀ who body, pool.running who = some body →
    Follows protocol (fun _ _ => True) body (phases who)

namespace Monitors

variable {M : Machine ι χ ε Res σ} {around : Pool.Surroundings ι ε Res σ}
  {protocol : Protocol ε Res S} {start : S} {idle : ι → σ → Prop} {known : σ → σ → Prop}
  {fits : (ι → S) → σ → Prop} {phases : ι → S} {first last : Pool ι ε Res σ}

/-- One process moves on, and the others stay where they are. -/
theorem update (watched : first.Watched protocol fits phases) {state : σ} {who : ι} {phase : S}
    {running : Option (Program ε Res Unit)}
    (fitting : fits (Function.update phases who phase) state)
    (own : ∀ body, running = some body → Follows protocol (fun _ _ => True) body phase) :
    Pool.Watched protocol fits (Function.update phases who phase)
      ⟨state, Function.update first.running who running⟩ := by
  refine ⟨fitting, fun other body current => ?_⟩
  change Function.update first.running who running other = some body at current
  by_cases same : other = who
  · subst same
    rw [Function.update_self] at current ⊢
    exact own body current
  · rw [Function.update_of_ne same] at current ⊢
    exact watched.follows other body current

/-- A step of the pool leads from watched programs to watched ones. -/
theorem step (monitors : Monitors M around protocol start idle known fits)
    (watched : first.Watched protocol fits phases) (step : Pool.Step M around first last)
    (rests : ∀ who, first.running who = none → idle who first.shared)
    (fact : known first.shared last.shared) :
    ∃ later, last.Watched protocol fits later := by
  cases step with
  | spawn who body free started =>
      have entered := monitors.enter phases first.shared who watched.fits (rests who free)
      refine ⟨_, update watched entered fun program same => ?_⟩
      cases same
      exact monitors.follows who body started
  | call who choice op next current ready =>
      obtain ⟨allowed, goes⟩ := watched.follows who _ current
      obtain ⟨later, moved, fitting⟩ :=
        monitors.call phases first.shared who choice op watched.fits allowed ready fact
      refine ⟨_, update watched fitting fun program same => ?_⟩
      cases same
      exact goes _ later moved
  | finish who ended =>
      have still : fits (Function.update phases who (phases who)) first.shared := by
        rw [Function.update_eq_self]
        exact watched.fits
      exact ⟨_, update watched still fun _ absurd => by cases absurd⟩
  | crash who alive =>
      exact ⟨_, update watched (monitors.crash phases _ who watched.fits) fun _ absurd => by
        cases absurd⟩
  | drift next moved =>
      exact ⟨phases, monitors.drift phases first.shared next watched.fits moved, watched.follows⟩

/-- Every run from a quiet start. -/
theorem reachable (monitors : Monitors M around protocol start idle known fits) {initial : σ}
    (holds : fits (fun _ => start) initial)
    (rests : ∀ pool, Pool.Reachable M around initial pool →
      ∀ who, pool.running who = none → idle who pool.shared)
    (facts : ∀ before after, Pool.Reachable M around initial before →
      Pool.Step M around before after → known before.shared after.shared)
    (reached : Pool.Reachable M around initial last) :
    ∃ phases, last.Watched protocol fits phases := by
  induction reached with
  | refl => exact ⟨fun _ => start, holds, fun who body absurd => by cases absurd⟩
  | tail before step ih =>
      obtain ⟨phases, watched⟩ := ih
      exact monitors.step watched step (rests _ before) (facts _ _ before step)

end Monitors
end EffectSystem
