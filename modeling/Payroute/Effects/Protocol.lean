import Payroute.Effects.Machine

/-! # Protocols

A protocol says which operation a program may call next and how the reply moves it to
its next phase. A program follows it from a phase when every call it can issue is
allowed there, and it goes on following it after every reply. Following composes along
the program's structure; a running program is at each moment in one phase of its
protocol, which is what invariants about pools of programs speak of.
-/

namespace EffectSystem

variable {ε Op : Type} {Res : Op → Type} {S : Type} {α β : Type}

/-- The phases a call moves between, with the reply it gets. -/
abbrev Protocol (ε : Type) {Op : Type} (Res : Op → Type) (S : Type) :=
  S → (op : Op) → Except ε (Res op) → S → Prop

/-- The operation may be called in the phase. -/
def Protocol.Allows (protocol : Protocol ε Res S) (phase : S) (op : Op) : Prop :=
  ∃ reply later, protocol phase op reply later

/-- Every call of the program is allowed, whatever the replies, and it ends in `post`. -/
def Follows (protocol : Protocol ε Res S) (post : Except ε α → S → Prop) :
    Program ε Res α → S → Prop
  | .ret value, phase => post (.ok value) phase
  | .fail error, phase => post (.error error) phase
  | .call op next, phase => protocol.Allows phase op ∧
      ∀ reply later, protocol phase op reply later → Follows protocol post (next reply) later

namespace Follows

variable {protocol : Protocol ε Res S} {phase : S}

/-- A weaker postcondition. -/
theorem mono {post weaker : Except ε α → S → Prop} {body : Program ε Res α}
    (follows : Follows protocol post body phase)
    (implies : ∀ outcome last, post outcome last → weaker outcome last) :
    Follows protocol weaker body phase := by
  induction body generalizing phase with
  | ret value => exact implies _ _ follows
  | fail error => exact implies _ _ follows
  | call op next ih =>
      exact ⟨follows.1, fun reply later moved => ih reply (follows.2 reply later moved)⟩

/-- One raised call. -/
theorem perform {op : Op} {post : Except ε (Res op) → S → Prop} (allowed : protocol.Allows phase op)
    (each : ∀ reply later, protocol phase op reply later → post reply later) :
    Follows protocol post (Program.perform op) phase := by
  refine ⟨allowed, fun reply later moved => ?_⟩
  have holds := each reply later moved
  cases reply with
  | ok value => exact holds
  | error error => exact holds

/-- Sequential composition: the second program starts in the phase in which the first
returned, and failures of the first are final. -/
theorem bind {middle : Except ε α → S → Prop} {post : Except ε β → S → Prop}
    {body : Program ε Res α} {f : α → Program ε Res β}
    (first : Follows protocol middle body phase)
    (rest : ∀ value later, middle (.ok value) later → Follows protocol post (f value) later)
    (failed : ∀ error later, middle (.error error) later → post (.error error) later) :
    Follows protocol post (body.bind f) phase := by
  induction body generalizing phase with
  | ret value => exact rest value phase first
  | fail error => exact failed error phase first
  | call op next ih =>
      exact ⟨first.1, fun reply later moved => ih reply (first.2 reply later moved)⟩

/-- Sequential composition where only one value and one phase are possible in between. -/
theorem andThen {value : α} {next : S} {post : Except ε β → S → Prop} {body : Program ε Res α}
    {f : α → Program ε Res β}
    (first : Follows protocol (fun outcome last => outcome = .ok value ∧ last = next) body phase)
    (rest : Follows protocol post (f value) next) : Follows protocol post (body.bind f) phase := by
  refine first.bind ?_ ?_
  · intro returned later reached
    obtain ⟨same, rfl⟩ := reached
    cases same
    exact rest
  · intro error later reached
    cases reached.1

/-- A program whose failure is recorded. -/
theorem attempt {post : Except ε α → S → Prop} {body : Program ε Res α}
    (follows : Follows protocol post body phase) :
    Follows protocol (fun outcome last => ∃ inner, outcome = .ok inner ∧ post inner last)
      body.attempt phase := by
  induction body generalizing phase with
  | ret value => exact ⟨_, rfl, follows⟩
  | fail error => exact ⟨_, rfl, follows⟩
  | call op next ih =>
      exact ⟨follows.1, fun reply later moved => ih reply (follows.2 reply later moved)⟩

/-- A handler runs where the body failed. -/
theorem tryCatch {middle post : Except ε α → S → Prop} {body : Program ε Res α}
    {handler : ε → Program ε Res α} (first : Follows protocol middle body phase)
    (returned : ∀ value later, middle (.ok value) later → post (.ok value) later)
    (caught : ∀ error later, middle (.error error) later →
      Follows protocol post (handler error) later) :
    Follows protocol post (Program.tryCatch body handler) phase := by
  refine first.attempt.bind ?_ ?_
  · intro outcome later reached
    obtain ⟨inner, same, holds⟩ := reached
    cases same
    cases outcome with
    | ok value => exact returned value later holds
    | error error => exact caught error later holds
  · intro error later reached
    obtain ⟨inner, same, _⟩ := reached
    cases same

/-- A cleanup that swallows its own failures. -/
theorem tryFinally {middle post : Except ε α → S → Prop} {body : Program ε Res α}
    {cleanup : Program ε Res Unit} (first : Follows protocol middle body phase)
    (cleaned : ∀ outcome later, middle outcome later →
      Follows protocol (fun ending last => ending = .ok () ∧ post outcome last) cleanup later) :
    Follows protocol post (Program.tryFinally body cleanup) phase := by
  refine first.attempt.bind ?_ ?_
  · intro outcome later reached
    obtain ⟨inner, same, holds⟩ := reached
    cases same
    refine (cleaned outcome later holds).bind ?_ ?_
    · intro _ last ended
      cases outcome with
      | ok value => exact ended.2
      | error error => exact ended.2
    · intro error last ended
      cases ended.1
  · intro error later reached
    obtain ⟨inner, same, _⟩ := reached
    cases same

/-- Failures of the body are swallowed. -/
theorem swallow {middle : Except ε α → S → Prop} {post : Except ε Unit → S → Prop}
    {body : Program ε Res α} (first : Follows protocol middle body phase)
    (implies : ∀ outcome later, middle outcome later → post (.ok ()) later) :
    Follows protocol post (Program.swallow body) phase := by
  refine first.attempt.bind ?_ ?_
  · intro outcome later reached
    obtain ⟨inner, same, holds⟩ := reached
    exact implies inner later holds
  · intro error later reached
    obtain ⟨inner, same, _⟩ := reached
    cases same

/-- A program whose calls are all allowed in the phase and stay in it. -/
theorem of_onlyCalls {allowed : Op → Prop} {body : Program ε Res α}
    (only : body.OnlyCalls allowed) (allows : ∀ op, allowed op → protocol.Allows phase op)
    (stays : ∀ op reply later, allowed op → protocol phase op reply later → later = phase) :
    Follows protocol (fun _ last => last = phase) body phase := by
  induction body with
  | ret value => exact rfl
  | fail error => exact rfl
  | call op next ih =>
      refine ⟨allows op only.1, fun reply later moved => ?_⟩
      rw [stays op reply later only.1 moved]
      exact ih reply (only.2 reply)

/-- A program that follows one protocol follows another one that simulates it. -/
theorem simulate {T : Type} {other : Protocol ε Res T} (related : S → T → Prop)
    (allows : ∀ phase image op, related phase image → protocol.Allows phase op →
      other.Allows image op)
    (matched : ∀ phase image op reply next, related phase image → protocol.Allows phase op →
      other image op reply next → ∃ later, protocol phase op reply later ∧ related later next)
    {post : Except ε α → S → Prop} {body : Program ε Res α}
    (follows : Follows protocol post body phase) {image : T} (start : related phase image) :
    Follows other (fun outcome last => ∃ source, related source last ∧ post outcome source)
      body image := by
  induction body generalizing phase image with
  | ret value => exact ⟨phase, start, follows⟩
  | fail error => exact ⟨phase, start, follows⟩
  | call op next ih =>
      refine ⟨allows phase image op start follows.1, fun reply last moved => ?_⟩
      obtain ⟨later, step, relates⟩ := matched phase image op reply last start follows.1 moved
      exact ih reply (follows.2 reply later step) relates

end Follows

/-! ## Pools -/

section Pools

variable {ι χ σ : Type} [DecidableEq ι]

/-- The phases of the processes keep fitting the shared state: every call a program may
make is a move of the protocol, and what happens besides the calls disturbs nobody. -/
structure Governs (M : Machine ι χ ε Res σ) (around : Pool.Surroundings ι ε Res σ)
    (protocol : Protocol ε Res S) (idle : S) (fits : (ι → S) → σ → Prop) : Prop where
  start : ∀ who body, around.start who body →
    Follows protocol (fun _ last => last = idle) body idle
  call : ∀ phases state who choice op, fits phases state → protocol.Allows (phases who) op →
    M.ready who choice op state →
    ∃ later, protocol (phases who) op (M.exec who choice op state).1 later ∧
      fits (Function.update phases who later) (M.exec who choice op state).2
  crash : ∀ phases state who, fits phases state →
    fits (Function.update phases who idle) (around.crash who state)
  drift : ∀ phases state next, fits phases state → around.drift state next → fits phases next

/-- Every process follows the protocol from its phase, and the phases fit the state. -/
structure Pool.Obeys (protocol : Protocol ε Res S) (idle : S) (fits : (ι → S) → σ → Prop)
    (phases : ι → S) (pool : Pool ι ε Res σ) : Prop where
  fits : fits phases pool.shared
  follows : ∀ who body, pool.running who = some body →
    Follows protocol (fun _ last => last = idle) body (phases who)
  idle : ∀ who, pool.running who = none → phases who = idle

namespace Governs

variable {M : Machine ι χ ε Res σ} {around : Pool.Surroundings ι ε Res σ}
  {protocol : Protocol ε Res S} {idle : S} {fits : (ι → S) → σ → Prop} {phases : ι → S}
  {first last : Pool ι ε Res σ}

/-- One process moves on, and the others stay where they are. -/
theorem update {state : σ} {who : ι} {phase : S} {running : Option (Program ε Res Unit)}
    (obeys : first.Obeys protocol idle fits phases)
    (fitting : fits (Function.update phases who phase) state)
    (follows : ∀ body, running = some body →
      Follows protocol (fun _ last => last = idle) body phase)
    (ends : running = none → phase = idle) :
    Pool.Obeys protocol idle fits (Function.update phases who phase)
      ⟨state, Function.update first.running who running⟩ := by
  refine ⟨fitting, fun other body current => ?_, fun other ended => ?_⟩
  · change Function.update first.running who running other = some body at current
    by_cases same : other = who
    · subst same
      rw [Function.update_self] at current ⊢
      exact follows body current
    · rw [Function.update_of_ne same] at current ⊢
      exact obeys.follows other body current
  · change Function.update first.running who running other = none at ended
    by_cases same : other = who
    · subst same
      rw [Function.update_self] at ended ⊢
      exact ends ended
    · rw [Function.update_of_ne same] at ended ⊢
      exact obeys.idle other ended

theorem step (governs : Governs M around protocol idle fits)
    (obeys : first.Obeys protocol idle fits phases) (step : Pool.Step M around first last) :
    ∃ later, last.Obeys protocol idle fits later := by
  cases step with
  | spawn who body free started =>
      have same : Function.update phases who idle = phases := by
        rw [← obeys.idle who free]
        exact Function.update_eq_self who phases
      refine ⟨Function.update phases who idle, update obeys ?_ ?_ ?_⟩
      · rw [same]
        exact obeys.fits
      · intro program current
        cases current
        exact governs.start who body started
      · intro absurd
        cases absurd
  | call who choice op next current ready =>
      obtain ⟨allowed, follows⟩ := obeys.follows who _ current
      obtain ⟨later, moved, fitting⟩ :=
        governs.call phases first.shared who choice op obeys.fits allowed ready
      refine ⟨_, update obeys fitting ?_ ?_⟩
      · intro program same
        cases same
        exact follows _ later moved
      · intro absurd
        cases absurd
  | finish who ended =>
      have final : phases who = idle := by
        rcases ended with returned | ⟨error, failed⟩
        · exact obeys.follows who _ returned
        · exact obeys.follows who _ failed
      refine ⟨Function.update phases who (phases who), update obeys ?_ ?_ fun _ => final⟩
      · rw [Function.update_eq_self]
        exact obeys.fits
      · intro program absurd
        cases absurd
  | crash who alive =>
      refine ⟨_, update obeys (governs.crash phases first.shared who obeys.fits) ?_ fun _ => rfl⟩
      intro program absurd
      cases absurd
  | drift next moved =>
      exact ⟨phases, governs.drift phases first.shared next obeys.fits moved, obeys.follows,
        obeys.idle⟩

/-- The invariant of every run from a quiet start. -/
theorem reachable (governs : Governs M around protocol idle fits) {initial : σ}
    (start : fits (fun _ => idle) initial) (reached : Pool.Reachable M around initial last) :
    ∃ later, last.Obeys protocol idle fits later := by
  induction reached with
  | refl =>
      refine ⟨_, start, fun who body absurd => ?_, fun _ _ => rfl⟩
      cases absurd
  | tail _ step ih =>
      obtain ⟨phases, obeys⟩ := ih
      exact governs.step obeys step

end Governs
end Pools
end EffectSystem
