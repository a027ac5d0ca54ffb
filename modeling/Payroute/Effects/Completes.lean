import Payroute.Effects.Solo

/-! # Programs that return

`Completes` says that a program run alone returns, when the environment takes its
default choice at every call, and what it returns and leaves. Where `Solo` speaks of
every run, this speaks of the undisturbed one.
-/

namespace EffectSystem

variable {ι χ ε Op σ : Type} {Res : Op → Type} {α β : Type} [Inhabited χ]

/-- The run under default choices returns, and satisfies `post`. -/
def Completes (M : Machine ι χ ε Res σ) (who : ι) (post : α → σ → Prop)
    (body : Program ε Res α) (state : σ) : Prop :=
  ∃ value last, M.run who body [] state = ⟨.ok value, [], last⟩ ∧ post value last

namespace Completes

variable {M : Machine ι χ ε Res σ} {who : ι} {state : σ} {post : α → σ → Prop}

theorem ret {value : α} (holds : post value state) :
    Completes M who post (.ret value) state :=
  ⟨value, state, rfl, holds⟩

/-- A weaker postcondition. -/
theorem mono {weaker : α → σ → Prop} {body : Program ε Res α}
    (completes : Completes M who post body state)
    (implies : ∀ value last, post value last → weaker value last) :
    Completes M who weaker body state := by
  obtain ⟨value, last, ran, holds⟩ := completes
  exact ⟨value, last, ran, implies value last holds⟩

/-- What every run satisfies holds of this one too. -/
theorem and {other : Except ε α → σ → Prop} {body : Program ε Res α}
    (completes : Completes M who post body state)
    (solo : Solo M (fun _ _ => True) who other body state) :
    Completes M who (fun value last => post value last ∧ other (.ok value) last) body state := by
  obtain ⟨value, last, ran, holds⟩ := completes
  have always := solo [] fun _ _ => trivial
  rw [ran] at always
  exact ⟨value, last, ran, holds, always⟩

/-- One raised call that succeeds. -/
theorem perform {op : Op} {post : Res op → σ → Prop} {value : Res op} {last : σ}
    (done : M.exec who default op state = (.ok value, last)) (holds : post value last) :
    Completes M who post (Program.perform op) state := by
  refine ⟨value, last, ?_, holds⟩
  rw [M.run_perform, List.headI_nil, done]
  rfl

/-- Sequential composition. -/
theorem bind {middle : α → σ → Prop} {post : β → σ → Prop} {body : Program ε Res α}
    {f : α → Program ε Res β} (first : Completes M who middle body state)
    (rest : ∀ value later, middle value later → Completes M who post (f value) later) :
    Completes M who post (body.bind f) state := by
  obtain ⟨value, later, ran, holds⟩ := first
  obtain ⟨result, last, finished, holds⟩ := rest value later holds
  refine ⟨result, last, ?_, holds⟩
  rw [Machine.run_bind, ran]
  exact finished

/-- A program that returns is not caught. -/
theorem attempt {body : Program ε Res α} (completes : Completes M who post body state) :
    Completes M who (fun outcome last => ∃ value, outcome = .ok value ∧ post value last)
      body.attempt state := by
  obtain ⟨value, last, ran, holds⟩ := completes
  refine ⟨.ok value, last, ?_, value, rfl, holds⟩
  rw [Machine.run_attempt, ran]

theorem tryCatch {body : Program ε Res α} {handler : ε → Program ε Res α}
    (completes : Completes M who post body state) :
    Completes M who post (Program.tryCatch body handler) state := by
  apply completes.attempt.bind
  intro outcome last reached
  obtain ⟨value, rfl, holds⟩ := reached
  exact ret holds

/-- A cleanup that also returns. -/
theorem tryFinally {middle : α → σ → Prop} {body : Program ε Res α}
    {cleanup : Program ε Res Unit} (first : Completes M who middle body state)
    (cleaned : ∀ value later, middle value later →
      Completes M who (fun _ last => post value last) cleanup later) :
    Completes M who post (Program.tryFinally body cleanup) state := by
  apply first.attempt.bind
  intro outcome later reached
  obtain ⟨value, rfl, holds⟩ := reached
  apply (cleaned value later holds).bind
  intro _ last finished
  exact ret finished

theorem swallow {body : Program ε Res α} {post : Unit → σ → Prop}
    (completes : Completes M who (fun _ last => post () last) body state) :
    Completes M who post (Program.swallow body) state := by
  apply completes.attempt.bind
  intro outcome last reached
  obtain ⟨value, _, holds⟩ := reached
  exact ret holds

end Completes
end EffectSystem
