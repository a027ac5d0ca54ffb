import Payroute.Effects.Machine

/-! # Programs run alone

`Solo` says that every run of a program, alone from a given state, ends in a
postcondition, provided each of its calls meets a condition on the operation and
the choice taken for it. It composes along the program's structure.
-/

namespace EffectSystem

variable {ι χ ε Op σ : Type} {Res : Op → Type} {α β : Type} [Inhabited χ]

/-- Every run whose calls are fine ends in `post`. -/
def Solo (M : Machine ι χ ε Res σ) (fine : Op → χ → Prop) (who : ι) (post : Except ε α → σ → Prop)
    (body : Program ε Res α) (state : σ) : Prop :=
  ∀ choices, (∀ entry ∈ M.calls who body choices state, fine entry.1 entry.2) →
    post (M.run who body choices state).outcome (M.run who body choices state).state

namespace Solo

variable {M : Machine ι χ ε Res σ} {fine : Op → χ → Prop} {who : ι} {state : σ}

theorem ret {post : Except ε α → σ → Prop} {value : α} (holds : post (.ok value) state) :
    Solo M fine who post (.ret value) state := fun _ _ => holds

theorem fail {post : Except ε α → σ → Prop} {error : ε} (holds : post (.error error) state) :
    Solo M fine who post (.fail error) state := fun _ _ => holds

/-- A weaker postcondition. -/
theorem mono {post weaker : Except ε α → σ → Prop} {body : Program ε Res α}
    (solo : Solo M fine who post body state)
    (implies : ∀ outcome last, post outcome last → weaker outcome last) :
    Solo M fine who weaker body state :=
  fun choices allowed => implies _ _ (solo choices allowed)

/-- Fewer choices are fine. -/
theorem narrow {stronger : Op → χ → Prop} {post : Except ε α → σ → Prop} {body : Program ε Res α}
    (solo : Solo M fine who post body state)
    (implies : ∀ op choice, stronger op choice → fine op choice) :
    Solo M stronger who post body state :=
  fun choices allowed => solo choices fun entry member => implies _ _ (allowed entry member)

/-- Two postconditions of one program. -/
theorem and {left right : Except ε α → σ → Prop} {body : Program ε Res α}
    (first : Solo M fine who left body state) (second : Solo M fine who right body state) :
    Solo M fine who (fun outcome last => left outcome last ∧ right outcome last) body state :=
  fun choices allowed => ⟨first choices allowed, second choices allowed⟩

/-- One raised call. -/
theorem perform {op : Op} {post : Except ε (Res op) → σ → Prop}
    (each : ∀ choice, fine op choice →
      post (M.exec who choice op state).1 (M.exec who choice op state).2) :
    Solo M fine who post (Program.perform op) state := by
  intro choices allowed
  rw [M.run_perform]
  exact each choices.headI (allowed _ List.mem_cons_self)

/-- Sequential composition: the second program starts where the first returned, and
failures of the first are final. -/
theorem bind {middle : Except ε α → σ → Prop} {post : Except ε β → σ → Prop}
    {body : Program ε Res α} {f : α → Program ε Res β} (first : Solo M fine who middle body state)
    (rest : ∀ value later, middle (.ok value) later → Solo M fine who post (f value) later)
    (failed : ∀ error later, middle (.error error) later → post (.error error) later) :
    Solo M fine who post (body.bind f) state := by
  intro choices allowed
  rw [Machine.calls_bind] at allowed
  rw [Machine.run_bind]
  have holds := first choices fun entry member => allowed entry (List.mem_append_left _ member)
  generalize M.run who body choices state = result at allowed holds ⊢
  obtain ⟨outcome, remaining, later⟩ := result
  cases outcome with
  | ok value =>
      exact rest value later holds remaining fun entry member =>
        allowed entry (List.mem_append_right _ member)
  | error error => exact failed error later holds

/-- A program whose failure is recorded. -/
theorem attempt {post : Except ε α → σ → Prop} {body : Program ε Res α}
    (solo : Solo M fine who post body state) :
    Solo M fine who (fun outcome last => ∃ inner, outcome = .ok inner ∧ post inner last)
      body.attempt state := by
  intro choices allowed
  rw [Machine.calls_attempt] at allowed
  rw [Machine.run_attempt]
  exact ⟨_, rfl, solo choices allowed⟩

/-- A handler runs where the body failed. -/
theorem tryCatch {middle post : Except ε α → σ → Prop} {body : Program ε Res α}
    {handler : ε → Program ε Res α} (first : Solo M fine who middle body state)
    (returned : ∀ value later, middle (.ok value) later → post (.ok value) later)
    (caught : ∀ error later, middle (.error error) later →
      Solo M fine who post (handler error) later) :
    Solo M fine who post (Program.tryCatch body handler) state := by
  refine first.attempt.bind ?_ ?_
  · intro outcome later reached
    obtain ⟨inner, same, holds⟩ := reached
    cases same
    cases outcome with
    | ok value => exact .ret (returned value later holds)
    | error error => exact caught error later holds
  · intro error later reached
    obtain ⟨inner, same, _⟩ := reached
    cases same

/-- A cleanup that swallows its own failures. -/
theorem tryFinally {middle post : Except ε α → σ → Prop} {body : Program ε Res α}
    {cleanup : Program ε Res Unit} (first : Solo M fine who middle body state)
    (cleaned : ∀ outcome later, middle outcome later →
      Solo M fine who (fun ending last => ending = .ok () ∧ post outcome last) cleanup later) :
    Solo M fine who post (Program.tryFinally body cleanup) state := by
  refine first.attempt.bind ?_ ?_
  · intro outcome later reached
    obtain ⟨inner, same, holds⟩ := reached
    cases same
    refine (cleaned outcome later holds).bind ?_ ?_
    · intro _ last ended
      cases outcome with
      | ok value => exact .ret ended.2
      | error error => exact .fail ended.2
    · intro error last ended
      cases ended.1
  · intro error later reached
    obtain ⟨inner, same, _⟩ := reached
    cases same

/-- Failures of the body are swallowed. -/
theorem swallow {middle : Except ε α → σ → Prop} {post : Except ε Unit → σ → Prop}
    {body : Program ε Res α} (first : Solo M fine who middle body state)
    (implies : ∀ outcome later, middle outcome later → post (.ok ()) later) :
    Solo M fine who post (Program.swallow body) state := by
  refine first.attempt.bind ?_ ?_
  · intro outcome later reached
    obtain ⟨inner, same, holds⟩ := reached
    exact .ret (implies inner later holds)
  · intro error later reached
    obtain ⟨inner, same, _⟩ := reached
    cases same

/-- A property that every call of the program keeps. -/
theorem keeps {allowed : Op → Prop} (property : σ → Prop)
    (kept : ∀ choice op later, allowed op → property later →
      property (M.exec who choice op later).2)
    {body : Program ε Res α} (only : body.OnlyCalls allowed) (holds : property state) :
    Solo M fine who (fun _ last => property last) body state :=
  fun choices _ => M.run_keeps who property kept only choices holds

end Solo

/-! ## Recording the calls -/

namespace Machine

variable (M : Machine ι χ ε Res σ) (who : ι)

omit [Inhabited χ] in
/-- The machine that records the calls it carries out. -/
def recorded : Machine ι χ ε Res (σ × List (Op × χ)) where
  exec := fun who choice op state => ((M.exec who choice op state.1).1,
    (M.exec who choice op state.1).2, state.2 ++ [(op, choice)])
  ready := fun who choice op state => M.ready who choice op state.1

/-- Recording does not change what is executed. -/
theorem run_recorded (body : Program ε Res α) (choices : List χ) (state : σ)
    (log : List (Op × χ)) :
    M.recorded.run who body choices (state, log) =
      ⟨(M.run who body choices state).outcome, (M.run who body choices state).choices,
        (M.run who body choices state).state, log ++ M.calls who body choices state⟩ := by
  induction body generalizing choices state log with
  | ret value =>
      change (⟨.ok value, choices, state, log⟩ : Result ε χ (σ × List (Op × χ)) α) =
        ⟨.ok value, choices, state, log ++ []⟩
      rw [List.append_nil]
  | fail error =>
      change (⟨.error error, choices, state, log⟩ : Result ε χ (σ × List (Op × χ)) α) =
        ⟨.error error, choices, state, log ++ []⟩
      rw [List.append_nil]
  | call op next ih =>
      rw [run_call]
      refine (ih _ _ _ _).trans ?_
      rw [List.append_assoc]
      rfl

end Machine

end EffectSystem
