import Mathlib.Data.Set.Insert
import Mathlib.Logic.Function.Basic

/-! # Leases

Clients take keys for a limited time. A key is free or holds the token of its last
grant. A grant carries a token that was never used before, any key may lapse at any
time, and a return frees the key only where the key still holds the token that is
returned. Where clients return only tokens they were granted themselves, the token a key
holds is that of the one grant of the key that its client has not returned and that has
not lapsed.
-/

namespace Leases

variable {ι κ τ : Type*}

/-- The token each key holds, and the tokens that were used. -/
structure State (κ τ : Type*) where
  holder : κ → Option τ
  spent : Set τ

/-- What the clients do, with the replies they are given, and what happens to the keys. -/
inductive Event (ι κ τ : Type*) where
  | acquire (who : ι) (key : κ) (reply : Option τ)
  | release (who : ι) (key : κ) (token : τ)
  | lapse (gone : κ → Prop)

/-- One event of the service. -/
inductive Step [DecidableEq κ] (state next : State κ τ) : Event ι κ τ → Prop
  | granted {who : ι} {key : κ} {token : τ} (free : state.holder key = none)
      (fresh : token ∉ state.spent)
      (holder : next.holder = Function.update state.holder key (some token))
      (spent : state.spent ⊆ next.spent) (drawn : token ∈ next.spent) :
      Step state next (.acquire who key (some token))
  | refused {who : ι} {key : κ} (held : state.holder key ≠ none)
      (holder : next.holder = state.holder) (spent : state.spent ⊆ next.spent) :
      Step state next (.acquire who key none)
  | freed {who : ι} {key : κ} {token : τ} (current : state.holder key = some token)
      (holder : next.holder = Function.update state.holder key none)
      (spent : state.spent ⊆ next.spent) : Step state next (.release who key token)
  | stale {who : ι} {key : κ} {token : τ} (other : state.holder key ≠ some token)
      (holder : next.holder = state.holder) (spent : state.spent ⊆ next.spent) :
      Step state next (.release who key token)
  | lapsed {gone : κ → Prop} (lost : ∀ key, gone key → next.holder key = none)
      (kept : ∀ key, ¬ gone key → next.holder key = state.holder key)
      (spent : state.spent ⊆ next.spent) : Step state next (.lapse gone)

/-- The events from one state to another, in their order. -/
inductive Run [DecidableEq κ] (initial : State κ τ) : List (Event ι κ τ) → State κ τ → Prop
  | nil : Run initial [] initial
  | snoc {trace : List (Event ι κ τ)} {state next : State κ τ} {event : Event ι κ τ}
      (run : Run initial trace state) (step : Step state next event) :
      Run initial (trace ++ [event]) next

/-- The client was granted the key, and has neither returned the token nor lost the key
since. -/
def Outstanding (trace : List (Event ι κ τ)) (who : ι) (key : κ) (token : τ) : Prop :=
  ∃ before after, trace = before ++ .acquire who key (some token) :: after ∧
    .release who key token ∉ after ∧ ∀ gone, .lapse gone ∈ after → ¬ gone key

/-- Clients return only what they were granted before. -/
def Honest (trace : List (Event ι κ τ)) : Prop :=
  ∀ before who key token after, trace = before ++ .release who key token :: after →
    .acquire who key (some token) ∈ before

/-! ## One more event -/

section Snoc

variable {trace : List (Event ι κ τ)} {event : Event ι κ τ} {who : ι} {key : κ} {token : τ}

theorem split_snoc {α : Type*} {first before after : List α} {last item : α}
    (split : first ++ [last] = before ++ item :: after) :
    (after = [] ∧ first = before ∧ last = item) ∨
      ∃ rest, after = rest ++ [last] ∧ first = before ++ item :: rest := by
  rcases List.eq_nil_or_concat after with empty | ⟨rest, final, ends⟩
  · rw [empty] at split
    obtain ⟨same, equal⟩ := List.append_inj' split rfl
    exact .inl ⟨empty, same, List.singleton_inj.mp equal⟩
  · rw [ends, List.concat_eq_append, ← List.cons_append, ← List.append_assoc] at split
    obtain ⟨same, equal⟩ := List.append_inj' split rfl
    rw [ends, List.concat_eq_append, List.singleton_inj.mp equal]
    exact .inr ⟨rest, rfl, same⟩

/-- A grant is outstanding if it was just made, or was before and is not touched. -/
theorem outstanding_snoc : Outstanding (trace ++ [event]) who key token ↔
    event = .acquire who key (some token) ∨
      Outstanding trace who key token ∧ event ≠ .release who key token ∧
        ∀ gone, event = .lapse gone → ¬ gone key := by
  constructor
  · rintro ⟨before, after, split, returned, lapsed⟩
    rcases split_snoc split with ⟨_, _, same⟩ | ⟨rest, ends, earlier⟩
    · exact .inl same
    · rw [ends] at returned lapsed
      refine .inr ⟨⟨before, rest, earlier, ?_, ?_⟩, ?_, ?_⟩
      · exact fun member => returned (List.mem_append_left _ member)
      · exact fun gone member => lapsed gone (List.mem_append_left _ member)
      · intro same
        exact returned (List.mem_append_right _ (List.mem_singleton.mpr same.symm))
      · intro gone same
        exact lapsed gone (List.mem_append_right _ (List.mem_singleton.mpr same.symm))
  · rintro (same | ⟨⟨before, after, split, returned, lapsed⟩, other, kept⟩)
    · refine ⟨trace, [], by rw [same], ?_, ?_⟩
      · exact List.not_mem_nil
      · exact fun gone absurd => (List.not_mem_nil absurd).elim
    · refine ⟨before, after ++ [event], ?_, ?_, ?_⟩
      · rw [split, List.append_assoc, List.cons_append]
      · intro member
        rcases List.mem_append.mp member with earlier | last
        · exact returned earlier
        · exact other (List.mem_singleton.mp last).symm
      · intro gone member
        rcases List.mem_append.mp member with earlier | last
        · exact lapsed gone earlier
        · exact kept gone (List.mem_singleton.mp last).symm

theorem Honest.of_snoc (honest : Honest (trace ++ [event])) : Honest trace := by
  intro before who key token after split
  refine honest before who key token (after ++ [event]) ?_
  rw [split, List.append_assoc, List.cons_append]

theorem Honest.granted (honest : Honest (trace ++ [.release who key token])) :
    .acquire who key (some token) ∈ trace := honest trace who key token [] rfl

theorem Honest.snoc (honest : Honest trace)
    (granted : ∀ who key token, event = .release who key token →
      .acquire who key (some token) ∈ trace) : Honest (trace ++ [event]) := by
  intro before who key token after split
  rcases split_snoc split with ⟨_, same, last⟩ | ⟨rest, _, earlier⟩
  · rw [← same]
    exact granted who key token last
  · exact honest before who key token rest earlier

theorem honest_nil : Honest ([] : List (Event ι κ τ)) := by
  intro before who key token after absurd
  cases before <;> cases absurd

theorem Outstanding.granted (outstanding : Outstanding trace who key token) :
    .acquire who key (some token) ∈ trace := by
  obtain ⟨before, after, split, _⟩ := outstanding
  rw [split]
  exact List.mem_append_right _ List.mem_cons_self

end Snoc

/-! ## One step -/

section Steps

variable [DecidableEq κ] {state next : State κ τ} {event : Event ι κ τ} {key : κ} {token : τ}

theorem Step.spent (step : Step state next event) : state.spent ⊆ next.spent := by
  cases step with
  | granted _ _ _ spent _ => exact spent
  | refused _ _ spent => exact spent
  | freed _ _ spent => exact spent
  | stale _ _ spent => exact spent
  | lapsed _ _ spent => exact spent

/-- A token a key holds was granted just now, or the key held it before and the event did
not touch it. -/
theorem Step.held (step : Step state next event) (holds : next.holder key = some token) :
    (∃ who, event = .acquire who key (some token)) ∨
      state.holder key = some token ∧ (∀ who, event ≠ .release who key token) ∧
        ∀ gone, event = .lapse gone → ¬ gone key := by
  cases step with
  | @granted who place fresh _ _ holder _ _ =>
      rw [holder] at holds
      by_cases same : key = place
      · subst same
        rw [Function.update_self] at holds
        cases holds
        exact .inl ⟨who, rfl⟩
      · rw [Function.update_of_ne same] at holds
        exact .inr ⟨holds, nofun, nofun⟩
  | refused _ holder _ =>
      rw [holder] at holds
      exact .inr ⟨holds, nofun, nofun⟩
  | @freed _ place returned _ holder _ =>
      rw [holder] at holds
      have other : key ≠ place := by
        rintro rfl
        rw [Function.update_self] at holds
        cases holds
      rw [Function.update_of_ne other] at holds
      refine .inr ⟨holds, fun who absurd => ?_, nofun⟩
      cases absurd
      exact other rfl
  | @stale _ place returned other holder _ =>
      rw [holder] at holds
      refine .inr ⟨holds, fun who absurd => ?_, nofun⟩
      cases absurd
      exact other holds
  | @lapsed gone lost kept _ =>
      have stays : ¬ gone key := by
        intro lapsed
        rw [lost key lapsed] at holds
        cases holds
      rw [kept key stays] at holds
      refine .inr ⟨holds, nofun, fun gone same => ?_⟩
      cases same
      exact stays

/-- A key keeps its token unless the token is returned or the key lapses. -/
theorem Step.keeps (step : Step state next event) (holds : state.holder key = some token)
    (returned : ∀ who, event ≠ .release who key token)
    (lapsed : ∀ gone, event = .lapse gone → ¬ gone key) : next.holder key = some token := by
  cases step with
  | @granted _ place _ free _ holder _ _ =>
      have other : key ≠ place := by
        rintro rfl
        rw [free] at holds
        cases holds
      rw [holder, Function.update_of_ne other, holds]
  | refused _ holder _ => rw [holder, holds]
  | @freed who place token' held holder _ =>
      have other : key ≠ place := by
        rintro rfl
        rw [holds] at held
        cases held
        exact returned who rfl
      rw [holder, Function.update_of_ne other, holds]
  | stale _ holder _ => rw [holder, holds]
  | @lapsed gone _ kept _ => rw [kept key (lapsed gone rfl), holds]

end Steps

/-! ## Ownership -/

section Ownership

variable [DecidableEq κ] {initial state : State κ τ} {trace : List (Event ι κ τ)}

theorem Run.spent (run : Run initial trace state) {who : ι} {key : κ} {token : τ}
    (granted : .acquire who key (some token) ∈ trace) : token ∈ state.spent := by
  induction run with
  | nil => exact (List.not_mem_nil granted).elim
  | snoc run step ih =>
      rcases List.mem_append.mp granted with earlier | last
      · exact step.spent (ih earlier)
      · rw [← List.mem_singleton.mp last] at step
        cases step with
        | granted _ _ _ _ drawn => exact drawn

/-- Nobody is granted a token that was granted before. -/
theorem Run.once (run : Run initial trace state) {who other : ι} {key elsewhere : κ} {token : τ}
    (first : .acquire who key (some token) ∈ trace)
    (second : .acquire other elsewhere (some token) ∈ trace) : other = who ∧ elsewhere = key := by
  induction run with
  | nil => exact (List.not_mem_nil first).elim
  | @snoc trace state next event run step ih =>
      have fresh : ∀ {someone : ι} {place : κ}, Event.acquire someone place (some token) ∈ trace →
          ∀ {who : ι} {key : κ}, .acquire who key (some token) ∈ [event] → False := by
        intro someone place earlier who key last
        rw [← List.mem_singleton.mp last] at step
        cases step with
        | granted _ fresh _ _ _ => exact fresh (run.spent earlier)
      rcases List.mem_append.mp first with earlier | last
      · rcases List.mem_append.mp second with before | now
        · exact ih earlier before
        · exact (fresh earlier now).elim
      · rcases List.mem_append.mp second with before | now
        · exact (fresh before last).elim
        · have same := (List.mem_singleton.mp now).trans (List.mem_singleton.mp last).symm
          cases same
          exact ⟨rfl, rfl⟩

/-- A key holds no token but that of an outstanding grant. -/
theorem Run.outstanding (run : Run initial trace state) (free : ∀ key, initial.holder key = none)
    {key : κ} {token : τ} (holds : state.holder key = some token) :
    ∃ who, Outstanding trace who key token := by
  induction run with
  | nil =>
      rw [free key] at holds
      cases holds
  | snoc run step ih =>
      rcases step.held holds with ⟨who, now⟩ | ⟨held, returned, lapsed⟩
      · exact ⟨who, outstanding_snoc.mpr (.inl now)⟩
      · obtain ⟨who, earlier⟩ := ih held
        exact ⟨who, outstanding_snoc.mpr (.inr ⟨earlier, returned who, lapsed⟩)⟩

/-- The key holds the token of every outstanding grant. -/
theorem Run.holds (run : Run initial trace state) (honest : Honest trace) {who : ι} {key : κ}
    {token : τ} (outstanding : Outstanding trace who key token) :
    state.holder key = some token := by
  induction run with
  | nil => exact (List.not_mem_nil outstanding.granted).elim
  | snoc run step ih =>
      rcases outstanding_snoc.mp outstanding with now | ⟨earlier, returned, lapsed⟩
      · rw [now] at step
        cases step with
        | granted _ _ holder _ _ => rw [holder, Function.update_self]
      · refine step.keeps (ih honest.of_snoc earlier) (fun other same => ?_) lapsed
        -- Whoever returns the token was granted it, and it was granted once.
        rw [same] at honest returned
        obtain ⟨own, _⟩ := run.once earlier.granted honest.granted
        rw [own] at returned
        exact returned rfl

end Ownership

end Leases
