import Payroute.Effects.Program

/-! # Two runs that differ in some entries

A system plays a schedule twice, once in full and once with only the entries that are kept.
Where a kept entry carries related states to related states, and any other leaves the full
run related to the short one, the runs stay related: this is unwinding. The programs in the
two runs go in step as long as their calls correspond and get the same replies.
-/

namespace EffectSystem

/-! ## Schedules -/

section Schedules

variable {σ ε : Type} (play : σ → ε → σ) (kept : ε → Bool)

/-- The condition holds of the states the short and the full run are in before each entry. -/
def Along (clear : σ → σ → ε → Prop) : List ε → σ → σ → Prop
  | [], _, _ => True
  | entry :: rest, short, full => clear short full entry ∧
      Along clear rest (if kept entry then play short entry else short) (play full entry)

instance Along.decidable (clear : σ → σ → ε → Prop)
    [∀ short full entry, Decidable (clear short full entry)] :
    (schedule : List ε) → (short full : σ) → Decidable (Along play kept clear schedule short full)
  | [], _, _ => .isTrue trivial
  | entry :: rest, short, full =>
      have := Along.decidable clear rest (if kept entry then play short entry else short)
        (play full entry)
      inferInstanceAs (Decidable (clear short full entry ∧ _))

variable {play kept} {clear : σ → σ → ε → Prop} {schedule : List ε} {short full : σ}

namespace Along

/-- Two conditions at once. -/
theorem and {also : σ → σ → ε → Prop} (first : Along play kept clear schedule short full)
    (second : Along play kept also schedule short full) :
    Along play kept (fun short full entry => clear short full entry ∧ also short full entry)
      schedule short full := by
  induction schedule generalizing short full with
  | nil => trivial
  | cons entry rest ih => exact ⟨⟨first.1, second.1⟩, ih first.2 second.2⟩

/-- A condition on the entries alone. -/
theorem of_forall {each : ε → Prop} (holds : ∀ entry ∈ schedule, each entry) :
    Along play kept (fun _ _ entry => each entry) schedule short full := by
  induction schedule generalizing short full with
  | nil => trivial
  | cons entry rest ih =>
      exact ⟨holds entry List.mem_cons_self, ih fun later member =>
        holds later (List.mem_cons_of_mem _ member)⟩

/-- A schedule may be cut off. -/
theorem of_prefix {earlier : List ε} (cut : earlier <+: schedule)
    (along : Along play kept clear schedule short full) :
    Along play kept clear earlier short full := by
  induction earlier generalizing schedule short full with
  | nil => trivial
  | cons entry rest ih =>
      obtain ⟨later, rfl⟩ := cut
      exact ⟨along.1, ih ⟨later, rfl⟩ along.2⟩

/-- Unwinding: the two runs stay related. -/
theorem unwind (related : σ → σ → Prop)
    (common : ∀ short full entry, related short full → clear short full entry →
      kept entry = true → related (play short entry) (play full entry))
    (extra : ∀ short full entry, related short full → clear short full entry →
      kept entry = false → related short (play full entry))
    (along : Along play kept clear schedule short full) (start : related short full) :
    related ((schedule.filter kept).foldl play short) (schedule.foldl play full) := by
  induction schedule generalizing short full with
  | nil => exact start
  | cons entry rest ih =>
      obtain ⟨now, later⟩ := along
      cases keeps : kept entry with
      | true =>
          rw [keeps, if_pos rfl] at later
          rw [List.filter_cons_of_pos keeps, List.foldl_cons, List.foldl_cons]
          exact ih later (common short full entry start now keeps)
      | false =>
          rw [keeps, if_neg Bool.false_ne_true] at later
          rw [List.filter_cons_of_neg (by rw [keeps]; exact Bool.false_ne_true), List.foldl_cons]
          exact ih later (extra short full entry start now keeps)

end Along
end Schedules

/-! ## Programs -/

namespace Program

variable {ε Op : Type} {Res : Op → Type} {α β : Type}

/-- The programs end alike, or their next calls are twins and the programs go on in step
after the same reply. -/
inductive Alike (twin : Op → Op → Prop) : Program ε Res α → Program ε Res α → Prop
  | ret (value : α) : Alike twin (.ret value) (.ret value)
  | fail (error : ε) : Alike twin (.fail error) (.fail error)
  | call {op image : Op} {next : Except ε (Res op) → Program ε Res α}
      {other : Except ε (Res image) → Program ε Res α} (twins : twin op image)
      (rest : ∀ reply answer, HEq reply answer → Alike twin (next reply) (other answer)) :
      Alike twin (.call op next) (.call image other)

variable {twin : Op → Op → Prop} {body image : Program ε Res α}

namespace Alike

/-- More calls may be twins. -/
theorem mono {wider : Op → Op → Prop} (alike : Alike twin body image)
    (included : ∀ op other, twin op other → wider op other) : Alike wider body image := by
  induction alike with
  | ret value => exact .ret value
  | fail error => exact .fail error
  | call twins _ ih => exact .call (included _ _ twins) ih

/-- A program whose calls are their own twins is in step with itself. -/
theorem of_onlyCalls {allowed : Op → Prop} (own : ∀ op, allowed op → twin op op)
    (only : body.OnlyCalls allowed) : Alike twin body body := by
  induction body with
  | ret value => exact .ret value
  | fail error => exact .fail error
  | call op next ih =>
      refine .call (own op only.1) fun reply answer same => ?_
      cases same
      exact ih reply (only.2 reply)

theorem bind {f g : α → Program ε Res β} (first : Alike twin body image)
    (rest : ∀ value, Alike twin (f value) (g value)) :
    Alike twin (Program.bind body f) (Program.bind image g) := by
  induction first with
  | ret value => exact rest value
  | fail error => exact .fail error
  | call twins _ ih => exact .call twins ih

theorem attempt (alike : Alike twin body image) :
    Alike twin (Program.attempt body) (Program.attempt image) := by
  induction alike with
  | ret value => exact .ret _
  | fail error => exact .ret _
  | call twins _ ih => exact .call twins ih

theorem tryCatch {handler other : ε → Program ε Res α} (alike : Alike twin body image)
    (caught : ∀ error, Alike twin (handler error) (other error)) :
    Alike twin (Program.tryCatch body handler) (Program.tryCatch image other) := by
  refine .bind alike.attempt fun outcome => ?_
  cases outcome with
  | ok value => exact .ret value
  | error error => exact caught error

theorem swallow (alike : Alike twin body image) :
    Alike twin (Program.swallow body) (Program.swallow image) :=
  .bind alike.attempt fun _ => .ret ()

end Alike
end Program
end EffectSystem
