import Mathlib.Control.Basic

/-! # Programs as trees of external calls

A program issues external operations one at a time and continues with the
reply. Failure is part of the reply, so every point at which an operation may
fail is a branch of the tree. The same tree is run from beginning to end by the
sequential semantics and one call at a time by the interleaved one.
-/

namespace EffectSystem

/-- A program over operations `Op`, with replies `Res` and errors `ε`. -/
inductive Program (ε : Type) {Op : Type} (Res : Op → Type) (α : Type) : Type where
  | ret (value : α)
  | fail (error : ε)
  | call (op : Op) (next : Except ε (Res op) → Program ε Res α)

namespace Program

variable {ε Op : Type} {Res : Op → Type} {α β γ : Type}

/-- Sequential composition: the second program is grafted on every returning leaf. -/
def bind : Program ε Res α → (α → Program ε Res β) → Program ε Res β
  | .ret value, f => f value
  | .fail error, _ => .fail error
  | .call op next, f => .call op fun reply => bind (next reply) f

instance : Monad (Program ε Res) where
  pure := .ret
  bind := bind

/-- One operation, whose failure is raised. -/
def perform (op : Op) : Program ε Res (Res op) :=
  .call op fun
    | .ok value => .ret value
    | .error error => .fail error

/-- Run a program and return its failure as a value. -/
def attempt : Program ε Res α → Program ε Res (Except ε α)
  | .ret value => .ret (.ok value)
  | .fail error => .ret (.error error)
  | .call op next => .call op fun reply => attempt (next reply)

/-- Raise a recorded failure again. -/
def ofExcept : Except ε α → Program ε Res α
  | .ok value => .ret value
  | .error error => .fail error

/-- `try { body } catch { handler }`. -/
def tryCatch (body : Program ε Res α) (handler : ε → Program ε Res α) : Program ε Res α :=
  bind (attempt body) fun
    | .ok value => .ret value
    | .error error => handler error

/-- `try { body } finally { cleanup }`. -/
def tryFinally (body : Program ε Res α) (cleanup : Program ε Res Unit) : Program ε Res α :=
  bind (attempt body) fun outcome => bind cleanup fun _ => ofExcept outcome

/-- `body.catch(() => {})`: failures of the body are swallowed. -/
def swallow (body : Program ε Res α) : Program ε Res Unit :=
  bind (attempt body) fun _ => .ret ()

/-- `pure` ends the program with a value. -/
@[simp] theorem pure_eq (value : α) : (pure value : Program ε Res α) = .ret value := rfl

/-- `>>=` is the sequencing of programs. -/
@[simp] theorem bind_eq (body : Program ε Res α) (f : α → Program ε Res β) :
    (body >>= f) = bind body f := rfl

/-- After a value the rest goes on with it. -/
@[simp] theorem ret_bind (value : α) (f : α → Program ε Res β) : bind (.ret value) f = f value :=
  rfl

/-- After a failure nothing goes on. -/
@[simp] theorem fail_bind (error : ε) (f : α → Program ε Res β) :
    bind (.fail error) f = .fail error := rfl

/-- A call is followed by the rest whatever it returns. -/
@[simp] theorem call_bind (op : Op) (next : Except ε (Res op) → Program ε Res α)
    (f : α → Program ε Res β) :
    bind (.call op next) f = .call op fun reply => bind (next reply) f := rfl

/-- Returning what was returned changes nothing. -/
@[simp] theorem bind_ret (body : Program ε Res α) : bind body .ret = body := by
  induction body with
  | ret value => rfl
  | fail error => rfl
  | call op next ih =>
      rw [call_bind]
      congr
      funext reply
      exact ih reply

/-- Sequencing associates. -/
theorem bind_assoc (body : Program ε Res α) (f : α → Program ε Res β)
    (g : β → Program ε Res γ) :
    bind (bind body f) g = bind body fun value => bind (f value) g := by
  induction body with
  | ret value => rfl
  | fail error => rfl
  | call op next ih =>
      rw [call_bind, call_bind, call_bind]
      congr
      funext reply
      exact ih reply

instance : LawfulMonad (Program ε Res) :=
  LawfulMonad.mk' _
    (fun body => bind_ret body)
    (fun _ _ => rfl)
    (fun body f g => bind_assoc body f g)

/-! ## Operations a program may issue -/

/-- Every operation the program can issue, whatever the replies, satisfies `allowed`. -/
def OnlyCalls (allowed : Op → Prop) : Program ε Res α → Prop
  | .ret _ => True
  | .fail _ => True
  | .call op next => allowed op ∧ ∀ reply, OnlyCalls allowed (next reply)

variable {allowed : Op → Prop}

/-- A value calls nothing. -/
@[simp] theorem onlyCalls_ret (value : α) :
    OnlyCalls allowed (.ret value : Program ε Res α) := trivial

/-- A failure calls nothing. -/
@[simp] theorem onlyCalls_fail (error : ε) :
    OnlyCalls allowed (.fail error : Program ε Res α) := trivial

/-- One permitted call. -/
theorem onlyCalls_perform {op : Op} (permitted : allowed op) :
    OnlyCalls allowed (perform op : Program ε Res (Res op)) := by
  refine ⟨permitted, fun reply => ?_⟩
  cases reply <;> trivial

/-- A wider permission. -/
theorem OnlyCalls.mono {wider : Op → Prop} {body : Program ε Res α} (only : OnlyCalls allowed body)
    (included : ∀ op, allowed op → wider op) : OnlyCalls wider body := by
  induction body with
  | ret value => trivial
  | fail error => trivial
  | call op next ih => exact ⟨included op only.1, fun reply => ih reply (only.2 reply)⟩

/-- A program followed by programs that keep the permission. -/
theorem OnlyCalls.bind {body : Program ε Res α} {f : α → Program ε Res β}
    (first : OnlyCalls allowed body) (rest : ∀ value, OnlyCalls allowed (f value)) :
    OnlyCalls allowed (bind body f) := by
  induction body with
  | ret value => exact rest value
  | fail error => trivial
  | call op next ih => exact ⟨first.1, fun reply => ih reply (first.2 reply)⟩

/-- Asking for the outcome calls what the program calls. -/
theorem OnlyCalls.attempt {body : Program ε Res α} (only : OnlyCalls allowed body) :
    OnlyCalls allowed (attempt body) := by
  induction body with
  | ret value => trivial
  | fail error => trivial
  | call op next ih => exact ⟨only.1, fun reply => ih reply (only.2 reply)⟩

/-- An outcome that is given calls nothing. -/
theorem onlyCalls_ofExcept (outcome : Except ε α) :
    OnlyCalls allowed (ofExcept outcome : Program ε Res α) := by
  cases outcome <;> trivial

/-- A program with a handler that keeps the permission. -/
theorem OnlyCalls.tryCatch {body : Program ε Res α} {handler : ε → Program ε Res α}
    (only : OnlyCalls allowed body) (caught : ∀ error, OnlyCalls allowed (handler error)) :
    OnlyCalls allowed (tryCatch body handler) := by
  refine OnlyCalls.bind only.attempt fun outcome => ?_
  cases outcome with
  | ok value => trivial
  | error error => exact caught error

/-- A program with a cleanup that keeps the permission. -/
theorem OnlyCalls.tryFinally {body : Program ε Res α} {cleanup : Program ε Res Unit}
    (only : OnlyCalls allowed body) (closing : OnlyCalls allowed cleanup) :
    OnlyCalls allowed (tryFinally body cleanup) :=
  OnlyCalls.bind only.attempt fun outcome => closing.bind fun _ => onlyCalls_ofExcept outcome

/-- A program whose failure is ignored. -/
theorem OnlyCalls.swallow {body : Program ε Res α} (only : OnlyCalls allowed body) :
    OnlyCalls allowed (swallow body) :=
  OnlyCalls.bind only.attempt fun _ => trivial

end Program
end EffectSystem
