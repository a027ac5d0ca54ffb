import Mathlib.Logic.Relation

/-! # Waiting for resources

A process that asks for a resource waits for whoever holds it. Where the resources are
taken in an order, a circle of waiting processes is a circle in that order, so an order
without circles rules out a deadlock.
-/

namespace EffectSystem

section Waiting

variable {ι ρ : Type}

/-- The process asks for a resource that the other one holds. -/
def WaitsFor (asks holds : ι → ρ → Prop) (waiter holder : ι) : Prop :=
  ∃ resource, asks waiter resource ∧ holds holder resource ∧ holder ≠ waiter

variable {asks holds : ι → ρ → Prop} {leads : ρ → ρ → Prop}

/-- What a process holds leads to what it has to wait for. -/
def TakenInOrder (asks holds : ι → ρ → Prop) (leads : ρ → ρ → Prop) : Prop :=
  ∀ who held wanted, holds who held → asks who wanted →
    (∃ other, holds other wanted ∧ other ≠ who) → leads held wanted

namespace WaitsFor

/-- Along a chain of waiting processes, what the first one waits for leads to what the
last one holds. -/
theorem chain (taken : TakenInOrder asks holds leads) {first last : ι}
    (waits : Relation.TransGen (WaitsFor asks holds) first last) :
    ∃ wanted held, asks first wanted ∧ (∃ other, holds other wanted ∧ other ≠ first) ∧
      holds last held ∧ Relation.ReflTransGen leads wanted held := by
  induction waits with
  | single step =>
      obtain ⟨resource, asked, held, other⟩ := step
      exact ⟨resource, resource, asked, ⟨_, held, other⟩, held, .refl⟩
  | tail _ step ih =>
      obtain ⟨wanted, held, asked, blocked, holding, path⟩ := ih
      obtain ⟨resource, needed, kept, other⟩ := step
      have onward := taken _ held resource holding needed ⟨_, kept, other⟩
      exact ⟨wanted, resource, asked, blocked, kept, path.tail onward⟩

/-- A circle of waiting processes is a circle of resources. -/
theorem circle (taken : TakenInOrder asks holds leads) {who : ι}
    (waits : Relation.TransGen (WaitsFor asks holds) who who) :
    ∃ resource, Relation.TransGen leads resource resource := by
  obtain ⟨wanted, held, asked, blocked, holding, path⟩ := chain taken waits
  exact ⟨held, .head' (taken who held wanted holding asked blocked) path⟩

/-- Where the resources lead in no circle, the processes wait in none. -/
theorem no_circle (taken : TakenInOrder asks holds leads)
    (ordered : ∀ resource, ¬ Relation.TransGen leads resource resource) (who : ι) :
    ¬ Relation.TransGen (WaitsFor asks holds) who who := by
  intro waits
  obtain ⟨resource, circular⟩ := circle taken waits
  exact ordered resource circular

end WaitsFor
end Waiting
end EffectSystem
