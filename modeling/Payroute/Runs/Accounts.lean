import Payroute.Books.Balances
import Payroute.Commits.Counting
import Payroute.Runs.Serial

/-! # The accounts in serial runs

Balances stay within their column, and every payment is between accounts that exist,
for an amount that is not negative.
-/

namespace Payroute

open EffectSystem KeyedTable

/-- The constraints on the balance column hold. -/
def Database.Constrained (db : Database) : Prop :=
  ∀ row ∈ db.accounts.rows, 0 ≤ row.balance ∧ Fits row.balance

instance (db : Database) : Decidable db.Constrained :=
  inferInstanceAs (Decidable (∀ row ∈ db.accounts.rows, _))

/-- Payments are between existing accounts and pay out no negative amount. -/
def Database.Anchored (db : Database) : Prop :=
  ∀ row ∈ db.transactions.rows, 0 ≤ row.destinationAmount ∧
    db.accounts.get? row.senderAccountId ≠ none ∧ db.accounts.get? row.recipientAccountId ≠ none

variable {deployment : Deployment} {setting : Setting} {first second : Database}

theorem Database.Constrained.solvent (constrained : first.Constrained)
    (solvent : first.Solvent second) : second.Constrained := by
  intro row member
  rcases solvent row member with old | new
  · exact constrained row old
  · exact new

theorem Database.anchored_of_empty {db : Database} (empty : db.transactions.rows = []) :
    db.Anchored := by
  intro row member
  rw [empty] at member
  cases member

theorem Database.Anchored.sameBooks (anchored : first.Anchored) (same : first.SameBooks second) :
    second.Anchored := by
  unfold Database.Anchored
  rw [same.transactions, same.accounts]
  exact anchored

/-- Commits neither remove accounts nor move payments to others. -/
theorem Command.Commits.anchored {command : Command}
    (commits : command.Commits setting deployment first second) (anchored : first.Anchored) :
    second.Anchored := by
  have kept : ∀ id, first.accounts.get? id ≠ none → second.accounts.get? id ≠ none := by
    intro id known
    obtain ⟨changes, _, rfl⟩ := commits.posts
    obtain ⟨account, found⟩ := Option.ne_none_iff_exists'.mp known
    obtain ⟨later, there, _⟩ := changes.versions found
    rw [there]
    exact Option.some_ne_none _
  intro row member
  rcases commits.carries with carries | ⟨dto, opened, creates, checked⟩
  · obtain ⟨old, before, carried⟩ := carries row.id row (Table.get?_of_mem member)
    obtain ⟨sender, recipient, _, destination⟩ := Transaction.of_terms carried.terms
    rw [← sender, ← recipient, ← destination]
    obtain ⟨nonneg, payer, payee⟩ := anchored old (Table.mem_of_get? before)
    exact ⟨nonneg, kept _ payer, kept _ payee⟩
  · rcases creates.within member with rfl | old
    · obtain ⟨_, _, _, _, _, _, _, _, sender, recipient, _, _, _, nonneg, _, _, payer, _⟩ := creates
      obtain ⟨_, _, _, _, _, _, _, payee, _⟩ := checked
      obtain ⟨paying, found, _⟩ := payer
      obtain ⟨paid, there, _⟩ := payee
      refine ⟨nonneg, kept _ ?_, kept _ ?_⟩
      · change first.accounts.get? opened.senderAccountId ≠ none
        rw [sender, found]
        exact Option.some_ne_none _
      · change first.accounts.get? opened.recipientAccountId ≠ none
        rw [recipient, there]
        exact Option.some_ne_none _
    · obtain ⟨nonneg, payer, payee⟩ := anchored row old
      exact ⟨nonneg, kept _ payer, kept _ payee⟩

/-- The run of one operation keeps balances within their column. -/
theorem Command.run_constrained (deployment : Deployment) {world : World} (rest : world.AtRest)
    (who : ProcessId) (command : Command) (choices : List Delivery)
    (constrained : world.db.Constrained) :
    (backend.run who (command.program deployment) choices world).state.db.Constrained := by
  have outside : (serial world).Outside _ who _ (command.program deployment) world :=
    Command.outside deployment command rfl (Nat.le_refl _) fun _ _ commits => commits
  obtain ⟨_, _, path⟩ := outside.alone (fun _ _ => serial_issues) rest choices
  generalize (backend.run who (command.program deployment) choices world).state = last at path
  induction path with
  | refl => exact constrained
  | tail _ step ih => exact ih.solvent step.solvent

/-- Balances stay within their column, and payments between existing accounts. -/
theorem SerialRun.accounts {admits : World → Command → Prop} {initial last : World}
    (rest : initial.AtRest) (constrained : initial.db.Constrained)
    (anchored : initial.db.Anchored) (run : SerialRun deployment admits initial last) :
    last.db.Constrained ∧ last.db.Anchored := by
  constructor
  · have held : last.AtRest ∧ last.db.Constrained := by
      induction run with
      | refl => exact ⟨rest, constrained⟩
      | tail _ step ih =>
          obtain ⟨rested, held⟩ := ih
          cases step with
          | command who command choices admitted =>
              exact ⟨(Command.run_alone deployment rested who command choices).1,
                Command.run_constrained deployment rested who command choices held⟩
          | elapse passed =>
              have aside := World.Elapses.aside passed
              refine ⟨rested.aside aside, ?_⟩
              rw [aside.db]
              exact held
    exact held.2
  · exact (SerialRun.keeps Database.Anchored
      (fun _ _ beside held => held.sameBooks beside.books)
      (fun _ _ _ _ _ _ commits held => commits.anchored held) rest anchored run).2

end Payroute
