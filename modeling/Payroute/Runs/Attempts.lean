import Payroute.Runs.Holding
import Payroute.Runs.References

/-! # The stages of an attempt

An attempt of a provider job reads the row of its payment, calls the provider where the
payment still has to be submitted, and stores the reference it is given. It opens no
transaction, so nothing holds the row between these calls.
-/

namespace Payroute

open EffectSystem KeyedTable Program

/-- Once a reference is returned, the program stores it first. -/
def Stores (id : TransactionId) (reference : ProviderReference) : Service Unit → Prop
  | .call op next => op = .sql (.updateTransaction id { providerReference := some reference }) ∧
      ∀ reply, Unattached (next reply)
  | _ => False

/-- The program waits, calls the provider and stores what it is given. -/
def Forwards (id : TransactionId) : Service Unit → Prop
  | .call (.scheduleCallback _ _) next => ∀ reference, Stores id reference (next (.ok reference))
  | .call (.sleep _) next =>
      (∀ error, Unattached (next (.error error))) ∧ Forwards id (next (.ok ()))
  | _ => False

/-- The program reads the row of the payment, and goes on to submit it only where the
payment it finds still has to be submitted. -/
def Checks (id : TransactionId) : Service Unit → Prop
  | .call (.sql (.select (.transaction wanted))) next => wanted = id ∧
      (∀ error, Unattached (next (.error error))) ∧
      ∀ found, Unattached (next (.ok found)) ∨
        Forwards id (next (.ok found)) ∧ ∃ txn ∈ found, ProviderProcessor.eligible txn
  | _ => False

/-- Where an attempt may stand that has not stored a reference yet. -/
def Attempting (id : TransactionId) (body : Service Unit) : Prop :=
  Checks id body ∨ Forwards id body ∨ ∃ reference, Stores id reference body

/-- Where a process may stand: it never calls the provider nor stores a reference, or it is
at work on an attempt, outside of transactions. -/
def Stage (id : TransactionId) (world : World) (who : ProcessId) (body : Service Unit) : Prop :=
  Unattached body ∨ world.sessions who = none ∧ Attempting id body

/-- The process is about to read the row of the payment. -/
def Reading (id : TransactionId) (pool : Pool ProcessId Failure Operation.Reply World)
    (who : ProcessId) : Prop :=
  ∃ next, pool.running who = some (.call (.sql (.select (.transaction id))) next)

/-- The process is about to call the provider. -/
def CallsProvider (pool : Pool ProcessId Failure Operation.Reply World) (who : ProcessId) : Prop :=
  ∃ amount currency next, pool.running who = some (.call (.scheduleCallback amount currency) next)

/-- Whether the next call of a program, if there is one, is the provider's. -/
def reachesProvider : Option (Service Unit) → Bool
  | some (.call (.scheduleCallback _ _) _) => true
  | _ => false

instance (pool : Pool ProcessId Failure Operation.Reply World) (who : ProcessId) :
    Decidable (CallsProvider pool who) :=
  decidable_of_iff (reachesProvider (pool.running who) = true) (by
    constructor
    · intro reaches
      unfold reachesProvider at reaches
      split at reaches
      · next amount currency next current => exact ⟨amount, currency, next, current⟩
      · cases reaches
    · rintro ⟨amount, currency, next, current⟩
      rw [current]
      rfl)

/-- The process is about to store a reference of the payment. -/
def Holding (id : TransactionId) (pool : Pool ProcessId Failure Operation.Reply World)
    (who : ProcessId) (reference : ProviderReference) : Prop :=
  ∃ next, pool.running who =
    some (.call (.sql (.updateTransaction id { providerReference := some reference })) next)

section Stages

variable {id : TransactionId} {who : ProcessId} {world : World} {reference : ProviderReference}
  {body : Service Unit}

/-- An attempt checks the payment's row first. -/
theorem checks_process {data : ProviderJobData} (own : data.transactionId = id) :
    Checks id (ProviderProcessor.process data) := by
  subst own
  refine ⟨rfl, fun error => trivial, fun found => ?_⟩
  cases found with
  | none => exact .inl trivial
  | some txn =>
      change Unattached (if ProviderProcessor.eligible txn then ProviderProcessor.submit data
        else .ret ()) ∨ Forwards _ (if ProviderProcessor.eligible txn then
          ProviderProcessor.submit data else .ret ()) ∧ _
      by_cases eligible : ProviderProcessor.eligible txn
      · rw [if_pos eligible]
        refine .inr ⟨⟨fun error => trivial, fun reference => ⟨rfl, fun reply => ?_⟩⟩, txn, rfl,
          eligible⟩
        cases reply with
        | error error => trivial
        | ok _ => exact unattached_call trivial
      · rw [if_neg eligible]
        exact .inl trivial

/-- A program that forwards a payment calls the provider. -/
theorem Forwards.attached (forwards : Forwards id body) : ¬ Unattached body := by
  induction body with
  | ret _ => exact forwards.elim
  | fail _ => exact forwards.elim
  | call op next ih =>
      intro unattached
      cases op with
      | scheduleCallback _ _ => exact unattached.1
      | sleep ms => exact ih _ forwards.2 (unattached.2 _)
      | _ => exact forwards.elim

/-- A program that still has to read the row is not about to submit the payment. -/
theorem Checks.not_forwards (checks : Checks id body) : ¬ Forwards id body := by
  intro forwards
  cases body with
  | ret _ => exact checks
  | fail _ => exact checks
  | call op next =>
      cases op with
      | sql statement => exact forwards
      | _ => exact checks

/-- A program that forwards a payment has read its row before. -/
theorem Forwards.not_reading {pool : Pool ProcessId Failure Operation.Reply World}
    (forwards : Forwards id body) (current : pool.running who = some body) :
    ¬ Reading id pool who := by
  rintro ⟨next, reading⟩
  cases current.symm.trans reading
  exact forwards

/-- A program that has no reference yet is not about to store one. -/
theorem not_storing (early : Unattached body ∨ Checks id body ∨ Forwards id body)
    {next : Except Failure (Operation.Reply (.sql (.updateTransaction id
      { providerReference := some reference }))) → Service Unit} :
    body ≠ .call (.sql (.updateTransaction id { providerReference := some reference })) next := by
  rintro rfl
  rcases early with unattached | checks | forwards
  · cases (unattached.1 : some reference = none)
  · exact checks
  · exact forwards

/-- The read of a check, which happens outside of transactions. -/
theorem Checks.exec {op : Operation} {next : Except Failure op.Reply → Service Unit}
    (checks : Checks id (.call op next)) (closed : world.sessions who = none)
    (delivery : Delivery) :
    op = .sql (.select (.transaction id)) ∧
      (Unattached (next (World.exec who delivery op world).1) ∨
        Forwards id (next (World.exec who delivery op world).1) ∧
          ∃ txn, world.db.transactions.get? id = some txn ∧ ProviderProcessor.eligible txn) := by
  cases op with
  | sql statement =>
      cases statement with
      | select query =>
          cases query with
          | transaction wanted =>
              obtain ⟨rfl, failed, found⟩ := checks
              refine ⟨rfl, ?_⟩
              cases delivery with
              | lost => exact .inl (failed _)
              | unacknowledged => exact .inl (failed _)
              | delivered =>
                  have answered : (World.exec who .delivered
                      (.sql (.select (.transaction wanted))) world).1 =
                        .ok (world.db.transactions.get? wanted) := by
                    rw [← World.view_closed closed]
                    rfl
                  rw [answered]
                  exact found _
          | _ => exact checks.elim
      | _ => exact checks.elim
  | _ => exact checks.elim

/-- What a program that forwards a payment does next. -/
theorem Forwards.exec {op : Operation} {next : Except Failure op.Reply → Service Unit}
    (forwards : Forwards id (.call op next)) (delivery : Delivery) :
    (∃ amount currency, op = .scheduleCallback amount currency ∧
        Stores id (world.next .reference) (next (World.exec who delivery op world).1)) ∨
      (∃ ms, op = .sleep ms) ∧ Forwards id (next (World.exec who delivery op world).1) := by
  cases op with
  | scheduleCallback amount currency => exact .inl ⟨amount, currency, rfl, forwards _⟩
  | sleep ms => exact .inr ⟨⟨ms, rfl⟩, forwards.2⟩
  | _ => exact forwards.elim

/-- The stage depends on the session of the process only. -/
theorem Stage.congr {later : World} (stage : Stage id world who body)
    (same : later.sessions who = world.sessions who) : Stage id later who body :=
  stage.imp_right fun ⟨closed, attempting⟩ => ⟨same.trans closed, attempting⟩

/-- Who calls the provider forwards the payment. -/
theorem Stage.forwards {amount : Text} {currency : String}
    {next : Except Failure ProviderReference → Service Unit}
    (stage : Stage id world who (.call (.scheduleCallback amount currency) next)) :
    Forwards id (.call (.scheduleCallback amount currency) next) := by
  rcases stage with unattached | ⟨_, checks | forwards | ⟨_, absurd, _⟩⟩
  · exact unattached.1.elim
  · exact checks.elim
  · exact forwards
  · cases absurd

/-- Where a call leads a process. -/
theorem Stage.exec {op : Operation} {next : Except Failure op.Reply → Service Unit}
    (stage : Stage id world who (.call op next)) (delivery : Delivery) :
    Stage id (World.exec who delivery op world).2 who
      (next (World.exec who delivery op world).1) := by
  rcases stage with unattached | ⟨closed, attempting⟩
  · exact .inl (unattached.2 _)
  have stays : Locking.Single op →
      (World.exec who delivery op world).2.sessions who = none := by
    intro single
    rcases World.exec_state who delivery op world with same | ran
    · rw [same]
      exact closed
    · rw [ran]
      exact Locking.single_closed single closed
  rcases attempting with checks | forwards | ⟨reference, rfl, unattached⟩
  · obtain ⟨rfl, goes⟩ := checks.exec closed delivery
    exact goes.imp_right fun ⟨forwards, _⟩ => ⟨stays trivial, .inr (.inl forwards)⟩
  · rcases forwards.exec delivery with ⟨amount, currency, rfl, stores⟩ | ⟨⟨ms, rfl⟩, goes⟩
    · exact .inr ⟨stays trivial, .inr (.inr ⟨_, stores⟩)⟩
    · exact .inr ⟨stays trivial, .inr (.inl goes)⟩
  · exact .inl (unattached _)

end Stages

end Payroute
