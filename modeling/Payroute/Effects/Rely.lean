import Payroute.Effects.Machine

/-! # Rely and guarantee for programs

A program is safe when each of its calls, issued in any state its surroundings
may have produced since its previous call, keeps the shared invariant and stays
within its guarantee. Safety composes along `bind`, so it is proved operation by
operation, and it is used twice: for a program run alone, whose surroundings do
nothing, and for a pool, in which every guarantee lies within the others' rely.
-/

namespace EffectSystem

variable {ι χ ε Op σ : Type} {Res : Op → Type} {α β : Type}

/-- What a process may assume of the others and what it promises them. -/
structure Contract (ι σ : Type) where
  inv : σ → Prop
  rely : ι → σ → σ → Prop
  guarantee : ι → σ → σ → Prop

/-- The rely of a contract is a preorder for each process. -/
structure Contract.Regular (contract : Contract ι σ) : Prop where
  refl : ∀ who state, contract.rely who state state
  trans : ∀ who first second third, contract.rely who first second →
    contract.rely who second third → contract.rely who first third

/-- All calls of the program keep the invariant and the guarantee, whatever the
others do in between, and the program can only end in `post`. -/
def Safe (M : Machine ι χ ε Res σ) (contract : Contract ι σ) (who : ι)
    (post : Except ε α → σ → Prop) : Program ε Res α → σ → Prop
  | .ret value, state => ∀ later, contract.rely who state later → contract.inv later →
      post (.ok value) later
  | .fail error, state => ∀ later, contract.rely who state later → contract.inv later →
      post (.error error) later
  | .call op next, state => ∀ later, contract.rely who state later → contract.inv later →
      ∀ choice, M.ready who choice op later →
        contract.inv (M.exec who choice op later).2 ∧
        contract.guarantee who later (M.exec who choice op later).2 ∧
        Safe M contract who post (next (M.exec who choice op later).1)
          (M.exec who choice op later).2

namespace Safe

variable {M : Machine ι χ ε Res σ} {contract : Contract ι σ} {who : ι}

/-- Safety survives the steps of the others. -/
theorem of_rely (regular : contract.Regular) {post : Except ε α → σ → Prop}
    {body : Program ε Res α} {state later : σ} (safe : Safe M contract who post body state)
    (moved : contract.rely who state later) : Safe M contract who post body later := by
  cases body with
  | ret value => exact fun last step => safe last (regular.trans _ _ _ _ moved step)
  | fail error => exact fun last step => safe last (regular.trans _ _ _ _ moved step)
  | call op next => exact fun last step => safe last (regular.trans _ _ _ _ moved step)

/-- A weaker postcondition. -/
theorem mono {post weaker : Except ε α → σ → Prop} {body : Program ε Res α} {state : σ}
    (safe : Safe M contract who post body state)
    (implies : ∀ outcome last, contract.inv last → post outcome last → weaker outcome last) :
    Safe M contract who weaker body state := by
  induction body generalizing state with
  | ret value => exact fun later step valid => implies _ _ valid (safe later step valid)
  | fail error => exact fun later step valid => implies _ _ valid (safe later step valid)
  | call op next ih =>
      intro later step valid choice ready
      obtain ⟨kept, granted, rest⟩ := safe later step valid choice ready
      exact ⟨kept, granted, ih _ rest⟩

/-- Sequential composition: the first program's returning states must make the
second one safe, and its failures are final. -/
theorem bind (regular : contract.Regular) {middle : Except ε α → σ → Prop}
    {post : Except ε β → σ → Prop} {body : Program ε Res α} {f : α → Program ε Res β} {state : σ}
    (valid : contract.inv state) (first : Safe M contract who middle body state)
    (rest : ∀ value later, contract.inv later → middle (.ok value) later →
      Safe M contract who post (f value) later)
    (failed : ∀ error later, contract.inv later → middle (.error error) later →
      post (.error error) later) :
    Safe M contract who post (body.bind f) state := by
  induction body generalizing state with
  | ret value => exact rest value state valid (first state (regular.refl _ _) valid)
  | fail error => exact fun later step kept => failed error later kept (first later step kept)
  | call op next ih =>
      intro later step kept choice ready
      obtain ⟨kept, granted, safe⟩ := first later step kept choice ready
      exact ⟨kept, granted, ih _ kept safe⟩

/-- A program whose failure is recorded. -/
theorem attempt {post : Except ε (Except ε α) → σ → Prop} {body : Program ε Res α} {state : σ}
    (safe : Safe M contract who (fun outcome => post (.ok outcome)) body state) :
    Safe M contract who post body.attempt state := by
  induction body generalizing state with
  | ret value => exact safe
  | fail error => exact safe
  | call op next ih =>
      intro later step valid choice ready
      obtain ⟨kept, granted, rest⟩ := safe later step valid choice ready
      exact ⟨kept, granted, ih _ rest⟩

/-- One raised call. -/
theorem perform {post : Except ε (Res op) → σ → Prop} {state : σ}
    (each : ∀ later, contract.rely who state later → contract.inv later →
      ∀ choice, M.ready who choice op later →
        contract.inv (M.exec who choice op later).2 ∧
        contract.guarantee who later (M.exec who choice op later).2 ∧
        ∀ last, contract.rely who (M.exec who choice op later).2 last → contract.inv last →
          post (M.exec who choice op later).1 last) :
    Safe M contract who post (Program.perform op) state := by
  intro later step valid choice ready
  obtain ⟨kept, granted, ended⟩ := each later step valid choice ready
  refine ⟨kept, granted, ?_⟩
  generalize (M.exec who choice op later).1 = reply at ended ⊢
  cases reply with
  | ok value => exact ended
  | error error => exact ended

/-! ## Alone -/

section Sequential

variable [Inhabited χ]

/-- Every call of the sequential run is ready when it is made. -/
def Orderly (M : Machine ι χ ε Res σ) (who : ι) : Program ε Res α → List χ → σ → Prop
  | .ret _, _, _ => True
  | .fail _, _, _ => True
  | .call op next, choices, state => M.ready who choices.headI op state ∧
      Orderly M who (next (M.exec who choices.headI op state).1) choices.tail
        (M.exec who choices.headI op state).2

/-- Side conditions can be dropped. -/
theorem Orderly.unrestrict {side : ι → χ → Op → σ → Prop} {body : Program ε Res α}
    {choices : List χ} {state : σ} (orderly : Orderly (M.restrict side) who body choices state) :
    Orderly M who body choices state := by
  induction body generalizing choices state with
  | ret value => trivial
  | fail error => trivial
  | call op next ih => exact ⟨orderly.1.1, ih _ orderly.2⟩

/-- A safe program run alone ends in its postcondition, through steps within its guarantee. -/
theorem run (regular : contract.Regular) {post : Except ε α → σ → Prop}
    {body : Program ε Res α} {choices : List χ} {state : σ}
    (safe : Safe M contract who post body state) (valid : contract.inv state)
    (orderly : Orderly M who body choices state) :
    post (M.run who body choices state).outcome (M.run who body choices state).state ∧
      contract.inv (M.run who body choices state).state ∧
      Relation.ReflTransGen (contract.guarantee who) state
        (M.run who body choices state).state := by
  induction body generalizing choices state with
  | ret value => exact ⟨safe state (regular.refl _ _) valid, valid, .refl⟩
  | fail error => exact ⟨safe state (regular.refl _ _) valid, valid, .refl⟩
  | call op next ih =>
      obtain ⟨kept, granted, rest⟩ :=
        safe state (regular.refl _ _) valid choices.headI orderly.1
      obtain ⟨ended, last, path⟩ := ih _ rest kept orderly.2
      exact ⟨ended, last, path.head granted⟩

end Sequential

end Safe

/-! ## Pools -/

namespace Pool

variable [DecidableEq ι]

/-- A program that runs alone to its end is one run of the pool. -/
theorem steps_of_run [Inhabited χ] {M : Machine ι χ ε Res σ} {around : Surroundings ι ε Res σ}
    {who : ι} {body : Program ε Res Unit} {choices : List χ} {pool : Pool ι ε Res σ}
    (current : pool.running who = some body)
    (orderly : Safe.Orderly M who body choices pool.shared) :
    Steps M around pool ⟨(M.run who body choices pool.shared).state,
      Function.update pool.running who none⟩ := by
  induction body generalizing choices pool with
  | ret value => exact .single (.finish who (.inl current))
  | fail error => exact .single (.finish who (.inr ⟨error, current⟩))
  | call op next ih =>
      let later : Pool ι ε Res σ := ⟨(M.exec who choices.headI op pool.shared).2,
        Function.update pool.running who (some (next (M.exec who choices.headI op pool.shared).1))⟩
      have stands : later.running who = some _ := Function.update_self ..
      have rest : Steps M around later _ := ih _ stands orderly.2
      rw [Function.update_idem] at rest
      exact .head (.call who choices.headI op next current orderly.1) rest

/-- The same, where nothing else runs. -/
theorem steps_of_alone [Inhabited χ] {M : Machine ι χ ε Res σ} {around : Surroundings ι ε Res σ}
    {who : ι} {body : Program ε Res Unit} {choices : List χ} {state : σ}
    (started : around.start who body) (orderly : Safe.Orderly M who body choices state) :
    Steps M around (quiet state) (quiet (M.run who body choices state).state) := by
  let start : Pool ι ε Res σ := quiet state
  let begun : Pool ι ε Res σ := ⟨state, Function.update start.running who (some body)⟩
  have begins : Step M around start begun := .spawn who body rfl started
  have stands : begun.running who = some body := Function.update_self who _ start.running
  have ends : Function.update begun.running who none = start.running := by
    change Function.update (Function.update start.running who (some body)) who none = _
    rw [Function.update_idem]
    exact Function.update_eq_self who start.running
  have runs : Steps M around begun _ := steps_of_run stands orderly
  rw [ends] at runs
  exact .head begins runs

/-- What makes the contract of a pool hang together. `idle` says that the process
holds nothing in the shared state, `ended` what its programs leave behind. -/
structure Compatible (M : Machine ι χ ε Res σ) (around : Surroundings ι ε Res σ)
    (contract : Contract ι σ) (idle : ι → σ → Prop) (ended : ι → Except ε Unit → σ → Prop) :
    Prop where
  regular : contract.Regular
  others : ∀ who other first second, contract.inv first → contract.guarantee who first second →
    other ≠ who → contract.rely other first second
  drift_inv : ∀ first second, contract.inv first → around.drift first second →
    contract.inv second
  drift_rely : ∀ who first second, contract.inv first → around.drift first second →
    contract.rely who first second
  crash_inv : ∀ who state, contract.inv state → contract.inv (around.crash who state)
  crash_idle : ∀ who state, contract.inv state → idle who (around.crash who state)
  crash_rely : ∀ who other state, contract.inv state → other ≠ who →
    contract.rely other state (around.crash who state)
  idle_rely : ∀ who first second, idle who first → contract.rely who first second →
    idle who second
  ended_idle : ∀ who outcome state, ended who outcome state → idle who state
  start_safe : ∀ who body state, around.start who body → contract.inv state → idle who state →
    Safe M contract who (ended who) body state

/-- The pool's shared state is valid and every process is safe or idle. -/
structure Valid (M : Machine ι χ ε Res σ) (contract : Contract ι σ) (idle : ι → σ → Prop)
    (ended : ι → Except ε Unit → σ → Prop) (pool : Pool ι ε Res σ) : Prop where
  inv : contract.inv pool.shared
  running : ∀ who body, pool.running who = some body →
    Safe M contract who (ended who) body pool.shared
  resting : ∀ who, pool.running who = none → idle who pool.shared

/-- How one step of a valid pool may change the shared state. -/
inductive Change (around : Surroundings ι ε Res σ) (contract : Contract ι σ) : σ → σ → Prop
  | none (state : σ) : Change around contract state state
  | guaranteed (who : ι) {first second : σ} (granted : contract.guarantee who first second) :
      Change around contract first second
  | drifted {first second : σ} (moved : around.drift first second) :
      Change around contract first second
  | crashed (who : ι) (state : σ) : Change around contract state (around.crash who state)

variable {M : Machine ι χ ε Res σ} {around : Surroundings ι ε Res σ} {contract : Contract ι σ}
  {idle : ι → σ → Prop} {ended : ι → Except ε Unit → σ → Prop}

/-- The other processes of a valid pool are still safe or idle after a step that
each of them may rely on. -/
private theorem valid_after (compatible : Compatible M around contract idle ended)
    {pool : Pool ι ε Res σ} (valid : Valid M contract idle ended pool) {who : ι} {next : σ}
    {body : Option (Program ε Res Unit)} (inv : contract.inv next)
    (relied : ∀ other, other ≠ who → contract.rely other pool.shared next)
    (own : ∀ rest, body = some rest →
      Safe M contract who (ended who) rest next)
    (rest : body = none → idle who next) :
    Valid M contract idle ended ⟨next, Function.update pool.running who body⟩ := by
  refine ⟨inv, fun other found current => ?_, fun other current => ?_⟩
  · change Function.update pool.running who body other = some found at current
    by_cases same : other = who
    · subst other
      rw [Function.update_self] at current
      exact own _ current
    · rw [Function.update_of_ne same] at current
      exact (valid.running other found current).of_rely compatible.regular (relied other same)
  · change Function.update pool.running who body other = none at current
    by_cases same : other = who
    · subst other
      rw [Function.update_self] at current
      exact rest current
    · rw [Function.update_of_ne same] at current
      exact compatible.idle_rely other _ _ (valid.resting other current) (relied other same)

/-- One step keeps a pool valid and changes the shared state as described. -/
theorem Valid.step (compatible : Compatible M around contract idle ended)
    {pool next : Pool ι ε Res σ}
    (valid : Valid M contract idle ended pool) (step : Step M around pool next) :
    Valid M contract idle ended next ∧ Change around contract pool.shared next.shared := by
  have refl := compatible.regular.refl
  cases step with
  | spawn who body free started =>
      refine ⟨valid_after compatible valid valid.inv (fun other _ => refl other _) ?_ ?_, .none _⟩
      · rintro rest ⟨⟩
        exact compatible.start_safe who body _ started valid.inv (valid.resting who free)
      · rintro ⟨⟩
  | call who choice op rest current ready =>
      obtain ⟨kept, granted, safe⟩ :=
        valid.running who _ current pool.shared (refl who _) valid.inv choice ready
      refine ⟨valid_after compatible valid kept
        (fun other differs => compatible.others who other _ _ valid.inv granted differs) ?_ ?_,
        .guaranteed who granted⟩
      · rintro tail ⟨⟩
        exact safe
      · rintro ⟨⟩
  | finish who stopped =>
      refine ⟨valid_after compatible valid valid.inv (fun other _ => refl other _) ?_ ?_, .none _⟩
      · rintro rest ⟨⟩
      · intro _
        rcases stopped with returned | ⟨error, failed⟩
        · exact compatible.ended_idle who _ _
            (valid.running who _ returned pool.shared (refl who _) valid.inv)
        · exact compatible.ended_idle who _ _
            (valid.running who _ failed pool.shared (refl who _) valid.inv)
  | crash who alive =>
      refine ⟨valid_after compatible valid (compatible.crash_inv who _ valid.inv)
        (fun other differs => compatible.crash_rely who other _ valid.inv differs) ?_ ?_,
        .crashed who _⟩
      · rintro rest ⟨⟩
      · exact fun _ => compatible.crash_idle who _ valid.inv
  | drift moved step =>
      have inv := compatible.drift_inv _ _ valid.inv step
      refine ⟨⟨inv, fun who body current => ?_, fun who current => ?_⟩, .drifted step⟩
      · exact (valid.running who body current).of_rely compatible.regular
          (compatible.drift_rely who _ _ valid.inv step)
      · exact compatible.idle_rely who _ _ (valid.resting who current)
          (compatible.drift_rely who _ _ valid.inv step)

/-- Any number of steps keeps a pool valid and the shared state changes step by step. -/
theorem Valid.steps (compatible : Compatible M around contract idle ended)
    {pool last : Pool ι ε Res σ}
    (valid : Valid M contract idle ended pool) (steps : Steps M around pool last) :
    Valid M contract idle ended last ∧
      Relation.ReflTransGen
        (fun first second => contract.inv first ∧ contract.inv second ∧
          Change around contract first second) pool.shared last.shared := by
  induction steps with
  | refl => exact ⟨valid, .refl⟩
  | tail earlier step ih =>
      obtain ⟨reached, path⟩ := ih
      obtain ⟨kept, changed⟩ := reached.step compatible step
      exact ⟨kept, path.tail ⟨reached.inv, kept.inv, changed⟩⟩

omit [DecidableEq ι] in
/-- A quiet pool over a valid state in which nobody holds anything is valid. -/
theorem valid_quiet {state : σ} (inv : contract.inv state) (free : ∀ who, idle who state) :
    Valid M contract idle ended (quiet state) where
  inv := inv
  running := fun who body current => by cases current
  resting := fun who _ => free who

/-- A property that every change keeps holds in every state the pool reaches. -/
theorem Valid.keeps (compatible : Compatible M around contract idle ended) (property : σ → Prop)
    (kept : ∀ first second, contract.inv first → contract.inv second → property first →
      Change around contract first second → property second)
    {pool last : Pool ι ε Res σ} (valid : Valid M contract idle ended pool)
    (holds : property pool.shared) (steps : Steps M around pool last) :
    property last.shared := by
  obtain ⟨_, path⟩ := valid.steps compatible steps
  generalize last.shared = final at path ⊢
  induction path with
  | refl => exact holds
  | tail earlier step ih => exact kept _ _ step.1 step.2.1 ih step.2.2

end Pool
end EffectSystem
