import Payroute.Isolation.Draft

/-! # Programs outside of transactions

`Setting.Outside` is the judgment for a service from its start to its end: it
holds no open transaction between its database transactions. The rule for
`transaction` turns a judgment about its body into one about the whole.
-/

namespace Payroute

open EffectSystem KeyedTable

/-- A transaction's own balances are nonnegative and fit their column. -/
theorem World.Sound.solvent_log {world : World} {who : ProcessId} (sound : world.Sound) :
    world.db.Solvent (world.db.replay (world.log who)) := by
  cases current : world.sessions who with
  | none =>
      rw [World.log, current]
      exact .of_eq rfl
  | some session =>
      rw [World.log_open current]
      have fine := sound.solvent who session current
      generalize session.log = log at fine
      generalize world.db = first
      have general : ∀ db : Database, first.Solvent db → first.Solvent (db.replay log) := by
        induction log with
        | nil => exact fun db solvent => solvent
        | cons version rest ih =>
            intro db solvent
            apply ih fun later member => fine later (List.mem_cons_of_mem _ member)
            cases version with
            | account written =>
                intro row member
                rcases (Table.mem_put_iff _ _ _).mp member with rfl | ⟨old, _⟩
                · exact .inr (fine _ List.mem_cons_self _ rfl)
                · exact solvent row old
            | _ => exact solvent
      exact general first (.of_eq rfl)

/-- Writes to the tables beside the books. -/
def Write.IsSide : Write → Prop
  | .event _ => True
  | .purgeEvents _ => True
  | .key _ => True
  | .purgeKeys _ => True
  | _ => False

theorem Database.sameBooks_write {version : Write} (side : version.IsSide) (db : Database) :
    db.SameBooks (db.write version) := by
  cases version with
  | event _ => exact ⟨rfl, rfl, rfl, rfl⟩
  | purgeEvents _ => exact ⟨rfl, rfl, rfl, rfl⟩
  | key _ => exact ⟨rfl, rfl, rfl, rfl⟩
  | purgeKeys _ => exact ⟨rfl, rfl, rfl, rfl⟩
  | _ => exact side.elim

namespace Setting

variable (setting : Setting) (commit : Database → Database → Prop) (who : ProcessId)

/-- How a program ends: without an open transaction, in a state in which its
result held when it was reached. -/
def Finishes {α : Type} (result : Except Failure α → World → Prop) (outcome : Except Failure α)
    (last : World) : Prop :=
  last.sessions who = none ∧ ∃ middle, middle.Sound ∧ middle.sessions who = none ∧
    result outcome middle ∧ setting.Rely who middle last

/-- The program, started without an open transaction, keeps the contract and
ends with the stated result. -/
def Outside {α : Type} (result : Except Failure α → World → Prop) (body : Service α)
    (world : World) : Prop :=
  world.Sound → world.sessions who = none →
    Safe setting.machine (setting.contract commit) who (setting.Finishes who result) body world

namespace Outside

variable {setting commit who} {α β : Type} {world : World}

private theorem closed_of_rely {first second : World} (closed : first.sessions who = none)
    (rely : setting.Rely who first second) : second.sessions who = none :=
  rely.frame.session.trans closed

theorem ret {result : Except Failure α → World → Prop} {value : α}
    (holds : result (.ok value) world) :
    setting.Outside commit who result (.ret value) world := by
  intro sound closed last rely _
  exact ⟨closed_of_rely closed rely, world, sound, closed, holds, rely⟩

theorem fail {result : Except Failure α → World → Prop} {error : Failure}
    (holds : result (.error error) world) :
    setting.Outside commit who result (.fail error) world := by
  intro sound closed last rely _
  exact ⟨closed_of_rely closed rely, world, sound, closed, holds, rely⟩

theorem mono {result weaker : Except Failure α → World → Prop} {body : Service α}
    (outside : setting.Outside commit who result body world)
    (implies : ∀ outcome last, result outcome last → weaker outcome last) :
    setting.Outside commit who weaker body world := by
  intro sound closed
  refine (outside sound closed).mono fun outcome last _ finished => ?_
  obtain ⟨free, middle, valid, inside, holds, rely⟩ := finished
  exact ⟨free, middle, valid, inside, implies outcome middle holds, rely⟩

theorem bind {result : Except Failure α → World → Prop} {final : Except Failure β → World → Prop}
    {body : Service α} {next : α → Service β}
    (first : setting.Outside commit who result body world)
    (rest : ∀ value middle, result (.ok value) middle →
      setting.Outside commit who final (next value) middle)
    (failed : ∀ error middle, result (.error error) middle → final (.error error) middle) :
    setting.Outside commit who final (body.bind next) world := by
  intro sound closed
  apply Safe.bind (setting.regular commit) sound (first sound closed)
  · intro value later _ finished
    obtain ⟨_, middle, valid, free, holds, rely⟩ := finished
    exact (rest value middle holds valid free).of_rely (setting.regular commit) rely
  · intro error later _ finished
    obtain ⟨free, middle, valid, inside, holds, rely⟩ := finished
    exact ⟨free, middle, valid, inside, failed error middle holds, rely⟩

theorem attempt {result : Except Failure (Except Failure α) → World → Prop} {body : Service α}
    (outside : setting.Outside commit who (fun outcome => result (.ok outcome)) body world) :
    setting.Outside commit who result body.attempt world :=
  fun sound closed => Safe.attempt (outside sound closed)

/-- The recorded outcome of a program. -/
private theorem recorded {result : Except Failure α → World → Prop} {body : Service α}
    (outside : setting.Outside commit who result body world) :
    setting.Outside commit who (fun outcome last => ∃ inner, outcome = .ok inner ∧
      result inner last) body.attempt world := by
  apply Outside.attempt
  exact outside.mono fun outcome last holds => ⟨outcome, rfl, holds⟩

/-- Failures of the body are swallowed. -/
theorem swallow {result : Except Failure α → World → Prop}
    {final : Except Failure Unit → World → Prop} {body : Service α}
    (outside : setting.Outside commit who result body world)
    (implies : ∀ outcome middle, result outcome middle → final (.ok ()) middle) :
    setting.Outside commit who final (Program.swallow body) world := by
  refine (recorded outside).bind ?_ ?_
  · rintro outcome middle ⟨inner, _, holds⟩
    exact Outside.ret (implies inner middle holds)
  · rintro error middle ⟨inner, same, _⟩
    cases same

theorem tryCatch {result final : Except Failure α → World → Prop} {body : Service α}
    {handler : Failure → Service α} (outside : setting.Outside commit who result body world)
    (returned : ∀ value middle, result (.ok value) middle → final (.ok value) middle)
    (caught : ∀ error middle, result (.error error) middle →
      setting.Outside commit who final (handler error) middle) :
    setting.Outside commit who final (Program.tryCatch body handler) world := by
  refine (recorded outside).bind ?_ ?_
  · rintro outcome middle ⟨inner, same, holds⟩
    cases same
    cases outcome with
    | ok value => exact Outside.ret (returned value middle holds)
    | error error => exact caught error middle holds
  · rintro error middle ⟨inner, same, _⟩
    cases same

theorem tryFinally {result final : Except Failure α → World → Prop} {body : Service α}
    {cleanup : Service Unit} (outside : setting.Outside commit who result body world)
    (cleaned : ∀ outcome middle, result outcome middle → setting.Outside commit who
      (fun ending last => (∃ error, ending = .error error ∧ final (.error error) last) ∨
        ending = .ok () ∧ final outcome last) cleanup middle) :
    setting.Outside commit who final (Program.tryFinally body cleanup) world := by
  refine (recorded outside).bind ?_ ?_
  · rintro outcome middle ⟨inner, same, holds⟩
    cases same
    refine Outside.bind (cleaned outcome middle holds) ?_ ?_
    · rintro ⟨⟩ last (⟨error, absurd, _⟩ | ⟨_, ended⟩)
      · cases absurd
      · cases outcome with
        | ok value => exact Outside.ret ended
        | error error => exact Outside.fail ended
    · rintro error last (⟨_, same, ended⟩ | ⟨absurd, _⟩)
      · cases same
        exact ended
      · cases absurd
  · rintro error middle ⟨inner, same, _⟩
    cases same

theorem orThrow {result : Except Failure α → World → Prop} {failure : Failure} {found : Option α}
    (holds : ∀ value, found = some value → result (.ok value) world)
    (failed : result (.error failure) world) :
    setting.Outside commit who result (Payroute.orThrow failure found) world := by
  cases found with
  | none => exact .fail failed
  | some value => exact .ret (holds value rfl)

/-- A call, by what it may do to the world when it is carried out. -/
theorem external {op : Operation} {result : Except Failure op.Reply → World → Prop}
    (step : ∀ middle, middle.Sound → middle.sessions who = none → setting.Rely who world middle →
      setting.Issues who op middle → middle.Ready who op →
      (middle.perform who op).2.Sound ∧ (middle.perform who op).2.sessions who = none ∧
        Grant commit who middle (middle.perform who op).2 ∧
        result (middle.perform who op).1 (middle.perform who op).2 ∧
        result (.error .unavailable) (middle.perform who op).2)
    (lost : ∀ middle, setting.Rely who world middle → result (.error .unavailable) middle) :
    setting.Outside commit who result (Payroute.call op) world := by
  intro _ closed
  apply Safe.perform
  intro middle rely valid delivery ready
  have free := closed_of_rely closed rely
  obtain ⟨sound, stays, grant, done, unanswered⟩ := step middle valid free rely ready.2 ready.1
  change (World.exec who delivery op middle).2.Sound ∧
    Grant commit who middle (World.exec who delivery op middle).2 ∧
    ∀ last, setting.Rely who (World.exec who delivery op middle).2 last → last.Sound →
      setting.Finishes who result (World.exec who delivery op middle).1 last
  rcases World.exec_cases who delivery op middle with ran | ⟨failed, same | ran⟩
  · rw [ran]
    refine ⟨sound, grant, fun last after _ => ?_⟩
    exact ⟨closed_of_rely stays after, _, sound, stays, done, after⟩
  · rw [failed, same]
    refine ⟨valid, Grant.of_inside (.refl who middle), fun last after _ => ?_⟩
    exact ⟨closed_of_rely free after, middle, valid, free, lost middle rely, after⟩
  · rw [failed, ran]
    refine ⟨sound, grant, fun last after _ => ?_⟩
    exact ⟨closed_of_rely stays after, _, sound, stays, unanswered, after⟩

/-- A call that leaves the database alone. -/
theorem neutral {op : Operation} (neutral : op.Neutral)
    {result : Except Failure op.Reply → World → Prop}
    (step : ∀ middle, middle.Sound → middle.sessions who = none → setting.Rely who world middle →
      setting.Issues who op middle →
      result (middle.perform who op).1 (middle.perform who op).2 ∧
        result (.error .unavailable) (middle.perform who op).2)
    (lost : ∀ middle, setting.Rely who world middle → result (.error .unavailable) middle) :
    setting.Outside commit who result (Payroute.call op) world := by
  apply Outside.external _ lost
  intro middle valid free rely permitted _
  have aside : middle.Aside (middle.perform who op).2 := World.perform_neutral neutral
  obtain ⟨done, unanswered⟩ := step middle valid free rely permitted
  refine ⟨aside.sound valid, ?_, Grant.of_inside (aside.inside who), done, unanswered⟩
  rw [aside.sessions, free]

/-- A call that leaves the database alone and whose reply does not matter. -/
theorem skip {op : Operation} (neutral : op.Neutral)
    {result : Except Failure op.Reply → World → Prop}
    (holds : ∀ outcome last, result outcome last) :
    setting.Outside commit who result (Payroute.call op) world :=
  Outside.neutral neutral (fun _ _ _ _ _ => ⟨holds _ _, holds _ _⟩) fun _ _ => holds _ _

/-- Code that only makes such calls. -/
theorem idle {body : Service α} (only : body.OnlyCalls Operation.Neutral)
    {result : Except Failure α → World → Prop} (holds : ∀ outcome last, result outcome last) :
    setting.Outside commit who result body world := by
  intro sound closed
  induction body generalizing world with
  | ret value => exact Outside.ret (holds _ _) sound closed
  | fail error => exact Outside.fail (holds _ _) sound closed
  | call op next ih =>
      intro later rely valid delivery _
      have aside : later.Aside (World.exec who delivery op later).2 := World.exec_neutral only.1
      refine ⟨aside.sound valid, Grant.of_inside (aside.inside who),
        ih _ (only.2 _) (aside.sound valid) ?_⟩
      exact (congrFun aside.sessions who).trans (closed_of_rely closed rely)

/-! ## Database transactions -/

private theorem commit_grant {isolation : Isolation} {changes : Changes} (sound : world.Sound)
    (drafts : world.Drafts who isolation changes)
    (commits : world.db.Beside (changes.apply world.db) ∨
      commit world.db (changes.apply world.db)) :
    Grant commit who world (world.commit who) where
  frames := by
    intro other differs
    apply World.commit_frame sound _ differs
    rw [drafts.commits]
    exact drafts.persists
  step := by
    change world.db.Beside (world.db.replay (world.log who)) ∨
      commit world.db (world.db.replay (world.log who))
    rw [drafts.commits]
    exact commits
  solvent := sound.solvent_log

/-- A returned value comes with its result. -/
private def Reached (setting : Setting) (who : ProcessId)
    (result : Except Failure α → World → Prop) (outcome : Except Failure α) (last : World) : Prop :=
  ∀ value, outcome = .ok value → setting.Finishes who result (.ok value) last

/-- `COMMIT` after a body that drafted its changes. -/
private theorem commitStep {final : Except Failure α → World → Prop} {value : α}
    (drafted : ∀ middle, middle.Sound → setting.Rely who world middle →
      ∃ isolation changes, middle.Drafts who isolation changes ∧
        (middle.db.Beside (changes.apply middle.db) ∨
          commit middle.db (changes.apply middle.db)) ∧
        ∀ last, last.db = changes.apply middle.db → final (.ok value) last) :
    Safe setting.machine (setting.contract commit) who
      (Reached setting who final) ((Payroute.call .commit).bind fun _ => .ret value) world := by
  intro middle rely valid delivery _
  obtain ⟨isolation, changes, drafts, commits, finals⟩ := drafted middle valid rely
  have done : (middle.commit who).db = changes.apply middle.db := drafts.commits
  have closed : (middle.commit who).sessions who = none := Function.update_self _ _ _
  cases delivery with
  | delivered =>
      refine ⟨World.commit_sound valid, commit_grant valid drafts commits, fun last after _ => ?_⟩
      rintro _ ⟨⟩
      exact ⟨closed_of_rely closed after, _, World.commit_sound valid, closed, finals _ done, after⟩
  | lost =>
      refine ⟨valid, Grant.of_inside (.refl who middle), fun last after _ => ?_⟩
      rintro _ ⟨⟩
  | unacknowledged =>
      refine ⟨World.commit_sound valid, commit_grant valid drafts commits, fun last after _ => ?_⟩
      rintro _ ⟨⟩

/-- A database transaction: its body drafts changes that may be committed
whenever the body is done. -/
theorem transaction {isolation : Isolation} {body : Service α} {draft : α → World → Prop}
    {result : Except Failure α → World → Prop}
    (inside : ∀ start, start.Sound → setting.Rely who world start →
      setting.Issues who (.begin isolation) start →
      setting.Within commit who draft body (start.begin who isolation))
    (drafted : ∀ value before middle, before.Sound → draft value before →
      setting.Rely who before middle →
      ∃ changes, middle.Drafts who isolation changes ∧
        (middle.db.Beside (changes.apply middle.db) ∨
          commit middle.db (changes.apply middle.db)) ∧
        ∀ last, last.db = changes.apply middle.db → result (.ok value) last)
    (failed : ∀ error last, result (.error error) last) :
    setting.Outside commit who result (Payroute.transaction isolation body) world := by
  intro sound closed
  have ending : Safe setting.machine (setting.contract commit) who
      (Reached setting who result)
      ((Payroute.call (.begin isolation)).bind fun _ =>
        body.bind fun value => (Payroute.call .commit).bind fun _ => .ret value) world := by
    intro start rely valid delivery ready
    have begun : (start.begin who isolation).Sound := World.begin_sound valid
    have opened : (start.begin who isolation).sessions who ≠ none := by
      change Function.update start.sessions who _ who ≠ none
      rw [Function.update_self]
      exact Option.some_ne_none _
    have grant : Grant commit who start (start.begin who isolation) :=
      ⟨fun _ differs => World.begin_frame differs, .inl (.refl _), .of_eq rfl⟩
    have judged := inside start valid rely ready.2 begun opened
    have continued : Safe setting.machine (setting.contract commit) who
        (Reached setting who result)
        (body.bind fun value => (Payroute.call .commit).bind fun _ => .ret value)
        (start.begin who isolation) := by
      apply Safe.bind (setting.regular commit) begun judged
      · intro value later _ ended
        obtain ⟨_, _, returned⟩ := ended
        obtain ⟨before, validBefore, _, _, holds, after⟩ := returned value rfl
        refine Safe.of_rely (setting.regular commit) (commitStep ?_) after
        intro middle _ moved
        obtain ⟨changes, drafts, commits, finals⟩ :=
          drafted value before middle validBefore holds moved
        exact ⟨isolation, changes, drafts, commits, finals⟩
      · rintro error later _ _ value ⟨⟩
    cases delivery with
    | delivered => exact ⟨begun, grant, continued⟩
    | lost =>
        refine ⟨valid, Grant.of_inside (.refl who start), fun last _ _ => ?_⟩
        rintro value ⟨⟩
    | unacknowledged =>
        refine ⟨begun, grant, fun last _ _ => ?_⟩
        rintro value ⟨⟩
  have attempted : Safe setting.machine (setting.contract commit) who
      (fun outcome last => ∃ inner, outcome = .ok inner ∧ Reached setting who result inner last)
      (Program.attempt ((Payroute.call (.begin isolation)).bind fun _ =>
        body.bind fun value => (Payroute.call .commit).bind fun _ => .ret value)) world :=
    Safe.attempt (ending.mono fun outcome last _ holds => ⟨outcome, rfl, holds⟩)
  refine Safe.bind (setting.regular commit) sound attempted ?_ ?_
  · rintro outcome later valid ⟨inner, same, holds⟩
    cases same
    cases outcome with
    | ok value =>
        obtain ⟨free, middle, validMiddle, inside, done, after⟩ := holds value rfl
        exact (Outside.ret done validMiddle inside).of_rely (setting.regular commit) after
    | error error =>
        intro middle _ validMiddle delivery _
        have released : (middle.release who).Sound := World.release_sound validMiddle
        have ended : (middle.release who).sessions who = none := Function.update_self _ _ _
        refine ⟨released, ⟨fun _ differs => World.release_frame differs, .inl (.refl _),
          .of_eq rfl⟩, fun last after _ => ?_⟩
        exact ⟨closed_of_rely ended after, _, released, ended, failed error _, after⟩
  · rintro error later _ ⟨inner, same, _⟩
    cases same

end Outside
end Setting
end Payroute
