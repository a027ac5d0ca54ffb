import Payroute.Runs.Interceptor

/-! # The protocol of one key

The requests with one idempotency key, seen as the phases they are in and the four things
they share: the lock, the cached response, the row of the table and the notes about them.
Nothing else matters to how they get along. Each call of a request is one move here, and
what holds of every run of moves is proved without the programs and the database.
-/

namespace Payroute

open EffectSystem

/-- The response a note reports as the result of a handler. -/
def Note.result : Note → Option Response
  | .handlerReturned body => some ⟨body, IdempotencyInterceptor.created⟩
  | _ => none

namespace IdempotencyInterceptor

/-! ## What the requests share -/

/-- The results of the handlers that returned. -/
def results (journal : List (ProcessId × Note)) : List Response :=
  journal.filterMap fun entry => entry.2.result

/-- What is noted about one request. -/
def notesOf (who : ProcessId) (journal : List (ProcessId × Note)) : List Note :=
  (journal.filter fun entry => decide (entry.1 = who)).map Prod.snd

/-- What the requests with one key share. -/
structure Shared where
  lock : Option LockToken
  cached : Option Response
  /-- The row of the key, if there is one, with the response it records. -/
  row : Option (Option Response)
  journal : List (ProcessId × Note)

namespace Shared

variable (shared : Shared)

/-- The recorded response, as the next request finds it. -/
def recalled : Option Response := shared.cached <|> shared.row.join

/-- Note something down. -/
def note (who : ProcessId) (note : Note) : Shared :=
  { shared with journal := shared.journal ++ [(who, note)] }

/-- Delete the lock if it holds the token. -/
def release (token : LockToken) : Shared :=
  if shared.lock = some token then { shared with lock := none } else shared

end Shared

/-- One move of a request: what it does to what is shared, and to the phase. -/
inductive Advance (who : ProcessId) : Shared → Phase → Shared → Phase → Prop
  | readHit {shared : Shared} {response : Response} (hit : shared.cached = some response) :
      Advance who shared .arrived shared (.answering (reply response))
  | readMiss {shared : Shared} (miss : shared.cached = none) :
      Advance who shared .arrived shared .locking
  | lock {shared : Shared} (token : LockToken) (free : shared.lock = none) :
      Advance who shared .locking { shared with lock := some token } (.looking token)
  | wait {shared : Shared} : Advance who shared .locking shared .polling
  | pollHit {shared : Shared} {response : Response} (hit : shared.cached = some response) :
      Advance who shared .polling shared (.answering (reply response))
  | pollMiss {shared : Shared} : Advance who shared .polling shared .polling
  | giveUp {shared : Shared} :
      Advance who shared .polling (shared.note who (.rejected keyInUse)) .ended
  | find {shared : Shared} {token : LockToken} {response : Response}
      (found : shared.row.join = some response) :
      Advance who shared (.looking token) shared (.restoring token response)
  | miss {shared : Shared} {token : LockToken} (unknown : shared.row.join = none) :
      Advance who shared (.looking token) shared (.preparing token)
  | restore {shared : Shared} {token : LockToken} {response : Response} :
      Advance who shared (.restoring token response) { shared with cached := some response }
        (.freeing token response)
  | free {shared : Shared} {token : LockToken} {response : Response} :
      Advance who shared (.freeing token response) (shared.release token)
        (.answering (reply response))
  | clock {shared : Shared} {token : LockToken} :
      Advance who shared (.preparing token) shared (.preparing token)
  | insert {shared : Shared} {token : LockToken} :
      Advance who shared (.preparing token) { shared with row := some shared.row.join }
        (.starting token)
  | start {shared : Shared} {token : LockToken} :
      Advance who shared (.starting token) (shared.note who .handlerStarted)
        (.handling token false)
  | work {shared : Shared} {token : LockToken} (opened later : Bool) :
      Advance who shared (.handling token opened) shared (.handling token later)
  | succeed {shared : Shared} {token : LockToken} (body : Transaction) :
      Advance who shared (.handling token false) (shared.note who (.handlerReturned body))
        (.returned token body)
  | throw {shared : Shared} {token : LockToken} (error : Failure) :
      Advance who shared (.handling token false) (shared.note who (.handlerThrew error))
        (.throwing token error)
  | release {shared : Shared} {token : LockToken} {error : Failure} :
      Advance who shared (.throwing token error) (shared.release token) (.refusing error)
  | respond {shared : Shared} {token : LockToken} {body : Transaction} :
      Advance who shared (.returned token body) (shared.note who (.responded body created))
        (.persisting token body false false)
  | cache {shared : Shared} {token : LockToken} {body : Transaction} {stored : Bool} :
      Advance who shared (.persisting token body false stored)
        { shared with cached := some ⟨body, created⟩ } (.persisting token body true stored)
  | store {shared : Shared} {token : LockToken} {body : Transaction} {cached : Bool} :
      Advance who shared (.persisting token body cached false)
        { shared with row := shared.row.map fun _ => some ⟨body, created⟩ }
        (.persisting token body cached true)
  | conclude {shared : Shared} {token : LockToken} {body : Transaction} :
      Advance who shared (.persisting token body true true) (shared.release token) .ended
  | answer {shared : Shared} {response : Response} :
      Advance who shared (.answering response)
        (shared.note who (.responded response.body response.statusCode)) .ended
  | refuse {shared : Shared} {error : Failure} :
      Advance who shared (.refusing error) (shared.note who (.rejected error)) .ended

theorem Advance.arrived {who : ProcessId} {shared last : Shared} {phase later : Phase}
    (advance : Advance who shared phase last later) : later ≠ .absent := by
  intro absurd
  subst absurd
  cases advance

/-- The requests with one key and what they share. -/
structure Requests where
  shared : Shared
  phase : ProcessId → Phase

namespace Requests

/-- One step of the requests. -/
inductive Step : Requests → Requests → Prop
  | arrive {requests : Requests} (who : ProcessId) (absent : requests.phase who = .absent) :
      Step requests ⟨requests.shared, Function.update requests.phase who .arrived⟩
  | advance {requests : Requests} (who : ProcessId) {shared : Shared} {later : Phase}
      (advance : Advance who requests.shared (requests.phase who) shared later) :
      Step requests ⟨shared, Function.update requests.phase who later⟩

/-- Any number of steps. -/
abbrev Steps : Requests → Requests → Prop := Relation.ReflTransGen Step

/-- No request has arrived yet: the lock is free and nothing is noted down. What was
recorded before may still be there. -/
structure Initial (requests : Requests) : Prop where
  phase : ∀ who, requests.phase who = .absent
  lock : requests.shared.lock = none
  journal : requests.shared.journal = []

end Requests

/-! ## What the phases say -/

namespace Phase

/-- The token of the lock a request holds. -/
def token : Phase → Option LockToken
  | looking token | restoring token _ | freeing token _ | preparing token | starting token
  | handling token _ | throwing token _ | returned token _ | persisting token _ _ _ => some token
  | _ => none

/-- Whether the request needs nothing but the cache any more. -/
def settled : Phase → Bool
  | absent | arrived | answering _ | ended => true
  | _ => false

/-- The response a request is about to store. -/
def delivers : Phase → Option Response
  | returned _ body | persisting _ body _ false => some ⟨body, created⟩
  | _ => none

end Phase

/-- The notes about a request that has ended: it was answered with the recorded response,
it was answered by its own handler, its own handler threw, or it was turned away. -/
inductive Concluded (known : Option Response) : List Note → Prop
  | replayed (response : Response) (recorded : known = some response) :
      Concluded known [.responded (reply response).body (reply response).statusCode]
  | handled (body : Transaction) (recorded : known = some ⟨body, created⟩) :
      Concluded known [.handlerStarted, .handlerReturned body, .responded body created]
  | failed (error : Failure) :
      Concluded known [.handlerStarted, .handlerThrew error, .rejected error]
  | conflict : Concluded known [.rejected keyInUse]

/-- What was noted about a request so far, and what it knows of the recorded response and
of the row. -/
def Phase.Story (known : Option Response) (filed : Bool) : Phase → List Note → Prop
  | .absent, notes | .arrived, notes | .locking, notes | .polling, notes | .looking _, notes =>
      notes = []
  | .restoring _ response, notes | .freeing _ response, notes =>
      notes = [] ∧ known = some response
  | .preparing _, notes => notes = [] ∧ known = none
  | .starting _, notes => notes = [] ∧ known = none ∧ filed = true
  | .handling _ _, notes => notes = [.handlerStarted] ∧ known = none ∧ filed = true
  | .throwing _ error, notes | .refusing error, notes =>
      notes = [.handlerStarted, .handlerThrew error]
  | .returned _ body, notes =>
      notes = [.handlerStarted, .handlerReturned body] ∧ known = some ⟨body, created⟩ ∧
        filed = true
  | .persisting _ body _ _, notes =>
      notes = [.handlerStarted, .handlerReturned body, .responded body created] ∧
        known = some ⟨body, created⟩ ∧ filed = true
  | .answering response, notes =>
      notes = [] ∧ ∃ stored, known = some stored ∧ reply stored = response
  | .ended, notes => Concluded known notes

/-! ## Invariants -/

/-- The recorded response: the one that was there before, or that of the handler that
returned. -/
def answer (prior : Option Response) (shared : Shared) : Option Response :=
  prior <|> (results shared.journal).head?

/-- A handler starts only after all handlers that started before have thrown. -/
def Ordered (journal : List (ProcessId × Note)) : Prop :=
  ∀ before who after, journal = before ++ (who, .handlerStarted) :: after →
    (∀ other, (other, .handlerStarted) ∈ before → ∃ error, (other, .handlerThrew error) ∈ before) ∧
      results before = []

namespace Requests

/-- The lock is taken if and only if one request is in a phase with its token. -/
structure Locked (requests : Requests) : Prop where
  holds : ∀ who token, (requests.phase who).token = some token → requests.shared.lock = some token
  held : ∀ token, requests.shared.lock = some token →
    ∃ who, (requests.phase who).token = some token
  unique : ∀ first second, (requests.phase first).token ≠ none →
    (requests.phase second).token ≠ none → first = second

/-- The response is cached and no request that arrived needs more. -/
def Frozen (requests : Requests) : Prop :=
  requests.shared.cached ≠ none ∧ ∀ who, (requests.phase who).settled = true

/-- Where the recorded response is found. -/
structure Recorded (known : Option Response) (requests : Requests) : Prop where
  cached : ∀ response, requests.shared.cached = some response → known = some response
  stored : ∀ response, requests.shared.row.join = some response →
    known = some response ∨ requests.Frozen
  kept : ∀ response, known = some response → requests.Frozen ∨
    requests.shared.row.join = some response ∨
    ∃ who, (requests.phase who).delivers = some response

/-- The invariant of the requests with one key. -/
structure Sound (prior : Option Response) (requests : Requests) : Prop where
  locked : requests.Locked
  recorded : requests.Recorded (answer prior requests.shared)
  stories : ∀ who, (requests.phase who).Story (answer prior requests.shared)
    requests.shared.row.isSome (notesOf who requests.shared.journal)
  ordered : Ordered requests.shared.journal
  once : (results requests.shared.journal).length ≤ 1

end Requests

/-! ### Notes -/

section Notes

variable {who other : ProcessId} {note : Note} {journal : List (ProcessId × Note)}

theorem mem_notesOf : note ∈ notesOf who journal ↔ (who, note) ∈ journal := by
  simp [notesOf]

theorem notesOf_append_self :
    notesOf who (journal ++ [(who, note)]) = notesOf who journal ++ [note] := by
  simp [notesOf]

theorem notesOf_append_other (differs : other ≠ who) :
    notesOf other (journal ++ [(who, note)]) = notesOf other journal := by
  simp [notesOf, Ne.symm differs]

theorem results_append :
    results (journal ++ [(who, note)]) = results journal ++ note.result.toList := by
  unfold results
  rw [List.filterMap_append]
  cases reported : note.result with
  | none => simp [reported]
  | some response => simp [reported]

theorem Ordered.append (ordered : Ordered journal)
    (started : note = .handlerStarted →
      (∀ other, (other, .handlerStarted) ∈ journal →
        ∃ error, (other, .handlerThrew error) ∈ journal) ∧
        results journal = []) : Ordered (journal ++ [(who, note)]) := by
  intro before starter after same
  rcases List.eq_nil_or_concat after with rfl | ⟨front, last, rfl⟩
  · obtain ⟨rfl, lasts⟩ := List.append_inj' same rfl
    cases lasts
    exact started rfl
  · rw [List.concat_eq_append, ← List.cons_append, ← List.append_assoc] at same
    obtain ⟨rfl, _⟩ := List.append_inj' same rfl
    exact ordered before starter front rfl

end Notes

/-! ### The lock -/

namespace Requests

section Lock

variable {requests : Requests} {who : ProcessId} {shared : Shared} {later : Phase}
  {token : LockToken}

/-- The tokens after a move that keeps the token of its request. -/
theorem Locked.keep (locked : requests.Locked) (lock : shared.lock = requests.shared.lock)
    (same : later.token = (requests.phase who).token) :
    Locked ⟨shared, Function.update requests.phase who later⟩ := by
  have tokens : ∀ other, (Function.update requests.phase who later other).token =
      (requests.phase other).token := by
    intro other
    by_cases own : other = who
    · rw [own, Function.update_self, same]
    · rw [Function.update_of_ne own]
  refine ⟨?_, ?_, ?_⟩
  · intro other held token
    rw [lock]
    exact locked.holds other held ((tokens other).symm.trans token)
  · intro held taken
    obtain ⟨holder, holds⟩ := locked.held held (lock.symm.trans taken)
    exact ⟨holder, (tokens holder).trans holds⟩
  · intro first second holding other
    rw [tokens] at holding other
    exact locked.unique first second holding other

/-- A request takes the free lock. -/
theorem Locked.take (locked : requests.Locked) (free : requests.shared.lock = none)
    (lock : shared.lock = some token) (took : later.token = some token) :
    Locked ⟨shared, Function.update requests.phase who later⟩ := by
  have nobody : ∀ other, other ≠ who →
      (Function.update requests.phase who later other).token = none := by
    intro other differs
    rw [Function.update_of_ne differs]
    cases holds : (requests.phase other).token with
    | none => rfl
    | some held =>
        rw [locked.holds other held holds] at free
        cases free
  have own : (Function.update requests.phase who later who).token = some token := by
    rw [Function.update_self, took]
  have holder : ∀ other, (Function.update requests.phase who later other).token ≠ none →
      other = who := by
    intro other holding
    by_contra differs
    exact holding (nobody other differs)
  refine ⟨?_, ?_, ?_⟩
  · intro other held token
    have same : other = who := by
      refine holder other ?_
      rw [token]
      exact Option.some_ne_none held
    subst same
    exact lock.trans (own.symm.trans token)
  · intro held taken
    exact ⟨who, own.trans (lock.symm.trans taken)⟩
  · intro first second holding other
    exact (holder first holding).trans (holder second other).symm

/-- The holder gives the lock back. -/
theorem Locked.drop (locked : requests.Locked) (holds : (requests.phase who).token = some token)
    (given : later.token = none) :
    Locked ⟨requests.shared.release token, Function.update requests.phase who later⟩ := by
  have released : (requests.shared.release token).lock = none := by
    unfold Shared.release
    rw [if_pos (locked.holds who token holds)]
  have nobody : ∀ other, (Function.update requests.phase who later other).token = none := by
    intro other
    by_cases own : other = who
    · rw [own, Function.update_self, given]
    · rw [Function.update_of_ne own]
      by_contra holding
      refine own (locked.unique other who holding ?_)
      rw [holds]
      exact Option.some_ne_none token
  refine ⟨?_, ?_, ?_⟩
  · intro other held token
    rw [nobody] at token
    cases token
  · intro held taken
    rw [released] at taken
    cases taken
  · intro first second holding other
    exact (holding (nobody first)).elim

theorem Locked.advance (locked : requests.Locked)
    (advance : Advance who requests.shared (requests.phase who) shared later) :
    Locked ⟨shared, Function.update requests.phase who later⟩ := by
  generalize current : requests.phase who = phase at advance
  have token : (requests.phase who).token = phase.token := congrArg Phase.token current
  cases advance with
  | lock _ free => exact locked.take free rfl rfl
  | free => exact locked.drop token rfl
  | release => exact locked.drop token rfl
  | conclude => exact locked.drop token rfl
  | _ => exact locked.keep rfl token.symm

end Lock
/-! ### The record -/

section Record

variable {requests : Requests} {who : ProcessId} {shared : Shared} {later : Phase}
  {prior known : Option Response} {notes : List Note} {filed : Bool}

theorem answer_eq_none (unknown : answer prior shared = none) :
    prior = none ∧ results shared.journal = [] := by
  unfold answer at unknown
  cases prior with
  | none => exact ⟨rfl, List.head?_eq_none_iff.mp unknown⟩
  | some response => cases unknown

/-- Notes that report no result leave the recorded response as it is. -/
theorem answer_note {note : Note} (silent : note.result = none) :
    answer prior (shared.note who note) = answer prior shared := by
  unfold answer Shared.note
  rw [results_append, silent, Option.toList_none, List.append_nil]

theorem answer_succeed {body : Transaction} (unknown : answer prior shared = none) :
    answer prior (shared.note who (.handlerReturned body)) = some ⟨body, created⟩ := by
  obtain ⟨rfl, nothing⟩ := answer_eq_none unknown
  unfold answer Shared.note
  rw [results_append, nothing]
  rfl

@[simp] theorem release_cached (token : LockToken) :
    (shared.release token).cached = shared.cached := by
  unfold Shared.release
  by_cases holds : shared.lock = some token
  · rw [if_pos holds]
  · rw [if_neg holds]

@[simp] theorem release_row (token : LockToken) : (shared.release token).row = shared.row := by
  unfold Shared.release
  by_cases holds : shared.lock = some token
  · rw [if_pos holds]
  · rw [if_neg holds]

@[simp] theorem release_journal (token : LockToken) :
    (shared.release token).journal = shared.journal := by
  unfold Shared.release
  by_cases holds : shared.lock = some token
  · rw [if_pos holds]
  · rw [if_neg holds]

theorem answer_release (token : LockToken) :
    answer prior (shared.release token) = answer prior shared := by
  unfold answer
  rw [release_journal]

/-- While the response is cached and nobody needs more, nobody will. -/
theorem Frozen.advance (frozen : requests.Frozen)
    (advance : Advance who requests.shared (requests.phase who) shared later) :
    Frozen ⟨shared, Function.update requests.phase who later⟩ := by
  obtain ⟨cached, settled⟩ := frozen
  have own := settled who
  have others : ∀ phase : Phase, phase.settled = true → ∀ other,
      (Function.update requests.phase who phase other).settled = true := by
    intro phase final other
    by_cases same : other = who
    · rw [same, Function.update_self, final]
    · rw [Function.update_of_ne same, settled]
  generalize requests.phase who = phase at advance own
  cases advance with
  | readHit hit => exact ⟨cached, others _ rfl⟩
  | readMiss miss => exact (cached miss).elim
  | answer => exact ⟨cached, others _ rfl⟩
  | _ => cases own

/-- A move that leaves the row alone and caches at most the recorded response. -/
theorem Recorded.keep (recorded : requests.Recorded known)
    (advance : Advance who requests.shared (requests.phase who) shared later)
    (cached : shared.cached = requests.shared.cached ∨
      ∃ response, shared.cached = some response ∧ known = some response)
    (row : shared.row.join = requests.shared.row.join)
    (delivers : later.delivers = (requests.phase who).delivers) :
    Recorded known ⟨shared, Function.update requests.phase who later⟩ := by
  refine ⟨?_, ?_, ?_⟩
  · intro response found
    rcases cached with same | ⟨recent, same, knows⟩
    · exact recorded.cached response (same.symm.trans found)
    · exact knows.trans (same.symm.trans found)
  · intro response found
    exact (recorded.stored response (row.symm.trans found)).imp_right fun frozen =>
      frozen.advance advance
  · intro response knows
    rcases recorded.kept response knows with frozen | found | ⟨other, delivering⟩
    · exact .inl (frozen.advance advance)
    · exact .inr (.inl (row.trans found))
    · refine .inr (.inr ⟨other, ?_⟩)
      by_cases own : other = who
      · subst own
        exact (congrArg _ (Function.update_self ..)).trans (delivers.trans delivering)
      · exact (congrArg _ (Function.update_of_ne own ..)).trans delivering

/-- The holder of the lock finds the recorded response in the row. -/
theorem Recorded.found (recorded : requests.Recorded known) (locked : requests.Locked)
    (who : ProcessId) (holding : (requests.phase who).token ≠ none)
    (undelivered : (requests.phase who).delivers = none)
    (unsettled : (requests.phase who).settled = false) : requests.shared.row.join = known := by
  have thawed : ¬ requests.Frozen := by
    intro frozen
    rw [frozen.2 who] at unsettled
    cases unsettled
  cases row : requests.shared.row.join with
  | some response => exact ((recorded.stored response row).resolve_right thawed).symm
  | none =>
      cases knows : known with
      | none => rfl
      | some response =>
          rcases recorded.kept response knows with frozen | found | ⟨other, delivering⟩
          · exact (thawed frozen).elim
          · rw [row] at found
            cases found
          · have busy : (requests.phase other).token ≠ none := by
              generalize requests.phase other = phase at delivering
              cases phase with
              | returned token body => exact Option.some_ne_none token
              | persisting token body cached stored => exact Option.some_ne_none token
              | _ => cases delivering
            rw [locked.unique other who busy holding, undelivered] at delivering
            cases delivering

theorem Recorded.advance (recorded : requests.Recorded (answer prior requests.shared))
    (locked : requests.Locked)
    (story : (requests.phase who).Story (answer prior requests.shared)
      requests.shared.row.isSome notes)
    (advance : Advance who requests.shared (requests.phase who) shared later) :
    Recorded (answer prior shared) ⟨shared, Function.update requests.phase who later⟩ := by
  have moved := advance
  have found := recorded.found locked who
  generalize current : requests.phase who = phase at advance story found
  have delivers : (requests.phase who).delivers = phase.delivers := congrArg Phase.delivers current
  cases advance with
  | restore => exact recorded.keep moved (.inr ⟨_, rfl, story.2⟩) rfl delivers.symm
  | cache =>
      refine recorded.keep moved (.inr ⟨_, rfl, story.2.1⟩) rfl (Eq.trans ?_ delivers.symm)
      rename_i stored
      cases stored with
      | true => rfl
      | false => rfl
  | free | release | conclude =>
      rw [answer_release]
      exact recorded.keep moved (.inl (release_cached _)) (congrArg Option.join (release_row _))
        delivers.symm
  | store =>
      rename_i token body cached
      -- The row is there since the request inserted it, so the update reaches it.
      obtain ⟨row, filed⟩ := Option.isSome_iff_exists.mp story.2.2
      have stores : (requests.shared.row.map fun _ => some (⟨body, created⟩ : Response)).join =
          some ⟨body, created⟩ := by
        rw [filed]
        rfl
      have knows : answer prior requests.shared = some ⟨body, created⟩ := story.2.1
      refine ⟨recorded.cached, ?_, ?_⟩
      · intro response same
        exact .inl (knows.trans (stores.symm.trans same))
      · intro response same
        exact .inr (.inl (stores.trans (knows.symm.trans same)))
  | succeed body =>
      have unknown : answer prior requests.shared = none := story.2.1
      have knows : answer prior (requests.shared.note who (.handlerReturned body)) =
          some ⟨body, created⟩ := answer_succeed unknown
      rw [knows]
      refine ⟨?_, ?_, ?_⟩
      · intro response cached
        have known := recorded.cached response cached
        rw [unknown] at known
        cases known
      · intro response stored
        have absent := found (Option.some_ne_none _) rfl rfl
        rw [unknown] at absent
        cases absent.symm.trans stored
      · intro response same
        refine .inr (.inr ⟨who, ?_⟩)
        change (Function.update requests.phase who _ who).delivers = _
        rw [Function.update_self]
        exact same
  | giveUp | start | throw | respond | answer | refuse =>
      rw [answer_note rfl]
      exact recorded.keep moved (.inl rfl) rfl delivers.symm
  | insert => exact recorded.keep moved (.inl rfl) (Option.join_some ..) delivers.symm
  | _ => exact recorded.keep moved (.inl rfl) rfl delivers.symm

end Record

/-! ### The stories -/

section Stories

variable {requests : Requests} {who : ProcessId} {shared : Shared} {later : Phase}
  {prior known : Option Response} {notes : List Note} {filed : Bool} {phase : Phase}

theorem Concluded.mono {latest : Option Response} (concluded : Concluded known notes)
    (knows : latest = known ∨ known = none) : Concluded latest notes := by
  cases concluded with
  | replayed response recorded =>
      rcases knows with rfl | unknown
      · exact .replayed response recorded
      · rw [unknown] at recorded
        cases recorded
  | handled body recorded =>
      rcases knows with rfl | unknown
      · exact .handled body recorded
      · rw [unknown] at recorded
        cases recorded
  | failed error => exact .failed error
  | conflict => exact .conflict

/-- What is true of a request stays true while others move. -/
theorem Story.mono {latest : Option Response} {kept : Bool} (story : phase.Story known filed notes)
    (knows : latest = known ∨ known = none ∧ phase.token = none)
    (keeps : filed = true → kept = true) :
    phase.Story latest kept notes := by
  cases phase with
  | absent | arrived | locking | polling | looking _ => exact story
  | throwing _ _ | refusing _ => exact story
  | ended => exact Concluded.mono story (knows.imp_right And.left)
  | answering response =>
      rcases knows with rfl | ⟨unknown, _⟩
      · exact story
      · obtain ⟨_, stored, recorded, _⟩ := story
        rw [unknown] at recorded
        cases recorded
  | restoring _ _ | freeing _ _ | preparing _ =>
      rcases knows with rfl | ⟨_, free⟩
      · exact story
      · cases free
  | starting _ | handling _ _ | returned _ _ | persisting _ _ _ _ =>
      rcases knows with rfl | ⟨_, free⟩
      · exact ⟨story.1, story.2.1, keeps story.2.2⟩
      · cases free

/-- What a request learns and what is noted about it, move by move. -/
theorem Story.advance (sound : requests.Sound prior)
    (advance : Advance who requests.shared (requests.phase who) shared later) :
    later.Story (answer prior shared) shared.row.isSome (notesOf who shared.journal) := by
  have story := sound.stories who
  have found := sound.recorded.found sound.locked who
  generalize requests.phase who = phase at advance story found
  have noted : ∀ note, notesOf who (requests.shared.note who note).journal =
      notesOf who requests.shared.journal ++ [note] := fun _ => notesOf_append_self
  cases advance with
  | readHit hit | pollHit hit => exact ⟨story, _, sound.recorded.cached _ hit, rfl⟩
  | readMiss | lock | wait | pollMiss => exact story
  | find stored =>
      have known := found (Option.some_ne_none _) rfl rfl
      exact ⟨story, known.symm.trans stored⟩
  | miss unknown =>
      have known := found (Option.some_ne_none _) rfl rfl
      exact ⟨story, known.symm.trans unknown⟩
  | restore | clock | work => exact story
  | free =>
      rw [answer_release, release_journal]
      exact ⟨story.1, _, story.2, rfl⟩
  | insert => exact ⟨story.1, story.2, rfl⟩
  | start =>
      rw [answer_note rfl, noted, story.1]
      exact ⟨rfl, story.2⟩
  | succeed body =>
      rw [answer_succeed story.2.1, noted, story.1]
      exact ⟨rfl, rfl, story.2.2⟩
  | throw error =>
      rw [noted, story.1]
      exact rfl
  | release =>
      rw [release_journal]
      exact story
  | respond =>
      rw [answer_note rfl, noted, story.1]
      exact ⟨rfl, story.2⟩
  | cache => exact story
  | store => exact ⟨story.1, story.2.1, (Option.isSome_map ..).trans story.2.2⟩
  | conclude =>
      rw [answer_release, release_journal, story.1]
      exact .handled _ story.2.1
  | giveUp =>
      change notesOf who requests.shared.journal = [] at story
      rw [noted, story]
      exact .conflict
  | answer =>
      obtain ⟨blank, stored, recorded, rfl⟩ := story
      rw [answer_note rfl, noted, blank]
      exact .replayed stored recorded
  | refuse =>
      change notesOf who requests.shared.journal = _ at story
      rw [noted, story]
      exact .failed _

/-- While nothing is recorded, a handler that was started has thrown or still runs. -/
theorem Story.thrown (story : phase.Story none filed notes) (started : .handlerStarted ∈ notes) :
    (∃ error, .handlerThrew error ∈ notes) ∨ phase.token ≠ none ∧
    ∀ token, phase ≠ .starting token := by
  cases phase with
  | absent | arrived | locking | polling | looking _ =>
      rw [show notes = [] from story] at started
      cases started
  | answering _ | restoring _ _ | freeing _ _ | preparing _ | starting _ =>
      rw [story.1] at started
      cases started
  | handling token opened => exact .inr ⟨Option.some_ne_none token, fun _ absurd => by cases absurd⟩
  | throwing _ error | refusing error =>
      refine .inl ⟨error, ?_⟩
      rw [show notes = [.handlerStarted, .handlerThrew error] from story]
      simp
  | returned _ _ | persisting _ _ _ _ => cases story.2.1
  | ended =>
      cases story with
      | replayed _ recorded => cases recorded
      | handled _ recorded => cases recorded
      | failed error => exact .inl ⟨error, by simp⟩
      | conflict => simp at started

/-- A move notes down at most one thing, about the request that moves. The start and the
result of a handler are noted while it holds the lock and nothing is recorded. -/
theorem Advance.journal (sound : requests.Sound prior)
    (advance : Advance who requests.shared (requests.phase who) shared later) :
    shared.journal = requests.shared.journal ∨
      ∃ note, shared.journal = requests.shared.journal ++ [(who, note)] ∧
        (note = .handlerStarted → answer prior requests.shared = none ∧
          ∃ token, requests.phase who = .starting token) ∧
        (note.result ≠ none → answer prior requests.shared = none ∧
          (requests.phase who).token ≠ none) := by
  have story := sound.stories who
  generalize requests.phase who = phase at advance story
  cases advance with
  | giveUp | throw | respond | answer | refuse =>
      exact .inr ⟨_, rfl, fun absurd => (by cases absurd), fun absurd => (absurd rfl).elim⟩
  | start => exact .inr ⟨_, rfl, fun _ => ⟨story.2.1, _, rfl⟩, fun absurd => (absurd rfl).elim⟩
  | succeed =>
      exact .inr ⟨_, rfl, fun absurd => (by cases absurd), fun _ =>
        ⟨story.2.1, Option.some_ne_none _⟩⟩
  | free | release | conclude => exact .inl (release_journal _)
  | _ => exact .inl rfl

/-- The row of the key stays. -/
theorem Advance.files (advance : Advance who requests.shared phase shared later)
    (filed : requests.shared.row.isSome = true) : shared.row.isSome = true := by
  cases advance with
  | free | release | conclude => rw [release_row, filed]
  | insert => rfl
  | store => exact (Option.isSome_map ..).trans filed
  | _ => exact filed

/-- The story of another request goes on. -/
theorem Sound.other (sound : requests.Sound prior)
    (advance : Advance who requests.shared (requests.phase who) shared later) {other : ProcessId}
    (differs : other ≠ who) :
    (requests.phase other).Story (answer prior shared) shared.row.isSome
      (notesOf other shared.journal) := by
  have story := sound.stories other
  have filed := Advance.files advance
  rcases Advance.journal sound advance with same | ⟨note, same, _, reports⟩
  · rw [same]
    refine Story.mono story (.inl ?_) filed
    unfold answer
    rw [same]
  · rw [same, notesOf_append_other differs]
    refine Story.mono story ?_ filed
    cases result : note.result with
    | none =>
        refine .inl ?_
        unfold answer
        rw [same, results_append, result, Option.toList_none, List.append_nil]
    | some response =>
        have reported : note.result ≠ none := by
          rw [result]
          exact Option.some_ne_none response
        obtain ⟨unknown, holding⟩ := reports reported
        refine .inr ⟨unknown, ?_⟩
        by_contra busy
        exact differs (sound.locked.unique other who busy holding)

/-- When a handler starts, every handler that started before has thrown. -/
theorem Sound.thrown (sound : requests.Sound prior) (unknown : answer prior requests.shared = none)
    {token : LockToken} (starting : requests.phase who = .starting token) {other : ProcessId}
    (started : (other, .handlerStarted) ∈ requests.shared.journal) :
    ∃ error, (other, .handlerThrew error) ∈ requests.shared.journal := by
  have story := sound.stories other
  rw [unknown] at story
  rcases Story.thrown story (mem_notesOf.mpr started) with ⟨error, thrown⟩ | ⟨busy, elsewhere⟩
  · exact ⟨error, mem_notesOf.mp thrown⟩
  · have holding : (requests.phase who).token ≠ none := by
      rw [starting]
      exact Option.some_ne_none token
    have same := sound.locked.unique other who busy holding
    exact (elsewhere token (same ▸ starting)).elim

theorem Sound.advance (sound : requests.Sound prior)
    (advance : Advance who requests.shared (requests.phase who) shared later) :
    Sound prior ⟨shared, Function.update requests.phase who later⟩ := by
  refine ⟨sound.locked.advance advance,
    sound.recorded.advance sound.locked (sound.stories who) advance, ?_, ?_, ?_⟩
  · intro other
    by_cases own : other = who
    · subst own
      change (Function.update requests.phase other later other).Story _ _ _
      rw [Function.update_self]
      exact Story.advance sound advance
    · change (Function.update requests.phase who later other).Story _ _ _
      rw [Function.update_of_ne own]
      exact sound.other advance own
  · rcases Advance.journal sound advance with same | ⟨note, same, starts, _⟩
    · exact same.symm ▸ sound.ordered
    · refine same.symm ▸ sound.ordered.append fun started => ?_
      obtain ⟨unknown, token, starting⟩ := starts started
      exact ⟨fun other => sound.thrown unknown starting, (answer_eq_none unknown).2⟩
  · rcases Advance.journal sound advance with same | ⟨note, same, _, reports⟩
    · exact same.symm ▸ sound.once
    · change (results shared.journal).length ≤ 1
      rw [same, results_append]
      cases result : note.result with
      | none =>
          rw [Option.toList_none, List.append_nil]
          exact sound.once
      | some response =>
          have reported : note.result ≠ none := by
            rw [result]
            exact Option.some_ne_none response
          rw [(answer_eq_none (reports reported).1).2]
          exact Nat.le_refl 1

/-- A request that arrives holds nothing and has no notes yet. -/
theorem Sound.arrive (sound : requests.Sound prior) (absent : requests.phase who = .absent) :
    Sound prior ⟨requests.shared, Function.update requests.phase who .arrived⟩ := by
  have settled : requests.Frozen →
      Frozen ⟨requests.shared, Function.update requests.phase who .arrived⟩ := by
    intro frozen
    refine ⟨frozen.1, fun other => ?_⟩
    change (Function.update requests.phase who .arrived other).settled = true
    by_cases own : other = who
    · rw [own, Function.update_self]
      rfl
    · rw [Function.update_of_ne own]
      exact frozen.2 other
  refine ⟨sound.locked.keep rfl (congrArg Phase.token absent).symm, ⟨?_, ?_, ?_⟩, ?_,
    sound.ordered, sound.once⟩
  · exact sound.recorded.cached
  · intro response stored
    exact (sound.recorded.stored response stored).imp_right settled
  · intro response knows
    rcases sound.recorded.kept response knows with frozen | found | ⟨other, delivering⟩
    · exact .inl (settled frozen)
    · exact .inr (.inl found)
    · refine .inr (.inr ⟨other, ?_⟩)
      have differs : other ≠ who := by
        intro same
        rw [same, absent] at delivering
        cases delivering
      exact (congrArg Phase.delivers (Function.update_of_ne differs ..)).trans delivering
  · intro other
    have story := sound.stories other
    change (Function.update requests.phase who .arrived other).Story _ _ _
    by_cases own : other = who
    · subst own
      rw [absent] at story
      rw [Function.update_self]
      exact story
    · rw [Function.update_of_ne own]
      exact story

theorem Step.sound {first last : Requests} (step : Step first last) (sound : first.Sound prior) :
    last.Sound prior := by
  cases step with
  | arrive who absent => exact sound.arrive absent
  | advance who advance => exact sound.advance advance

theorem Steps.sound {first last : Requests} (steps : Steps first last) (sound : first.Sound prior) :
    last.Sound prior := by
  induction steps with
  | refl => exact sound
  | tail _ step ih => exact step.sound ih

/-- The invariant holds at the start; the recorded response is the one found there. -/
theorem Initial.sound (initial : requests.Initial) :
    requests.Sound requests.shared.recalled := by
  have known : answer requests.shared.recalled requests.shared = requests.shared.recalled := by
    unfold answer
    rw [initial.journal]
    cases requests.shared.recalled <;> rfl
  have token : ∀ who, (requests.phase who).token = none := by
    intro who
    rw [initial.phase]
    rfl
  have locked : requests.Locked := by
    refine ⟨?_, ?_, fun first _ holding _ => (holding (token first)).elim⟩
    · intro who held holds
      rw [token] at holds
      cases holds
    · intro held taken
      rw [initial.lock] at taken
      cases taken
  have frozen : ∀ response, requests.shared.cached = some response → requests.Frozen := by
    intro response cached
    refine ⟨fun absent => ?_, fun who => ?_⟩
    · rw [absent] at cached
      cases cached
    · rw [initial.phase]
      rfl
  have recorded : requests.Recorded requests.shared.recalled := by
    unfold Shared.recalled
    cases cached : requests.shared.cached with
    | some response =>
        refine ⟨fun _ same => ?_, fun _ _ => .inr (frozen response cached),
          fun _ _ => .inl (frozen response cached)⟩
        rw [← same, cached]
        rfl
    | none =>
        refine ⟨fun _ same => ?_, fun _ stored => .inl stored, fun _ knows => .inr (.inl knows)⟩
        rw [cached] at same
        cases same
  refine ⟨locked, known.symm ▸ recorded, ?_, ?_, ?_⟩
  · intro who
    rw [initial.phase, initial.journal]
    exact rfl
  · intro before who after same
    rw [initial.journal] at same
    exact (List.append_ne_nil_of_right_ne_nil _ (List.cons_ne_nil _ _) same.symm).elim
  · rw [initial.journal]
    exact Nat.zero_le 1

/-- When every request has ended, the lock is free and the recorded response is found. -/
theorem Sound.quiet (sound : requests.Sound prior)
    (quiet : ∀ who, requests.phase who = .absent ∨ requests.phase who = .ended) :
    requests.shared.lock = none ∧ requests.shared.recalled = answer prior requests.shared := by
  constructor
  · cases taken : requests.shared.lock with
    | none => rfl
    | some token =>
        obtain ⟨who, holds⟩ := sound.locked.held token taken
        rcases quiet who with absent | ended
        · rw [absent] at holds
          cases holds
        · rw [ended] at holds
          cases holds
  · unfold Shared.recalled
    cases cached : requests.shared.cached with
    | some response => exact (sound.recorded.cached response cached).symm
    | none =>
        have thawed : ¬ requests.Frozen := fun frozen => frozen.1 cached
        change requests.shared.row.join = _
        cases stored : requests.shared.row.join with
        | some response => exact ((sound.recorded.stored response stored).resolve_right thawed).symm
        | none =>
            cases knows : answer prior requests.shared with
            | none => rfl
            | some response =>
                rcases sound.recorded.kept response knows with frozen | found | ⟨who, delivering⟩
                · exact (thawed frozen).elim
                · rw [stored] at found
                  cases found
                · rcases quiet who with absent | ended
                  · rw [absent] at delivering
                    cases delivering
                  · rw [ended] at delivering
                    cases delivering

end Stories
end Requests

end IdempotencyInterceptor
end Payroute
