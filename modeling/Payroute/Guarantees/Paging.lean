import Payroute.Books.Answers
import Payroute.Data.Paging
import Payroute.Guarantees.Quotes
import Payroute.Runs.Processes
import Payroute.Runs.Recovery
import Payroute.Runs.Schedules

/-! # Reading a listing to its end

A client fetches the pages of a dated listing one after another while operations,
workers, requests, listings and statistics run, any of their calls may fail before or
after it took effect, and processes may die. Payments are inserted anywhere in the order,
since a transaction may commit long after its payment got its date, but none is ever
removed, so that the client misses no payment that was there when it began.
-/

namespace Payroute

open EffectSystem KeyedTable PaymentsService

/-- A free process answers each request, and the next one follows any time later. -/
inductive ListingWalk (deployment : Deployment) (dto : ListPaymentsDto)
    (start : Pool ProcessId Failure Operation.Reply World) :
    List PaymentsPage → Pool ProcessId Failure Operation.Reply World → Prop
  | first {who : ProcessId} {choices : List Delivery} {answer : PaymentsPage}
      (free : start.running who = none)
      (answered : (backend.run who (findAll deployment { dto with page := 1 }) choices
        start.shared).outcome = .ok answer) : ListingWalk deployment dto start [answer] start
  | more {pages : List PaymentsPage} {pool later : Pool ProcessId Failure Operation.Reply World}
      {who : ProcessId} {choices : List Delivery} {answer : PaymentsPage}
      (walk : ListingWalk deployment dto start pages pool)
      (moved : Pool.Steps backend (surroundings fun _ => Activity deployment) pool later)
      (free : later.running who = none)
      (answered : (backend.run who (findAll deployment { dto with page := pages.length + 1 })
        choices later.shared).outcome = .ok answer) :
      ListingWalk deployment dto start (pages ++ [answer]) later

/-! ## One request -/

section Requests

variable {deployment : Deployment} {dto : ListPaymentsDto} {world : World} {who : ProcessId}
  {choices : List Delivery} {answer : PaymentsPage}

/-- The query of a listing. -/
def listQuery (deployment : Deployment) (dto : ListPaymentsDto) : Query :=
  .payments (listFilter deployment dto) ((pageOf dto - 1) * limitOf dto) (limitOf dto)

/-- A listing with a date is one query. -/
theorem PaymentsService.findAll_dated (dated : ¬ Dateless dto) :
    findAll deployment dto = (Program.perform (.sql (.select (listQuery deployment dto)))).bind
      fun found => .ret (pageResult dto found.1 found.2) := by
  unfold findAll
  rw [if_neg dated]
  refine congrArg (Program.bind _) (funext fun found => ?_)
  change (if Dateless dto then _ else _) = _
  rw [if_neg dated]
  rfl

theorem PaymentsService.findAll_answered (dated : ¬ Dateless dto)
    (closed : world.sessions who = none) :
    (backend.run who (findAll deployment dto) [] world).outcome =
      .ok (world.db.page deployment dto) := by
  have replied : (backend.exec who ([] : List Delivery).headI
      (.sql (.select (listQuery deployment dto))) world).1 = _ :=
    congrArg Prod.fst (World.perform_query closed (listQuery deployment dto))
  rw [findAll_dated dated, Machine.run_perform_bind, replied]
  rfl

theorem PaymentsService.page_of_answer (dated : ¬ Dateless dto)
    (closed : world.sessions who = none)
    (answered : (backend.run who (findAll deployment dto) choices world).outcome = .ok answer) :
    answer = world.db.page deployment dto := by
  rw [findAll_dated dated, Machine.run_perform_bind] at answered
  cases replied : (backend.exec who choices.headI
      (.sql (.select (listQuery deployment dto))) world).1 with
  | error error =>
      rw [replied] at answered
      cases answered
  | ok found =>
      rw [replied] at answered
      cases answered
      have ran := congrArg Prod.fst (World.exec_of_ok replied)
      have read := replied.symm.trans (ran.trans
        (congrArg Prod.fst (World.perform_query closed (listQuery deployment dto))))
      rw [Except.ok.inj read]
      rfl

/-- The payments on a page. -/
theorem Database.page_payments (db : Database) (deployment : Deployment) (dto : ListPaymentsDto) :
    (db.page deployment dto).data.map ListedPayment.payment =
      Paging.page (db.listed (listFilter deployment dto)) (limitOf dto) (pageOf dto) := by
  change (List.map db.withAccounts _).map ListedPayment.payment = _
  rw [List.map_map]
  exact List.map_id _

/-- The last page is reached. -/
theorem Database.page_ends {db : Database} {number : Nat}
    (ended : (db.page deployment dto).pagination.totalPages ≤ number) :
    (db.listed (listFilter deployment dto)).length ≤ number * limitOf dto := by
  have positive : 0 < limitOf dto := by
    unfold limitOf
    split <;> omega
  have pages : ((db.listed (listFilter deployment dto)).length + limitOf dto - 1) / limitOf dto ≤
    number := ended
  have ceiling := (Nat.div_le_iff_le_mul_add_pred positive).mp pages
  rw [Nat.mul_comm] at ceiling
  omega

end Requests

/-! ## The listing over time -/

section Listings

variable {first second : Database} (filter : PaymentFilter)

theorem Database.listed_descending (db : Database) :
    Paging.Descending Transaction.createdAt (db.listed filter) := by
  have total : Std.Total fun first second : Transaction =>
      second.createdAt ≤ first.createdAt := ⟨fun first second => Nat.le_total _ _⟩
  have transitive : IsTrans Transaction fun first second =>
      second.createdAt ≤ first.createdAt := ⟨fun _ _ _ left right => right.trans left⟩
  exact List.pairwise_insertionSort _ _

theorem Database.listed_distinct (db : Database) :
    ((db.listed filter).map Transaction.id).Nodup := by
  have sorted := List.perm_insertionSort (fun first second : Transaction =>
    second.createdAt ≤ first.createdAt)
    (db.transactions.rows.filter fun row => decide (filter.Selects row))
  refine (sorted.map Transaction.id).nodup_iff.mpr ?_
  exact db.transactions.nodup.sublist (List.filter_sublist.map _)

theorem Database.mem_listed {db : Database} {filter : PaymentFilter} {row : Transaction} :
    row ∈ db.listed filter ↔ row ∈ db.transactions.rows ∧ filter.Selects row := by
  unfold Database.listed
  rw [List.mem_insertionSort, List.mem_filter, decide_eq_true_iff]

/-- A listing of any status only grows. -/
theorem Database.Persists.listed (persists : first.Persists second)
    (anyStatus : filter.status = none) :
    Paging.Grows Transaction.id Transaction.createdAt (first.listed filter)
      (second.listed filter) := by
  intro row member
  obtain ⟨there, _, within⟩ := Database.mem_listed.mp member
  have found : first.transactions.get? row.id = some row := Table.get?_of_mem there
  obtain ⟨later, current, terms⟩ := persists.transaction row.id row found
  have made : later.terms.createdAt = row.terms.createdAt :=
    congrArg Transaction.createdAt terms
  have named : later.terms.id = row.terms.id := congrArg Transaction.id terms
  refine ⟨later, Database.mem_listed.mpr ⟨Table.mem_of_get? current, ?_, ?_⟩, named, made⟩
  · rw [anyStatus]
    exact fun _ => nofun
  · exact made ▸ within

end Listings

/-! ## The walk -/

section Walk

variable {deployment : Deployment} {initial : World} {dto : ListPaymentsDto}
  {start last : Pool ProcessId Failure Operation.Reply World} {pages : List PaymentsPage}

/-- A request is answered with a page of the tables as they are. -/
theorem ListingWalk.answered (rest : initial.AtRest)
    (reached : Pool.Reachable backend (surroundings fun _ => Activity deployment) initial last)
    (dated : ¬ Dateless dto) {who : ProcessId} (free : last.running who = none) {number : Nat}
    {choices : List Delivery} {answer : PaymentsPage}
    (answered : (backend.run who (findAll deployment { dto with page := number + 1 }) choices
      last.shared).outcome = .ok answer) :
    answer = last.shared.db.page deployment { dto with page := number + 1 } ∧
      answer.data.map ListedPayment.payment = Paging.page
        (last.shared.db.listed (listFilter deployment dto)) (limitOf dto) (number + 1) := by
  have closed := (Activity.valid_reachable rest reached).resting who free
  have asked : ¬ Dateless { dto with page := number + 1 } := dated
  obtain rfl := page_of_answer asked closed answered
  exact ⟨rfl, Database.page_payments _ _ _⟩

/-- What the client sees is a walk through the listing. -/
theorem ListingWalk.paging (rest : initial.AtRest)
    (reached : Pool.Reachable backend (surroundings fun _ => Activity deployment) initial start)
    (dated : ¬ Dateless dto) (walk : ListingWalk deployment dto start pages last) :
    Pool.Reachable backend (surroundings fun _ => Activity deployment) initial last ∧
      Paging.Walk (fun before after =>
          Pool.Reachable backend (surroundings fun _ => Activity deployment) initial before ∧
            Pool.Steps backend (surroundings fun _ => Activity deployment) before after)
        (fun pool => pool.shared.db.listed (listFilter deployment dto)) (limitOf dto) start
        (pages.map fun answer => answer.data.map ListedPayment.payment) last ∧
      ∀ answer ∈ pages.getLast?,
        answer = last.shared.db.page deployment { dto with page := pages.length } := by
  induction walk with
  | @first who choices answer free answered =>
      have answered : (backend.run who (findAll deployment { dto with page := 0 + 1 }) choices
        start.shared).outcome = .ok answer := answered
      obtain ⟨page, shown⟩ := ListingWalk.answered rest reached dated free answered
      refine ⟨reached, ?_, fun found same => ?_⟩
      · rw [List.map_singleton, shown]
        exact .first
      · obtain rfl := Option.some.inj same
        exact page
  | @more pages pool later who choices answer _ moved free answered ih =>
      obtain ⟨before, walk, _⟩ := ih
      have arrived := before.trans moved
      obtain ⟨page, shown⟩ := ListingWalk.answered rest arrived dated free answered
      refine ⟨arrived, ?_, fun found same => ?_⟩
      · rw [List.map_append, List.map_singleton, shown]
        have further := walk.more ⟨before, moved⟩
        rw [List.length_map] at further
        exact further
      · rw [List.getLast?_append, List.getLast?_singleton] at same
        obtain rfl := Option.some.inj same
        rw [List.length_append, List.length_singleton]
        exact page

end Walk

/-- **A listing is read completely.** Whatever runs between the requests, a client who
fetches the pages of a dated listing of any status up to the last one is shown every
payment that was there when it began, provided no other payment has the same date. -/
theorem listing_complete {deployment : Deployment} {initial : World} (rest : initial.AtRest)
    {start last : Pool ProcessId Failure Operation.Reply World}
    (reached : Pool.Reachable backend (surroundings fun _ => Activity deployment) initial start)
    {dto : ListPaymentsDto} (dated : ¬ Dateless dto) (anyStatus : dto.status = none)
    {pages : List PaymentsPage} (walk : ListingWalk deployment dto start pages last)
    (ended : ∀ answer ∈ pages.getLast?, answer.pagination.totalPages ≤ pages.length)
    {row : Transaction} (member : row ∈ start.shared.db.transactions.rows)
    (selected : (listFilter deployment dto).Within row.createdAt)
    (alone : ∀ other ∈ last.shared.db.transactions.rows,
      other.createdAt = row.createdAt → other.id = row.id) :
    ∃ answer ∈ pages, ∃ shown ∈ answer.data, shown.payment.id = row.id := by
  obtain ⟨_, paging, final⟩ := walk.paging rest reached dated
  have status : (listFilter deployment dto).status = none := anyStatus
  have listed : row ∈ start.shared.db.listed (listFilter deployment dto) := by
    refine Database.mem_listed.mpr ⟨member, ?_, selected⟩
    rw [status]
    exact fun _ => nofun
  have covered : (last.shared.db.listed (listFilter deployment dto)).length ≤
      (pages.map fun answer => answer.data.map ListedPayment.payment).length * limitOf dto := by
    rw [List.length_map]
    have some_page : pages ≠ [] := by
      cases walk with
      | first => exact List.cons_ne_nil _ _
      | more => exact List.append_ne_nil_of_right_ne_nil _ (List.cons_ne_nil _ _)
    have answer := final _ (List.getLast?_eq_some_getLast some_page)
    have ends := ended _ (List.getLast?_eq_some_getLast some_page)
    rw [answer] at ends
    exact Database.page_ends ends
  have steps : ∀ before after : Pool ProcessId Failure Operation.Reply World,
      Pool.Reachable backend (surroundings fun _ => Activity deployment) initial before ∧
        Pool.Steps backend (surroundings fun _ => Activity deployment) before after →
      Paging.Grows Transaction.id Transaction.createdAt
        (before.shared.db.listed (listFilter deployment dto))
        (after.shared.db.listed (listFilter deployment dto)) := fun before after moved =>
    (Activity.steps_persist (Activity.valid_reachable rest moved.1) moved.2).1.listed _ status
  obtain ⟨page, fetched, met, there, same⟩ := paging.meets steps
    (fun pool => Database.listed_descending _ _) (fun pool => Database.listed_distinct _ _) listed
    (fun other present => alone other (Database.mem_listed.mp present).1) covered
  obtain ⟨answer, received, rfl⟩ := List.mem_map.mp fetched
  obtain ⟨shown, present, rfl⟩ := List.mem_map.mp there
  exact ⟨answer, received, shown, present, same⟩

/-! ## Payments between the requests -/

/-- A client has paid. -/
def listedFirst : Pool ProcessId Failure Operation.Reply World :=
  takeTurns backend sampleDeployment
    [{ who := 0, starts := some (.createPayment samplePayment "first") }] (Pool.quiet sampleWorld)

/-- A millisecond later. -/
def listedPause : Pool ProcessId Failure Operation.Reply World :=
  ⟨listedFirst.shared.elapse 1000 (fun _ => true) (fun _ => false) listedFirst.shared.jobs,
    listedFirst.running⟩

/-- Another client has paid. -/
def listedPool : Pool ProcessId Failure Operation.Reply World :=
  takeTurns backend sampleDeployment
    [{ who := 1, starts := some (.createPayment samplePayment "second") }] listedPause

/-- A third client has paid. -/
def listedLater : Pool ProcessId Failure Operation.Reply World :=
  takeTurns backend sampleDeployment
    [{ who := 2, starts := some (.createPayment samplePayment "third") }] listedPool

def sampleListing : ListPaymentsDto where
  startDate := some (.date 0)
  limit := 1

/-- The answers to three requests; the third payment comes between the first two. -/
def sampleAnswers : List PaymentsPage :=
  [listedPool.shared.db.page sampleDeployment { sampleListing with page := 1 },
    listedLater.shared.db.page sampleDeployment { sampleListing with page := 2 },
    listedLater.shared.db.page sampleDeployment { sampleListing with page := 3 }]

theorem listedPool_reached : Pool.Reachable backend
    (surroundings fun _ => Activity sampleDeployment) sampleWorld listedPool := by
  have first : Pool.Steps backend (surroundings fun _ => Activity sampleDeployment)
      (Pool.quiet sampleWorld) listedFirst :=
    takeTurns_activities (by decide +kernel) (by simp)
  have queued : Queued listedFirst.shared.jobs listedFirst.shared.jobs :=
    fun job member => ⟨job, member, rfl, rfl, rfl⟩
  have pause : Pool.Step backend (surroundings fun _ => Activity sampleDeployment) listedFirst
      listedPause := .drift _ (World.elapses_elapse queued 1000 _ _)
  exact (first.tail pause).trans (takeTurns_activities (by decide +kernel) (by simp))

theorem sampleAnswers_walk :
    ListingWalk sampleDeployment sampleListing listedPool sampleAnswers listedLater := by
  have dated : ∀ number, ¬ Dateless { sampleListing with page := number } := by
    intro number dateless
    cases dateless.1
  have moved : Pool.Steps backend (surroundings fun _ => Activity sampleDeployment) listedPool
      listedLater := takeTurns_activities (by decide +kernel) (by simp)
  have before := (Activity.valid_reachable sampleWorld_atRest listedPool_reached).resting 3
    (by decide +kernel)
  have after := (Activity.valid_reachable sampleWorld_atRest
    (listedPool_reached.trans moved)).resting 3 (by decide +kernel)
  exact ((ListingWalk.first (by decide +kernel) (findAll_answered (dated 1) before)).more
    moved (by decide +kernel) (findAll_answered (dated 2) after)).more .refl (by decide +kernel)
    (findAll_answered (dated 3) after)

/-- The first payment is the last one shown. -/
theorem listing_complete_sample :
    (sampleAnswers.map fun answer => answer.data.map fun shown => shown.payment.id) =
        [[1], [2], [0]] ∧
      ∃ answer ∈ sampleAnswers, ∃ shown ∈ answer.data, shown.payment.id = 0 := by
  have dated : ¬ Dateless sampleListing := fun dateless => by cases dateless.1
  have stored : (listedPool.shared.db.transactions.get? 0).map (fun row =>
    (row.id, row.createdAt)) = some (0, 0) := by decide +kernel
  obtain ⟨row, found, same⟩ := Option.map_eq_some_iff.mp stored
  obtain ⟨id, made⟩ := Prod.mk.inj same
  refine ⟨by decide +kernel, ?_⟩
  have shown := listing_complete sampleWorld_atRest listedPool_reached dated rfl
    sampleAnswers_walk (by decide +kernel) (Table.mem_of_get? found)
    (by rw [made]; decide) (by rw [made, id]; decide +kernel)
  rw [id] at shown
  exact shown

end Payroute
