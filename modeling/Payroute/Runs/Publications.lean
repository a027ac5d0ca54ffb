import Payroute.Runs.Concurrent

/-! # Publications

What leaves the payment tables: the jobs of the provider queue, the callbacks the
provider has scheduled, the emitted events, the payments in cached responses and pages,
the responses recorded under idempotency keys and those sent to clients. Each of them is
about a payment, and a call adds none but its own.
-/

namespace Payroute

open EffectSystem KeyedTable

/-! ## Payments the tables hold -/

/-- The tables hold the payment, whatever became of its status, its reference and its
completion. -/
def Database.Holds (db : Database) (row : Transaction) : Prop :=
  ∃ current, db.transactions.get? row.id = some current ∧ current.terms = row.terms

/-- A payment that is written has the terms of the version it replaces. -/
def Write.KeepsTerms (db : Database) : Write → Prop
  | .transaction row => ∀ current, db.transactions.get? row.id = some current →
      row.terms = current.terms
  | _ => True

namespace Database

variable {db first second : Database} {row : Transaction} {version : Write}

/-- A stored payment is held. -/
theorem holds_of_get? {id : TransactionId} (found : db.transactions.get? id = some row) :
    db.Holds row := by
  have named : row.id = id := Table.key_of_get? found
  exact ⟨row, by rw [named]; exact found, rfl⟩

/-- So is a listed one. -/
theorem holds_of_mem (member : row ∈ db.transactions.rows) : db.Holds row :=
  holds_of_get? (Table.get?_of_mem member)

/-- What is held stays held while rows persist. -/
theorem Holds.persists (holds : first.Holds row) (persists : first.Persists second) :
    second.Holds row := by
  obtain ⟨current, found, terms⟩ := holds
  obtain ⟨later, there, kept⟩ := persists.transaction row.id current found
  exact ⟨later, there, kept.trans terms⟩

/-- So it does over a write that keeps the terms of payments. -/
theorem Holds.write (holds : db.Holds row) (keeps : version.KeepsTerms db) :
    (db.write version).Holds row := by
  cases version with
  | transaction written =>
      obtain ⟨current, found, terms⟩ := holds
      by_cases same : row.id = written.id
      · rw [same] at found
        refine ⟨written, ?_, (keeps current found).trans terms⟩
        rw [same]
        exact Table.get?_put_self _ _
      · exact ⟨current, (Table.get?_put_of_ne _ same).trans found, terms⟩
  | _ => exact holds

/-- What a write leaves held depends only on what was held. -/
theorem holds_write (keeps : ∀ row, first.Holds row → second.Holds row) (version : Write)
    (holds : (first.write version).Holds row) : (second.write version).Holds row := by
  cases version with
  | transaction written =>
      obtain ⟨current, found, terms⟩ := holds
      change (first.transactions.put written).get? row.id = some current at found
      by_cases same : row.id = written.id
      · rw [same, show written.id = key written from rfl, Table.get?_put_self] at found
        cases found
        refine ⟨written, ?_, terms⟩
        rw [same]
        exact Table.get?_put_self _ _
      · rw [Table.get?_put_of_ne _ same] at found
        obtain ⟨later, there, kept⟩ := keeps row ⟨current, found, terms⟩
        exact ⟨later, (Table.get?_put_of_ne _ same).trans there, kept⟩
  | _ => exact keeps row holds

/-- What a log leaves held depends only on what was held. -/
theorem holds_replay (keeps : ∀ row, first.Holds row → second.Holds row) (log : List Write)
    (holds : (first.replay log).Holds row) : (second.replay log).Holds row := by
  induction log generalizing first second with
  | nil => exact keeps row holds
  | cons version rest ih => exact ih (fun _ => holds_write keeps version) holds

end Database

/-! ## What is published about a payment -/

/-- What leaves the system about a payment. -/
inductive Publication where
  | job (data : ProviderJobData)
  | callback (amount : Text) (currency : String)
  | announcement (event : PaymentEvent)
  /-- A row version shown to a client. -/
  | payment (body : Transaction)

/-- The job submits the payment on its own terms. -/
structure ProviderJobData.Describes (data : ProviderJobData) (row : Transaction) : Prop where
  transactionId : data.transactionId = row.id
  sourceAmount : numericOfText data.sourceAmount = some row.sourceAmount
  sourceCurrency : data.sourceCurrency = row.sourceCurrency
  destinationCurrency : data.destinationCurrency = row.destinationCurrency
  senderAccountId : data.senderAccountId = row.senderAccountId

/-- The event names the payment with its own amounts, currencies and accounts. -/
def PaymentEvent.Describes (row : Transaction) : PaymentEvent → Prop
  | .initiated id sender amount source destination _ =>
      id = row.id ∧ sender = row.senderAccountId ∧
        numericOfText amount = some row.sourceAmount ∧ source = row.sourceCurrency ∧
        destination = row.destinationCurrency
  | .completed id recipient amount currency _ =>
      id = row.id ∧ recipient = row.recipientAccountId ∧
        numericOfText amount = some row.destinationAmount ∧ currency = row.destinationCurrency
  | .failed id _ _ => id = row.id
  | .refunded id _ => id = row.id

/-- The publication states the payment's own data. -/
def Publication.About (row : Transaction) : Publication → Prop
  | .job data => data.Describes row
  | .callback amount currency =>
      numericOfText amount = some row.sourceAmount ∧ currency = row.sourceCurrency
  | .announcement event => event.Describes row
  | .payment body => body.terms = row.terms

/-- The tables hold a payment the publication is about. -/
def Database.Backs (db : Database) (publication : Publication) : Prop :=
  ∃ row ∈ db.transactions.rows, publication.About row

section About

variable {row current : Transaction} {publication : Publication}

/-- A publication is about the terms of a payment. -/
theorem Publication.About.of_terms (about : publication.About row)
    (same : current.terms = row.terms) : publication.About current := by
  have terms := same
  simp only [Transaction.terms, Transaction.mk.injEq, true_and, and_true] at terms
  obtain ⟨id, sender, recipient, sourceCurrency, sourceAmount, destinationCurrency,
    destinationAmount, -⟩ := terms
  cases publication with
  | job data =>
      obtain ⟨named, amount, source, destination, debited⟩ := about
      exact ⟨named.trans id.symm, by rw [sourceAmount]; exact amount,
        source.trans sourceCurrency.symm, destination.trans destinationCurrency.symm,
        debited.trans sender.symm⟩
  | callback amount currency =>
      exact ⟨by rw [sourceAmount]; exact about.1, about.2.trans sourceCurrency.symm⟩
  | announcement event =>
      cases event with
      | initiated _ _ _ _ _ _ =>
          obtain ⟨named, debited, amount, source, destination⟩ := about
          exact ⟨named.trans id.symm, debited.trans sender.symm,
            by rw [sourceAmount]; exact amount, source.trans sourceCurrency.symm,
            destination.trans destinationCurrency.symm⟩
      | completed _ _ _ _ _ =>
          obtain ⟨named, credited, amount, destination⟩ := about
          exact ⟨named.trans id.symm, credited.trans recipient.symm,
            by rw [destinationAmount]; exact amount, destination.trans destinationCurrency.symm⟩
      | failed _ _ _ | refunded _ _ => exact Eq.trans about id.symm
  | payment body => exact Eq.trans about same.symm

/-- A payment that is held backs what is about it. -/
theorem Database.Holds.backs {db : Database} (holds : db.Holds row)
    (about : publication.About row) : db.Backs publication := by
  obtain ⟨current, found, terms⟩ := holds
  exact ⟨current, Table.mem_of_get? found, about.of_terms terms⟩

/-- What is backed stays backed while rows persist. -/
theorem Database.Backs.persists {first second : Database} (backs : first.Backs publication)
    (persists : first.Persists second) : second.Backs publication := by
  obtain ⟨row, member, about⟩ := backs
  exact ((Database.holds_of_mem member).persists persists).backs about

end About

/-! ## What the world has published -/

/-- A cached value shows the payment. -/
inductive CacheValue.Shows : CacheKey → CacheValue → Publication → Prop
  | response (key : String) (body : Transaction) (statusCode : Nat) :
      Shows (.idempotency key) (.response body statusCode) (.payment body)
  | page {page limit : Nat} {status : Option TransactionStatus} {result : PaymentsPage}
      {listed : ListedPayment} (member : listed ∈ result.data) :
      Shows (.list page limit status) (.page result) (.payment listed.payment)

/-- The world has published it, and it has not been withdrawn. -/
inductive World.Publishes (world : World) : Publication → Prop
  | job {job : ProviderJob} (queued : job ∈ world.jobs.rows) : Publishes world (.job job.data)
  | callback {callback : ProviderCallback} (scheduled : callback ∈ world.callbacks) :
      Publishes world (.callback callback.amount callback.currency)
  | event {event : PaymentEvent} (emitted : event ∈ world.emitted) :
      Publishes world (.announcement event)
  | cached {key : CacheKey} {value : CacheValue} {publication : Publication}
      (cached : world.cache key = some value) (shows : value.Shows key publication) :
      Publishes world publication
  | recorded {row : IdempotencyKey} {body : Transaction}
      (stored : row ∈ world.db.idempotencyKeys.rows) (answered : row.responseBody = some body) :
      Publishes world (.payment body)
  | responded {who : ProcessId} {body : Transaction} {statusCode : Nat}
      (noted : (who, .responded body statusCode) ∈ world.journal) :
      Publishes world (.payment body)

/-- The call publishes it. -/
inductive Operation.Publishing : Operation → Publication → Prop
  | job (data : ProviderJobData) (attempts : Nat) (jobId : Option JobId) :
      Publishing (.queueAdd data attempts jobId) (.job data)
  | callback (amount : Text) (currency : String) :
      Publishing (.scheduleCallback amount currency) (.callback amount currency)
  | event (event : PaymentEvent) : Publishing (.emit event) (.announcement event)
  | cached {key : CacheKey} {value : CacheValue} {publication : Publication} (ttlMs : Nat)
      (shows : value.Shows key publication) : Publishing (.cacheSet key value ttlMs) publication
  | recorded (key : String) (body : Transaction) (statusCode : Nat) :
      Publishing (.sql (.updateKey key body statusCode)) (.payment body)
  | responded (body : Transaction) (statusCode : Nat) :
      Publishing (.observe (.responded body statusCode)) (.payment body)

/-- The second world publishes only what the first one does, and what is new. -/
structure World.Adds (new : Publication → Prop) (first second : World) : Prop where
  jobs : ∀ job ∈ second.jobs.rows,
    (∃ old ∈ first.jobs.rows, old.data = job.data) ∨ new (.job job.data)
  callbacks : ∀ callback ∈ second.callbacks,
    callback ∈ first.callbacks ∨ new (.callback callback.amount callback.currency)
  emitted : ∀ event ∈ second.emitted, event ∈ first.emitted ∨ new (.announcement event)
  cache : ∀ key value, second.cache key = some value → first.cache key = some value ∨
    ∀ publication, value.Shows key publication → new publication
  recorded : ∀ row ∈ second.db.idempotencyKeys.rows, ∀ body, row.responseBody = some body →
    row ∈ first.db.idempotencyKeys.rows ∨ new (.payment body)
  journal : ∀ who body statusCode, (who, .responded body statusCode) ∈ second.journal →
    (who, .responded body statusCode) ∈ first.journal ∨ new (.payment body)

namespace World

variable {new : Publication → Prop} {world next first second : World} {who : ProcessId}
  {publication : Publication}

/-- What is published after a step was published before it or is new. -/
theorem Adds.publishes (adds : Adds new first second)
    (published : second.Publishes publication) :
    first.Publishes publication ∨ new publication := by
  cases published with
  | job queued =>
      rcases adds.jobs _ queued with ⟨old, member, same⟩ | fresh
      · rw [← same]
        exact .inl (.job member)
      · exact .inr fresh
  | callback scheduled => exact (adds.callbacks _ scheduled).imp_left .callback
  | event emitted => exact (adds.emitted _ emitted).imp_left .event
  | cached cached shows =>
      rcases adds.cache _ _ cached with before | fresh
      · exact .inl (.cached before shows)
      · exact .inr (fresh _ shows)
  | recorded stored answered =>
      exact (adds.recorded _ stored _ answered).imp_left (.recorded · answered)
  | responded noted => exact (adds.journal _ _ _ noted).imp_left .responded

/-- Nothing is added. -/
theorem Adds.refl (world : World) : Adds new world world where
  jobs := fun job member => .inl ⟨job, member, rfl⟩
  callbacks := fun _ => .inl
  emitted := fun _ => .inl
  cache := fun _ _ => .inl
  recorded := fun _ member _ _ => .inl member
  journal := fun _ _ _ => .inl

/-- Time publishes nothing. -/
theorem Elapses.adds (elapses : world.Elapses next) : Adds new world next where
  jobs := by
    intro job member
    obtain ⟨old, there, _, same, _⟩ := elapses.jobs job member
    exact .inl ⟨old, there, same⟩
  callbacks := fun _ member => .inl (elapses.callbacks ▸ member)
  emitted := fun _ member => .inl (elapses.emitted ▸ member)
  cache := by
    intro key value cached
    rcases elapses.cache key with same | absent
    · exact .inl (same ▸ cached)
    · rw [absent] at cached
      cases cached
  recorded := fun _ member _ _ => .inl (elapses.db ▸ member)
  journal := fun _ _ _ noted => .inl (elapses.journal ▸ noted)

end World

/-! ## Recorded responses -/

/-- Only the recording of a response writes one. -/
theorem Statement.recording_of_eval {view : Database} {session : Session} {statement : Statement}
    {outcome : Outcome statement.Reply} (done : statement.eval view session = .ok outcome)
    {row : IdempotencyKey} (written : outcome.writes = some (.key row)) {body : Transaction}
    (answered : row.responseBody = some body) :
    (Operation.sql statement).Publishing (.payment body) := by
  have writes := written_of_eval done written
  generalize outcome.locks = locks, outcome.draws = draws at writes
  cases writes with
  | key _ _ _ =>
      simp only [eval, Database.insertKey] at done
      split at done
      · cases done
        cases written
      · cases done
        cases written
        cases answered
  | answer _ _ _ _ =>
      simp only [eval, Database.updateKey] at done
      split at done
      · cases done
        cases written
      · cases done
        cases written
        cases answered
        exact .recorded _ _ _

namespace World

variable {world : World} {who : ProcessId} {publication : Publication}

/-- The writes touch no idempotency key. -/
def LeavesKeys (log : List Write) : Prop := ∀ version ∈ log, ∀ row, version ≠ .key row

/-- A stored response was stored before the write, or is what it writes. -/
theorem recorded_write {db : Database} {version : Write} {row : IdempotencyKey}
    (stored : row ∈ (db.write version).idempotencyKeys.rows) :
    version = .key row ∨ row ∈ db.idempotencyKeys.rows := by
  cases version with
  | key written =>
      rcases (Table.mem_put_iff _ _ _).mp stored with rfl | ⟨old, _⟩
      · exact .inl rfl
      · exact .inr old
  | purgeKeys now => exact .inr ((Table.mem_filter_iff _ _ _).mp stored).1
  | _ => exact .inr stored

/-- A log without writes to the keys adds no stored response. -/
theorem recorded_replay {db : Database} {log : List Write} (unkeyed : LeavesKeys log)
    {row : IdempotencyKey} (stored : row ∈ (db.replay log).idempotencyKeys.rows) :
    row ∈ db.idempotencyKeys.rows := by
  induction log generalizing db with
  | nil => exact stored
  | cons version rest ih =>
      have before := ih (fun later member => unkeyed later (List.mem_cons_of_mem _ member)) stored
      exact (recorded_write before).resolve_left (unkeyed version List.mem_cons_self row)

/-! ## Calls -/

/-- A statement publishes at most the response it records. -/
theorem adds_execute (statement : Statement) :
    Adds (Operation.sql statement).Publishing world (world.execute who statement).2 := by
  have apart := execute_apart world who statement
  refine
    { jobs := fun job member => .inl ⟨job, apart.jobs ▸ member, rfl⟩
      callbacks := fun _ member => .inl (apart.callbacks ▸ member)
      emitted := fun _ member => .inl (apart.emitted ▸ member)
      cache := fun _ _ cached => .inl (apart.cache ▸ cached)
      recorded := fun row stored body answered => ?_
      journal := fun _ _ _ noted => .inl (apart.journal ▸ noted) }
  rcases execute_cases world who statement with ⟨error, refused⟩ | ⟨outcome, done, _, ran⟩
  · rw [refused] at stored
    exact .inl stored
  · rw [ran] at stored
    cases opened : world.sessions who with
    | some session =>
        rw [apply_open outcome opened] at stored
        exact .inl stored
    | none =>
        rw [apply_closed outcome opened] at stored
        cases written : outcome.writes with
        | none =>
            simp only [written] at stored
            exact .inl stored
        | some version =>
            simp only [written] at stored
            rcases recorded_write stored with rfl | old
            · exact .inr (Statement.recording_of_eval done written answered)
            · exact .inl old

/-- The queue publishes the job it is given. -/
theorem adds_queueAdd (data : ProviderJobData) (attempts : Nat) (jobId : Option JobId) :
    Adds (Operation.queueAdd data attempts jobId).Publishing world
      (world.queueAdd data attempts jobId) := by
  unfold queueAdd
  simp only
  split
  · exact .refl world
  · refine { Adds.refl world with jobs := fun job queued => ?_ }
    rcases (Table.mem_put_iff _ _ _).mp queued with rfl | ⟨old, _⟩
    · exact .inr (.job _ _ _)
    · exact .inl ⟨job, old, rfl⟩

/-- The cache publishes the value it is given. -/
theorem adds_cacheSet (key : CacheKey) (value : CacheValue) (ttlMs : Nat) :
    Adds (Operation.cacheSet key value ttlMs).Publishing world
      (world.perform who (.cacheSet key value ttlMs)).2 := by
  refine { Adds.refl world with cache := fun place found cached => ?_ }
  change Function.update world.cache key (some value) place = some found at cached
  by_cases same : place = key
  · subst same
    rw [Function.update_self] at cached
    cases cached
    exact .inr fun _ => .cached ttlMs
  · rw [Function.update_of_ne same] at cached
    exact .inl cached

/-- A call publishes nothing but its own. A commit publishes nothing where the transaction
touched no idempotency key. -/
theorem adds_perform (op : Operation) (unkeyed : op = .commit → LeavesKeys (world.log who)) :
    Adds op.Publishing world (world.perform who op).2 := by
  cases op with
  | begin _ | rollback | cacheGet _ | queueGet _ | now | sleep _ => exact { Adds.refl world with }
  | commit =>
      exact { Adds.refl world with
        recorded := fun _ stored _ _ => .inl (recorded_replay (unkeyed rfl) stored) }
  | sql statement => exact adds_execute statement
  | acquireLock key ttlMs =>
      change Adds _ world (world.acquireLock key ttlMs).2
      unfold acquireLock
      cases world.redisLocks key with
      | none => exact { Adds.refl world with }
      | some _ => exact { Adds.refl world with }
  | releaseLock key token =>
      change Adds _ world (world.releaseLock key token)
      unfold releaseLock
      split
      · exact { Adds.refl world with }
      · exact .refl world
  | cacheSet key value ttlMs => exact adds_cacheSet key value ttlMs
  | cacheDelete key =>
      refine { Adds.refl world with cache := fun place found cached => ?_ }
      change Function.update world.cache key none place = some found at cached
      by_cases deleted : place = key
      · subst deleted
        rw [Function.update_self] at cached
        cases cached
      · rw [Function.update_of_ne deleted] at cached
        exact .inl cached
  | cacheDeleteLists =>
      refine { Adds.refl world with cache := fun place found cached => ?_ }
      change (if place.isList then none else world.cache place) = some found at cached
      split at cached
      · cases cached
      · exact .inl cached
  | queueAdd data attempts jobId => exact adds_queueAdd data attempts jobId
  | queueRemove id =>
      exact { Adds.refl world with
        jobs := fun job member => .inl ⟨job, ((Table.mem_filter_iff _ _ _).mp member).1, rfl⟩ }
  | scheduleCallback amount currency =>
      refine { Adds.refl world with callbacks := fun callback scheduled => ?_ }
      rcases List.mem_append.mp scheduled with before | new
      · exact .inl before
      · rw [List.mem_singleton.mp new]
        exact .inr (.callback _ _)
  | emit event =>
      refine { Adds.refl world with emitted := fun other emitted => ?_ }
      rcases List.mem_append.mp emitted with before | new
      · exact .inl before
      · rw [List.mem_singleton.mp new]
        exact .inr (.event _)
  | observe note =>
      refine { Adds.refl world with journal := fun other body statusCode noted => ?_ }
      rcases List.mem_append.mp noted with before | new
      · exact .inl before
      · cases List.mem_singleton.mp new
        exact .inr (.responded _ _)

/-- A call adds what it publishes, whether or not its answer arrives. -/
theorem adds_exec (delivery : Delivery) (op : Operation)
    (unkeyed : op = .commit → LeavesKeys (world.log who)) :
    Adds op.Publishing world (World.exec who delivery op world).2 := by
  rcases exec_state who delivery op world with unchanged | ran
  · rw [unchanged]
    exact .refl world
  · rw [ran]
    exact adds_perform op unkeyed

end World
end Payroute
