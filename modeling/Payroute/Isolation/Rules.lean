import Payroute.Books.Postings
import Payroute.Isolation.Draft

/-! # One rule for each statement

What each statement, run inside a transaction, returns and adds to the draft.
-/

namespace Payroute

open EffectSystem KeyedTable

namespace Changes

/-- Insert a transaction. -/
def openRow (changes : Changes) (row : Transaction) : Changes :=
  { changes with opened := changes.opened ++ [row] }

/-- The inserted row is a row version of its own as long as nothing is patched. -/
theorem apply_openRow (changes : Changes) (row : Transaction) (db : Database)
    (unpatched : changes.patches = []) :
    (changes.openRow row).apply db = (changes.apply db).write (.transaction row) := by
  simp only [apply, openRow, Database.write, List.foldl_append, List.foldl_cons, List.foldl_nil,
    unpatched]

end Changes

namespace Setting.Within

variable {setting : Setting} {commit : Database → Database → Prop} {who : ProcessId}
  {world : World} {isolation : Isolation} {changes : Changes}

/-- A query answers for what its transaction sees. -/
theorem select (drafts : world.Drafts who isolation changes) (query : Query) :
    setting.Within commit who
      (fun reply last => last.Drafts who isolation changes ∧ reply = query.eval (last.view who))
      (sql (.select query)) world := by
  change setting.Within commit who _ (Payroute.call (.sql (.select query))) world
  apply Within.neutral (by trivial)
  intro middle valid rely _ reply returned
  cases returned
  exact ⟨drafts.frame rely.frame, rfl⟩

/-- A select at read committed sees the committed tables with the own changes. -/
theorem selectCommitted (drafts : world.Drafts who .readCommitted changes) (query : Query) :
    setting.Within commit who
      (fun reply last => last.Drafts who .readCommitted changes ∧
        reply = query.eval (changes.apply last.db))
      (sql (.select query)) world := by
  refine (Within.select drafts query).mono fun reply last _ _ read => ?_
  rw [read.1.view] at read
  exact read

/-- A call that leaves the database alone keeps the draft. -/
theorem pass (drafts : world.Drafts who isolation changes) {op : Operation}
    (neutral : op.Neutral) :
    setting.Within commit who (fun _ last => last.Drafts who isolation changes)
      (Payroute.call op) world := by
  apply Within.neutral neutral
  intro middle _ rely _ _ _
  exact (drafts.frame rely.frame).aside (World.perform_neutral neutral)

/-- Reading the clock keeps the draft. -/
theorem newDate (drafts : world.Drafts who isolation changes) :
    setting.Within commit who (fun _ last => last.Drafts who isolation changes)
      Payroute.newDate world :=
  Within.pass drafts (by trivial)

/-- So does reading the cache. -/
theorem cacheGet (drafts : world.Drafts who isolation changes) (cacheKey : CacheKey) :
    setting.Within commit who (fun _ last => last.Drafts who isolation changes)
      (Payroute.call (.cacheGet cacheKey)) world :=
  Within.pass drafts (by trivial)

/-- So does writing to it. -/
theorem cacheSet (drafts : world.Drafts who isolation changes) (cacheKey : CacheKey)
    (value : CacheValue) (ttlMs : Nat) :
    setting.Within commit who (fun _ last => last.Drafts who isolation changes)
      (Payroute.call (.cacheSet cacheKey value ttlMs)) world :=
  Within.pass drafts (by trivial)

section Untouched

variable {seen : Database} {startedAt : Nat}

/-- A select before the first write reads the snapshot. -/
theorem look (untouched : world.Untouched who seen startedAt) (query : Query) :
    setting.Within commit who
      (fun reply last => last.Untouched who seen startedAt ∧ reply = query.eval seen ∧
        setting.dated startedAt seen (.sql (.select query)))
      (sql (.select query)) world := by
  change setting.Within commit who _ (Payroute.call (.sql (.select query))) world
  apply Within.neutral (by trivial)
  intro middle valid rely issues reply returned
  cases returned
  have kept := untouched.frame rely.frame
  refine ⟨kept, ?_, kept.dated issues⟩
  rw [kept.view]

/-- The date is one the clock may show. -/
theorem timely (untouched : world.Untouched who seen startedAt) :
    setting.Within commit who
      (fun now last => last.Untouched who seen startedAt ∧
        ∃ clock, setting.timely clock ∧ now = clock / 1000 * 1000)
      Payroute.newDate world := by
  apply Within.neutral (by trivial)
  intro middle valid rely issues reply returned
  cases returned
  exact ⟨untouched.frame rely.frame, middle.clock, issues.timely, rfl⟩

/-- An account locked before the first write is the one of the snapshot. -/
theorem lockAccount (untouched : world.Untouched who seen startedAt) (id : AccountId) :
    setting.Within commit who
      (fun found last => last.Untouched who seen startedAt ∧ ∀ row, found = some row →
        last.Reads who (.account id) ∧ seen.accounts.get? id = some row)
      (sql (.lockAccount id)) world := by
  apply Within.statement (fun row needs => by cases needs) (by exact fun _ => trivial)
  intro middle valid rely _ outcome done free
  have before := untouched.frame rely.frame
  cases done
  constructor
  · rw [World.apply_open _ before]
    exact before
  · intro row found
    change (middle.view who).accounts.get? id = some row at found
    have target : (Statement.lockAccount id).target (middle.view who) = some (.account id) := by
      simp only [Statement.target, found, Option.map_some]
    obtain ⟨_, current⟩ := free (.account id) target
    rw [before.view] at found
    refine ⟨?_, found⟩
    rw [World.apply_open _ before]
    simp only [target]
    exact World.reads_of_current before (Function.update_self _ _ _) current

end Untouched

/-- A payment is read and locked, if it is there. -/
theorem lockTransaction (drafts : world.Drafts who .readCommitted changes) (id : TransactionId)
    (nowait : Bool) :
    setting.Within commit who
      (fun found last => last.Drafts who .readCommitted changes ∧
        found = (changes.apply last.db).transactions.get? id ∧
        ∀ row, found = some row → last.rowLocks (.transaction id) = some who)
      (sql (.lockTransaction id nowait)) world := by
  apply Within.statement (fun row needs => by cases needs) (by exact fun _ => trivial)
  intro middle valid rely _ outcome done free
  have before := drafts.frame rely.frame
  cases done
  obtain ⟨session, opened, _⟩ := before.replays
  refine ⟨before.apply_read rfl, ?_, fun row found => ?_⟩
  · rw [World.apply_open _ opened, ← before.view]
  · have target : (Statement.lockTransaction id nowait).target (middle.view who) =
        some (.transaction id) := by
      change (middle.view who).transactions.get? id = some row at found
      simp only [Statement.target, found, Option.map_some]
    rw [World.apply_open _ opened]
    simp only [target]
    exact Function.update_self _ _ _

/-- So is the payment with the reference. -/
theorem lockTransactionByReference (drafts : world.Drafts who .readCommitted changes)
    (reference : ProviderReference) :
    setting.Within commit who
      (fun found last => last.Drafts who .readCommitted changes ∧
        found = (changes.apply last.db).byReference reference ∧
        setting.permits (changes.apply last.db) (.sql (.lockTransactionByReference reference)) ∧
        setting.holds last.db ∧
        ∀ row, found = some row → last.rowLocks (.transaction row.id) = some who)
      (sql (.lockTransactionByReference reference)) world := by
  apply Within.statement (fun row needs => by cases needs) (by exact fun _ => trivial)
  intro middle valid rely permitted outcome done free
  have before := drafts.frame rely.frame
  cases done
  obtain ⟨session, opened, _⟩ := before.replays
  refine ⟨before.apply_read rfl, ?_, ?_, ?_, fun row found => ?_⟩
  · rw [World.apply_open _ opened, ← before.view]
  · rw [World.apply_open _ opened, ← before.view]
    exact permitted.permits
  · rw [World.apply_open _ opened]
    exact permitted.holds
  · have target : (Statement.lockTransactionByReference reference).target (middle.view who) =
        some (.transaction row.id) := by
      change (middle.view who).byReference reference = some row at found
      simp only [Statement.target, found, Option.map_some]
    rw [World.apply_open _ opened]
    simp only [target]
    exact Function.update_self _ _ _

/-- A balance update of a row the process reads as it is. -/
theorem updateBalance (drafts : world.Drafts who isolation changes) (direction : EntryType)
    (amount : Text) (id : AccountId) :
    setting.Within commit who
      (fun reply last =>
        (∀ balance, reply = some balance → ∃ units, numericOfText amount = some units ∧
          last.Drafts who isolation (changes.adjust id (direction.signed units))) ∧
        (reply = none → direction = .debit ∨
          last.Drafts who isolation changes ∧ (last.view who).accounts.get? id = none))
      (sql (.updateBalance direction amount id)) world := by
  apply Within.statement (fun row needs => by cases needs) (by exact fun _ => trivial)
  intro middle valid rely _ outcome done free
  have before := drafts.frame rely.frame
  simp only [Statement.eval, Database.updateBalance] at done
  split at done
  · cases done
  · next units read absent =>
    cases done
    refine ⟨fun balance same => ?_, fun _ => .inr ⟨before.apply_read rfl, absent⟩⟩
    cases same
  · next units row read found =>
    split at done
    · next refused =>
      cases done
      refine ⟨fun balance same => ?_, fun _ => .inl refused.1⟩
      cases same
    · split at done
      · cases done
      · split at done
        · cases done
        · cases done
          refine ⟨fun balance _ => ⟨units, read, ?_⟩, fun same => ?_⟩
          swap
          · cases same
          have current := (free (.account id) rfl).2
          apply before.apply
          · intro db agree taken
            have seen : (changes.apply db).accounts.get? id = some row := by
              have same := before.rowAt current agree (taken (.account id) rfl)
              rw [← found]
              exact RowVersion.account.inj same
            exact (changes.apply_adjust _ seen).symm
          · exact fun opened member => .inl member

/-- The patch of a payment that is there joins the draft. -/
theorem updateTransaction (drafts : world.Drafts who isolation changes) (id : TransactionId)
    {patch : TransactionPatch} (unreferenced : patch.providerReference = none) :
    setting.Within commit who
      (fun _ last =>
        (∃ row, (changes.apply last.db).transactions.get? id = some row ∧
          last.rowLocks (.transaction id) = some who ∧
          last.Drafts who isolation (changes.patch id patch) ∧
          (isolation = .readCommitted →
            setting.permits (changes.apply last.db) (.sql (.updateTransaction id patch)))) ∨
        (last.view who).transactions.get? id = none ∧ last.Drafts who isolation changes)
      (sql (.updateTransaction id patch)) world := by
  have numbers : ∀ next, (Statement.updateTransaction id patch).Numbers next := by
    intro next reference stored
    rw [unreferenced] at stored
    cases stored
  apply Within.statement (fun row needs => by cases needs) numbers
  intro middle valid rely permitted outcome done free
  have before := drafts.frame rely.frame
  simp only [Statement.eval, Database.updateTransaction] at done
  split at done
  · next absent =>
    cases done
    exact .inr ⟨absent, before.apply_read rfl⟩
  · next row found =>
    cases done
    have current := (free (.transaction id) rfl).2
    obtain ⟨session, opened, _⟩ := before.replays
    refine .inl ⟨row, ?_, ?_, ?_, fun level => ?_⟩
    · rw [World.apply_open _ opened, ← before.transaction current]
      exact found
    · rw [World.apply_open _ opened]
      exact Function.update_self _ _ _
    · apply before.apply
      · intro db agree taken
        have seen : (changes.apply db).transactions.get? id = some row := by
          have same := before.rowAt current agree (taken (.transaction id) rfl)
          rw [← found]
          exact RowVersion.transaction.inj same
        exact (changes.apply_patch _ seen).symm
      · exact fun opened member => .inl member
    · subst level
      rw [World.apply_open _ opened, ← before.view]
      exact permitted.permits

/-- So does that of an event. -/
theorem updateEvent (drafts : world.Drafts who .readCommitted changes) (id : Nat)
    (patch : WebhookEventPatch) :
    setting.Within commit who
      (fun _ last =>
        (∃ row, (changes.apply last.db).eventById id = some row ∧
          last.Drafts who .readCommitted (changes.touch (patch.apply row))) ∨
        (changes.apply last.db).eventById id = none ∧ last.Drafts who .readCommitted changes)
      (sql (.updateEvent id patch)) world := by
  apply Within.statement (fun row needs => by cases needs) (by exact fun _ => trivial)
  intro middle valid rely _ outcome done free
  have before := drafts.frame rely.frame
  obtain ⟨session, opened, _⟩ := before.replays
  simp only [Statement.eval, Database.updateEvent] at done
  rw [before.view] at done
  split at done
  · next absent =>
    cases done
    refine .inr ⟨?_, before.apply_read rfl⟩
    rw [World.apply_open _ opened]
    exact absent
  · next row found =>
    cases done
    refine .inl ⟨row, ?_, ?_⟩
    · rw [World.apply_open _ opened]
      exact found
    · apply before.apply
      · intro db _ _
        exact (changes.apply_touch _ db).symm
      · exact fun opened member => .inl member

/-- An entry of a locked payment joins the draft. -/
theorem insertEntry (drafts : world.Drafts who isolation changes) (draft : EntryDraft)
    (locked : world.rowLocks (.transaction draft.transactionId) = some who) :
    setting.Within commit who
      (fun entry last => ∃ units, numericOfText draft.amount = some units ∧
        entry.terms =
          { transactionId := draft.transactionId
            accountId := draft.accountId
            currency := draft.currency
            amount := units
            entryType := draft.entryType
            isReversal := draft.isReversal } ∧
        last.Drafts who isolation (changes.enter entry) ∧
        ∃ row, (last.view who).accounts.get? draft.accountId = some row)
      (sql (.insertEntry draft)) world := by
  have needed : ∀ row, (Statement.insertEntry draft).needs = some row →
      world.rowLocks row = some who := by
    intro row needs
    cases needs
    exact locked
  apply Within.statement needed (by exact fun _ => trivial)
  intro middle valid rely _ outcome done free
  have before := drafts.frame rely.frame
  obtain ⟨session, opened, _⟩ := before.replays
  simp only [Statement.eval, Database.insertEntry] at done
  split at done
  · cases done
  · next units transaction account read _ found =>
    split at done
    · cases done
    · cases done
      refine ⟨units, read, rfl, ?_, account, ?_⟩
      · apply before.apply
        · intro db _ _
          exact (changes.apply_enter _ db).symm
        · exact fun opened member => .inl member
      · rw [World.view_apply opened]
        exact found
  · cases done

/-- A history row of a locked payment joins the draft. -/
theorem insertHistory (drafts : world.Drafts who isolation changes) (id : TransactionId)
    (fromState : Option String) (toState : String)
    (locked : world.rowLocks (.transaction id) = some who) :
    setting.Within commit who
      (fun _ last => ∃ timestamp, last.Drafts who isolation (changes.record
        { transactionId := id, fromState := fromState, toState := toState
          timestamp := timestamp }))
      (sql (.insertHistory id fromState toState)) world := by
  have needed : ∀ row, (Statement.insertHistory id fromState toState).needs = some row →
      world.rowLocks row = some who := by
    intro row needs
    cases needs
    exact locked
  apply Within.statement needed (by exact fun _ => trivial)
  intro middle valid rely _ outcome done free
  have before := drafts.frame rely.frame
  simp only [Statement.eval, Database.insertHistory] at done
  split at done
  · cases done
  · cases done
    refine ⟨(middle.session who).now, ?_⟩
    apply before.apply
    · intro db _ _
      exact (changes.apply_record _ db).symm
    · exact fun opened member => .inl member

/-- A quote joins the draft. -/
theorem insertQuote (drafts : world.Drafts who isolation changes) (draft : QuoteDraft) :
    setting.Within commit who
      (fun quote last => numericOfText draft.sourceAmount = some quote.sourceAmount ∧
        quote.destinationAmount = draft.destinationAmount ∧ quote.rate = draft.rate ∧
        last.Drafts who isolation (changes.quote quote))
      (sql (.insertQuote draft)) world := by
  apply Within.statement (fun row needs => by cases needs) (by exact fun _ => trivial)
  intro middle valid rely _ outcome done free
  have before := drafts.frame rely.frame
  simp only [Statement.eval, Payroute.insertQuote] at done
  split at done
  · cases done
  · next units read =>
    split at done
    · cases done
    · split at done
      · cases done
      · cases done
        refine ⟨read, rfl, rfl, ?_⟩
        apply before.apply
        · intro db _ _
          exact (changes.apply_quote _ db).symm
        · exact fun opened member => .inl member

/-- The new row is locked, and nothing belongs to it yet. -/
theorem insertTransaction (drafts : world.Drafts who isolation changes)
    (unpatched : changes.patches = []) (draft : TransactionDraft) :
    setting.Within commit who
      (fun row last => (∃ units, numericOfText draft.sourceAmount = some units ∧
          row = { id := row.id, providerReference := none
                  senderAccountId := draft.senderAccountId
                  recipientAccountId := draft.recipientAccountId
                  sourceCurrency := draft.sourceCurrency, sourceAmount := units
                  destinationCurrency := draft.destinationCurrency
                  destinationAmount := draft.destinationAmount, fxRate := draft.fxRate
                  fxQuoteId := draft.fxQuoteId, status := draft.status
                  createdAt := row.createdAt, completedAt := none }) ∧
        (∀ session, world.sessions who = some session → row.createdAt = session.startedAt ∧
          (session.isolation = .serializable →
            setting.dated session.startedAt session.snapshot (.sql (.insertTransaction draft)))) ∧
        last.Drafts who isolation (changes.openRow row) ∧
        last.rowLocks (.transaction row.id) = some who ∧ last.Reads who (.transaction row.id) ∧
        last.db.transactions.get? row.id = none ∧ last.db.entriesOf row.id = [] ∧
        last.db.historyOf row.id = [])
      (sql (.insertTransaction draft)) world := by
  apply Within.statement (fun row needs => by cases needs) (by exact fun _ => trivial)
  intro middle valid rely issues outcome done free
  have before := drafts.frame rely.frame
  obtain ⟨session, opened, _⟩ := before.replays
  simp only [Statement.eval, Database.insertTransaction] at done
  split at done
  · cases done
  · next units sender recipient read _ _ =>
    split at done
    · cases done
    · cases done
      obtain ⟨absent, entries, history, _⟩ := valid.fresh (middle.next .transaction) (Nat.le_refl _)
      refine ⟨⟨units, read, rfl⟩, fun session begun => ?_, ?_, ?_⟩
      · have started := rely.frame.session.trans begun
        have now := World.session_now started
        refine ⟨now, fun level => ?_⟩
        rw [← now, ← World.base_serializable started level]
        exact issues.dated
      · apply before.apply
        · intro db _ _
          exact (changes.apply_openRow _ db unpatched).symm
        · intro row member
          rcases List.mem_append.mp member with old | new
          · exact .inl old
          · cases List.mem_singleton.mp new
            exact .inr ⟨rfl, absent⟩
      · have current := (free _ rfl).2
        rw [World.apply_open _ opened]
        refine ⟨Function.update_self _ _ _, ?_, absent, entries, history⟩
        obtain ⟨level, snapshot, startedAt, log⟩ := session
        refine ⟨_, Function.update_self _ _ _, ?_⟩
        cases level with
        | readCommitted => exact .inl rfl
        | serializable =>
            have same := not_not.mp current
            rw [World.base_serializable opened rfl] at same
            exact .inr ⟨Function.update_self _ _ _, same⟩
  · cases done

end Setting.Within
end Payroute
