import LedgerRules.Proofs.Outcome
import LedgerRules.Sync.Run

/-!
The stages of a run, one after the other: what each of them does to the world, and what it leaves
alone. Only the last stage concerns the files.
-/

namespace LedgerRules

open Effect

variable {σ : Type}

namespace World

def noted (world : World σ) (event : Event) : World σ :=
  { world with events := world.events ++ [event] }

def answered {α : Type} (world : World σ) (answer : ServiceAnswer σ α) : World σ :=
  { world with
    service := answer.state
    events := world.events ++ answer.log.map Event.logged }

end World

namespace Sync

@[simp] theorem outcome_note (event : Event) (world : World σ) :
    outcome (note event : Sync σ Unit) world = (.ok (), world.noted event) := rfl

@[simp] theorem outcome_log (level : LogLevel) (source : LogSource) (text : String)
    (world : World σ) :
    outcome (log level source text : Sync σ Unit) world =
      (.ok (), world.noted (.logged ⟨level, source, text⟩)) := rfl

theorem outcome_call {α : Type} (operation : σ → ServiceAnswer σ α) (world : World σ) :
    outcome (call operation) world =
      ((operation world.service).result.mapError SyncError.service,
        world.answered (operation world.service)) := by
  simp only [call, outcome_bind, outcome_get, outcome_set]
  cases (operation world.service).result <;> rfl

theorem outcome_fetch (service : LedgerService σ) (kind : RecordKind) (query : Option EntryQuery)
    (world : World σ) :
    outcome (fetch service kind query) world =
      ((service.fetchAll kind query world.service).result.mapError SyncError.service,
        (world.noted (.queried kind query)).answered
          (service.fetchAll kind query world.service)) := by
  simp only [fetch, outcome_bind, outcome_note, outcome_call]
  rfl

theorem outcome_fetch_ok {service : LedgerService σ} {kind : RecordKind}
    {query : Option EntryQuery} {world : World σ} {fetched : FetchResult}
    (answered : (service.fetchAll kind query world.service).result = .ok fetched) :
    outcome (fetch service kind query) world =
      (.ok fetched, (world.noted (.queried kind query)).answered
        (service.fetchAll kind query world.service)) := by
  rw [outcome_fetch, answered]
  rfl

theorem outcome_fetchEntries_ok {service : LedgerService σ} {query : EntryQuery} {world : World σ}
    {fetched : FetchResult} {entries : List Entry}
    (answered : (service.fetchAll .entry (some query) world.service).result = .ok fetched)
    (read : Entry.ofRecords fetched.records = .ok entries) :
    outcome (fetchEntries service query) world =
      (.ok (entries, fetched.watermark), (world.noted (.queried .entry (some query))).answered
        (service.fetchAll .entry (some query) world.service)) := by
  rw [fetchEntries, outcome_bind_ok (outcome_fetch_ok answered), read]
  rfl

theorem fetchReferences_of_listed {service : LedgerService σ} {kind : RecordKind}
    {records : List Json}
    (listed : ∀ state, ∃ watermark,
      (service.fetchAll kind none state).result = .ok ⟨records, watermark⟩)
    (world : World σ) :
    (outcome (fetchReferences service kind) world).1 =
      (Reference.ofRecords kind records).mapError SyncError.record := by
  obtain ⟨watermark, answered⟩ := listed world.service
  rw [fetchReferences, outcome_bind_ok (outcome_fetch_ok answered)]
  cases Reference.ofRecords kind records <;> rfl

theorem fetchContext_of_listed {service : LedgerService σ} {catalog : RecordKind → List Json}
    (listed : ∀ kind, kind ≠ .entry → ∀ state, ∃ watermark,
      (service.fetchAll kind none state).result = .ok ⟨catalog kind, watermark⟩)
    (world : World σ) :
    (outcome (fetchContext service) world).1 =
      (Context.ofRecords (catalog .account) (catalog .category) (catalog .tag)).mapError
        SyncError.record := by
  have accounts := fetchReferences_of_listed (listed .account (by decide)) world
  have categories := fetchReferences_of_listed (listed .category (by decide))
  have tags := fetchReferences_of_listed (listed .tag (by decide))
  simp only [fetchContext, Context.ofRecords, outcome_bind]
  generalize outcome (fetchReferences service .account) world = fetched at accounts ⊢
  obtain ⟨result, first⟩ := fetched
  obtain rfl : result = _ := accounts
  cases Reference.ofRecords .account (catalog .account) with
  | error error => rfl
  | ok accounts =>
  have asked := categories first
  simp only [Except.mapError]
  generalize outcome (fetchReferences service .category) first = fetched at asked ⊢
  obtain ⟨result, second⟩ := fetched
  obtain rfl : result = _ := asked
  cases Reference.ofRecords .category (catalog .category) with
  | error error => rfl
  | ok categories =>
  have asked := tags second
  simp only [Except.mapError]
  generalize outcome (fetchReferences service .tag) second = fetched at asked ⊢
  obtain ⟨result, third⟩ := fetched
  obtain rfl : result = _ := asked
  cases Reference.ofRecords .tag (catalog .tag) <;> rfl

theorem outcome_planChanges_ok {rules : RuleSet} {context : Context} {entries : List Entry}
    {planned : List EntryChange} (planable : changes rules.rules context entries = .ok planned)
    (world : World σ) :
    ∃ text, outcome (planChanges rules context entries : Sync σ (List EntryChange)) world =
      (.ok planned, world.noted (.logged ⟨.info, .sync, text⟩)) := by
  rw [planChanges, planable]
  exact ⟨_, rfl⟩

/-- A relation that holds across noting an allowed event and across every fetch. -/
structure Kept (service : LedgerService σ) (allowed : Event → Prop)
    (relation : World σ → World σ → Prop) : Prop where
  noted : ∀ world event, allowed event → relation world (world.noted event)
  fetched : ∀ world kind query,
    relation world (world.answered (service.fetchAll kind query world.service))

def KeptByReplacing (service : LedgerService σ) (relation : World σ → World σ → Prop) : Prop :=
  ∀ world id record,
    relation world (world.answered (service.replaceEntry id record world.service))

def KeptByFiling (relation : World σ → World σ → Prop) : Prop :=
  ∀ (world : World σ) (files : Files), relation world { world with files }

section Kept

variable {service : LedgerService σ} {allowed : Event → Prop}
  {relation : World σ → World σ → Prop} [IsPreorder (World σ) relation]

omit [IsPreorder (World σ) relation] in
theorem keeps_log (kept : Kept service allowed relation) (logs : ∀ record, allowed (.logged record))
    (level : LogLevel) (source : LogSource) (text : String) :
    Keeps relation (log level source text : Sync σ Unit) :=
  fun world => kept.noted world _ (logs _)

theorem keeps_loadRules (options : SyncOptions) :
    Keeps relation (loadRules options : Sync σ RuleSet) := by
  intro world
  simp only [loadRules, outcome_bind, outcome_get]
  split <;> exact refl_of relation world

theorem keeps_loadState (kept : Kept service allowed relation)
    (logs : ∀ record, allowed (.logged record)) (options : SyncOptions) (fingerprint : String) :
    Keeps relation (loadState options fingerprint : Sync σ SyncState) := by
  intro world
  simp only [loadState, outcome_bind, outcome_get]
  split
  · exact refl_of relation world
  · split
    · exact kept.noted world _ (logs _)
    · exact refl_of relation world

theorem keeps_fetch (kept : Kept service allowed relation) (kind : RecordKind)
    (query : Option EntryQuery) (asks : allowed (.queried kind query)) :
    Keeps relation (fetch service kind query) := by
  intro world
  rw [outcome_fetch]
  exact trans_of relation (kept.noted world _ asks) (kept.fetched _ kind query)

theorem keeps_fetchReferences (kept : Kept service allowed relation) (kind : RecordKind)
    (asks : allowed (.queried kind none)) :
    Keeps relation (fetchReferences service kind) := by
  apply (keeps_fetch kept kind none asks).bind
  intro fetched
  cases Reference.ofRecords kind fetched.records with
  | ok references => exact keeps_pure references
  | error error => exact keeps_throw _

theorem keeps_fetchContext (kept : Kept service allowed relation)
    (asks : ∀ kind, kind ≠ .entry → allowed (.queried kind none)) :
    Keeps relation (fetchContext service) := by
  apply (keeps_fetchReferences kept .account (asks _ (by decide))).bind
  intro accounts
  apply (keeps_fetchReferences kept .category (asks _ (by decide))).bind
  intro categories
  apply (keeps_fetchReferences kept .tag (asks _ (by decide))).bind
  intro tags
  exact keeps_pure _

theorem keeps_fetchEntries (kept : Kept service allowed relation) (query : EntryQuery)
    (asks : allowed (.queried .entry (some query))) :
    Keeps relation (fetchEntries service query) := by
  apply (keeps_fetch kept .entry (some query) asks).bind
  intro fetched
  cases Entry.ofRecords fetched.records with
  | ok entries => exact keeps_pure _
  | error error => exact keeps_throw _

theorem keeps_planChanges (kept : Kept service allowed relation)
    (logs : ∀ record, allowed (.logged record)) (rules : RuleSet) (context : Context)
    (entries : List Entry) :
    Keeps relation (planChanges rules context entries : Sync σ (List EntryChange)) := by
  simp only [planChanges]
  cases changes rules.rules context entries with
  | error error => exact keeps_throw _
  | ok planned => exact (keeps_log kept logs _ _ _).bind fun _ => keeps_pure planned

theorem keeps_submit (kept : Kept service allowed relation)
    (replaced : KeptByReplacing service relation)
    (logs : ∀ record, allowed (.logged record))
    (submits : ∀ id record, allowed (.replaced id record)) (change : EntryChange) :
    Keeps relation (submit service change) := by
  apply Keeps.bind
  · intro world
    rw [outcome_call]
    exact replaced world _ _
  · intro _
    apply Keeps.bind
    · exact fun world => kept.noted world _ (submits _ _)
    · exact fun _ => keeps_log kept logs _ _ _

theorem keeps_carryOut (kept : Kept service allowed relation)
    (replaced : KeptByReplacing service relation)
    (logs : ∀ record, allowed (.logged record)) (echoes : ∀ text, allowed (.echoed text))
    (submits : ∀ id record, allowed (.replaced id record)) (isDryRun : Bool)
    (planned : List EntryChange) :
    Keeps relation (carryOut service isDryRun planned) := by
  induction planned with
  | nil => exact keeps_pure ()
  | cons change rest ih =>
      apply Keeps.bind
      · exact fun world => kept.noted world _ (echoes _)
      · intro _
        cases isDryRun with
        | true => exact ih
        | false => exact (keeps_submit kept replaced logs submits change).bind fun _ => ih

theorem keeps_settle (kept : Kept service allowed relation)
    (replaced : KeptByReplacing service relation) (filed : KeptByFiling relation)
    (logs : ∀ record, allowed (.logged record)) (echoes : ∀ text, allowed (.echoed text))
    (submits : ∀ id record, allowed (.replaced id record))
    (options : SyncOptions) (state : SyncState) (watermark : Option String) (opened : SyncReport)
    (planned : List EntryChange) :
    Keeps relation (settle service options state watermark opened planned) := by
  have saves (advanced : SyncState) :
      Keeps relation (saveState options.stateFile advanced : Sync σ Unit) := by
    intro world
    simp only [saveState, outcome_bind, outcome_get]
    generalize (SyncState.save options.stateFile advanced).run world.files = saved
    obtain ⟨error | _, files⟩ := saved <;> exact filed world files
  apply (keeps_carryOut kept replaced logs echoes submits options.isDryRun planned).bind
  intro _
  cases options.isDryRun with
  | true => exact keeps_pure _
  | false =>
      apply (saves (state.advance watermark)).bind
      intro _
      exact (keeps_log kept logs _ _ _).bind fun _ => keeps_pure _

theorem keeps_process (kept : Kept service allowed relation)
    (replaced : KeptByReplacing service relation) (filed : KeptByFiling relation)
    (asks : ∀ kind, kind ≠ .entry → allowed (.queried kind none))
    (logs : ∀ record, allowed (.logged record)) (echoes : ∀ text, allowed (.echoed text))
    (submits : ∀ id record, allowed (.replaced id record))
    (options : SyncOptions) (rules : RuleSet) (state : SyncState) (entries : List Entry)
    (watermark : Option String) :
    Keeps relation (process service options rules state entries watermark) := by
  simp only [process]
  cases entries.isEmpty with
  | true => exact (keeps_log kept logs _ _ _).bind fun _ => keeps_pure _
  | false =>
      apply (keeps_fetchContext kept asks).bind
      intro context
      apply (keeps_planChanges kept logs rules context entries).bind
      intro planned
      exact keeps_settle kept replaced filed logs echoes submits options state watermark _ planned

/-- Whatever holds across all that can happen holds across a run. -/
theorem keeps_runSync (kept : Kept service (fun _ => True) relation)
    (replaced : KeptByReplacing service relation) (filed : KeptByFiling relation)
    (options : SyncOptions) : Keeps relation (runSync service options) := by
  refine Keeps.bind (keeps_loadRules options) ?_
  intro rules
  refine Keeps.bind (keeps_loadState kept (fun _ => trivial) options _) ?_
  intro state
  apply (keeps_fetchEntries kept _ trivial).bind
  intro fetched
  exact keeps_process kept replaced filed (fun _ _ => trivial) (fun _ => trivial)
    (fun _ => trivial) (fun _ _ => trivial) options rules state _ _

end Kept

end Sync

end LedgerRules
