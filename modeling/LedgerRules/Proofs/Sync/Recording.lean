import LedgerRules.Proofs.Sync.Phases

/-!
Runs against a service that lists all calls it gets, the refused ones among them. The list has no
influence on the answers, so such a run is the run against the service itself.
-/

namespace LedgerRules

open Effect Sync

variable {σ α β : Type}

inductive ServiceCall where
  | fetch (kind : RecordKind) (query : Option EntryQuery)
  | replace (id : String) (record : Json)

def ServiceCall.query? : ServiceCall → Option (RecordKind × Option EntryQuery)
  | .fetch kind query => some (kind, query)
  | .replace _ _ => none

def ServiceCall.replacement? : ServiceCall → Option (String × Json)
  | .fetch _ _ => none
  | .replace id record => some (id, record)

abbrev Recorded (σ : Type) := σ × List ServiceCall

def ServiceAnswer.recorded (answer : ServiceAnswer σ α) (calls : List ServiceCall) :
    ServiceAnswer (Recorded σ) α :=
  ⟨answer.result, answer.log, (answer.state, calls)⟩

def LedgerService.recording (service : LedgerService σ) : LedgerService (Recorded σ) where
  fetchAll kind query state :=
    (service.fetchAll kind query state.1).recorded (state.2 ++ [.fetch kind query])
  replaceEntry id record state :=
    (service.replaceEntry id record state.1).recorded (state.2 ++ [.replace id record])

def World.erased (world : World (Recorded σ)) : World σ :=
  ⟨world.service.1, world.files, world.events⟩

/-- One effect does what another does, and records calls besides. -/
def IsRecordingOf (recording : Sync (Recorded σ) α) (effect : Sync σ α) : Prop :=
  ∀ world, outcome effect world.erased = Prod.map id World.erased (outcome recording world)

namespace IsRecordingOf

theorem pure (value : α) : IsRecordingOf (σ := σ) (pure value) (pure value) := fun _ => rfl

theorem throw (error : SyncError) :
    IsRecordingOf (throw error : Sync (Recorded σ) α) (throw error) := fun _ => rfl

theorem bind {recording : Sync (Recorded σ) α} {effect : Sync σ α}
    {recordingNext : α → Sync (Recorded σ) β} {next : α → Sync σ β}
    (first : IsRecordingOf recording effect)
    (second : ∀ value, IsRecordingOf (recordingNext value) (next value)) :
    IsRecordingOf (recording >>= recordingNext) (effect >>= next) := by
  intro world
  rw [outcome_bind, outcome_bind, first world]
  obtain ⟨error | value, middle⟩ := outcome recording world
  · rfl
  · exact second value middle

theorem note (event : Event) : IsRecordingOf (σ := σ) (note event) (note event) := fun _ => rfl

theorem call {operation : σ → ServiceAnswer σ α}
    {recording : Recorded σ → ServiceAnswer (Recorded σ) α}
    (same : ∀ state, ∃ calls, recording state = (operation state.1).recorded calls) :
    IsRecordingOf (call recording) (call operation) := by
  intro world
  obtain ⟨calls, answer⟩ := same world.service
  rw [outcome_call, outcome_call, answer]
  rfl

variable (service : LedgerService σ)

theorem fetch (kind : RecordKind) (query : Option EntryQuery) :
    IsRecordingOf (fetch service.recording kind query) (fetch service kind query) :=
  (note _).bind fun _ => call fun _ => ⟨_, rfl⟩

theorem fetchEntries (query : EntryQuery) :
    IsRecordingOf (fetchEntries service.recording query) (fetchEntries service query) := by
  apply (fetch service _ _).bind
  intro fetched
  cases Entry.ofRecords fetched.records with
  | error error => exact throw _
  | ok entries => exact pure _

theorem fetchReferences (kind : RecordKind) :
    IsRecordingOf (fetchReferences service.recording kind) (fetchReferences service kind) := by
  apply (fetch service _ _).bind
  intro fetched
  cases Reference.ofRecords kind fetched.records with
  | error error => exact throw _
  | ok references => exact pure _

theorem fetchContext : IsRecordingOf (fetchContext service.recording) (fetchContext service) := by
  apply (fetchReferences service _).bind
  intro accounts
  apply (fetchReferences service _).bind
  intro categories
  apply (fetchReferences service _).bind
  intro tags
  exact pure _

theorem loadRules (options : SyncOptions) :
    IsRecordingOf (σ := σ) (loadRules options) (loadRules options) := by
  intro world
  simp only [Sync.loadRules, outcome_bind, outcome_get, World.erased]
  cases options.rulesIn world.files <;> rfl

theorem loadState (options : SyncOptions) (fingerprint : String) :
    IsRecordingOf (σ := σ) (loadState options fingerprint) (loadState options fingerprint) := by
  intro world
  simp only [Sync.loadState, outcome_bind, outcome_get, World.erased]
  cases options.stateIn world.files with
  | error error => rfl
  | ok stored => cases lost : stored.lostCursor? fingerprint <;> simp only [lost] <;> rfl

theorem saveState (path : Path) (state : SyncState) :
    IsRecordingOf (σ := σ) (saveState path state) (saveState path state) := by
  intro world
  simp only [Sync.saveState, outcome_bind, outcome_get, World.erased]
  generalize (SyncState.save path state).run world.files = saved
  obtain ⟨error | _, files⟩ := saved <;> rfl

theorem planChanges (rules : RuleSet) (context : Context) (entries : List Entry) :
    IsRecordingOf (σ := σ) (planChanges rules context entries)
      (planChanges rules context entries) := by
  simp only [Sync.planChanges]
  cases changes rules.rules context entries with
  | error error => exact throw _
  | ok planned => exact (note _).bind fun _ => pure planned

theorem carryOut (isDryRun : Bool) (planned : List EntryChange) :
    IsRecordingOf (carryOut service.recording isDryRun planned)
      (carryOut service isDryRun planned) := by
  induction planned with
  | nil => exact pure ()
  | cons change rest ih =>
      apply (note _).bind
      intro _
      cases isDryRun with
      | true => exact ih
      | false =>
          have submitted :
              IsRecordingOf (submit service.recording change) (submit service change) :=
            (call fun _ => ⟨_, rfl⟩).bind fun _ => (note _).bind fun _ => note _
          exact submitted.bind fun _ => ih

theorem settle (options : SyncOptions) (state : SyncState) (watermark : Option String)
    (report : SyncReport) (planned : List EntryChange) :
    IsRecordingOf (settle service.recording options state watermark report planned)
      (settle service options state watermark report planned) := by
  apply (carryOut service _ _).bind
  intro _
  cases options.isDryRun with
  | true => exact pure _
  | false => exact (saveState _ _).bind fun _ => (note _).bind fun _ => pure _

theorem conclude (options : SyncOptions) (prepared : Preparation) :
    IsRecordingOf (conclude service.recording options prepared)
      (conclude service options prepared) := by
  cases prepared with
  | idle state => exact pure _
  | planned state entries watermark changes => exact settle service _ _ _ _ _

theorem evaluate (options : SyncOptions) (rules : RuleSet) (state : SyncState)
    (entries : List Entry) (watermark : Option String) :
    IsRecordingOf (evaluate service.recording options rules state entries watermark)
      (evaluate service options rules state entries watermark) := by
  simp only [Sync.evaluate]
  cases entries.isEmpty with
  | true => exact (note _).bind fun _ => pure _
  | false =>
      apply (fetchContext service).bind
      intro context
      exact (planChanges _ _ _).bind fun _ => pure _

theorem prepare (options : SyncOptions) :
    IsRecordingOf (prepare service.recording options) (prepare service options) := by
  apply (loadRules _).bind
  intro rules
  apply (loadState _ _).bind
  intro state
  apply (fetchEntries service _).bind
  intro fetched
  exact evaluate service _ _ _ _ _

theorem runSync (options : SyncOptions) :
    IsRecordingOf (runSync service.recording options) (runSync service options) := by
  rw [runSync_eq, runSync_eq]
  exact (prepare service options).bind fun prepared => conclude service options prepared

end IsRecordingOf

end LedgerRules
