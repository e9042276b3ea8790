import LedgerRules.Proofs.Sync.Phases

/-!
The errors of a run. It is refused for what the files hold before it asks the service for anything,
then for what the service answers and tells, and in the end it may not be able to save its state.
-/

namespace LedgerRules

open Effect Sync

variable {σ : Type}

/-- The state could not be saved. No other stage of a run has an error of this kind. -/
def SyncError.IsUnsaved : SyncError → Prop
  | .file _ => True
  | _ => False

/-- The rules or the state could not be read. -/
def SyncError.IsUnread : SyncError → Prop
  | .rules _ | .state _ => True
  | _ => False

namespace Sync

/-- What holds of the world still holds after all that a run can do once the files have been read,
and the errors that it can meet then are allowed ones, but for those of saving the state. -/
structure Confines (service : LedgerService σ) (kept : World σ → Prop)
    (allowed : SyncError → Prop) : Prop where
  noted : ∀ world event, kept world → kept (world.noted event)
  filed : ∀ world files, kept world → kept { world with files }
  fetched : ∀ world kind query, kept world →
    kept (world.answered (service.fetchAll kind query world.service)) ∧
      ∀ error, (service.fetchAll kind query world.service).result = .error error →
        allowed (.service error)
  replaced : ∀ world id record, kept world →
    kept (world.answered (service.replaceEntry id record world.service)) ∧
      ∀ error, (service.replaceEntry id record world.service).result = .error error →
        allowed (.service error)
  record : ∀ error, allowed (.record error)
  reference : ∀ error, allowed (.reference error)

theorem Confines.of_errors (service : LedgerService σ) {allowed : SyncError → Prop}
    (answer : ∀ error, allowed (.service error)) (record : ∀ error, allowed (.record error))
    (reference : ∀ error, allowed (.reference error)) :
    Confines service (fun _ => True) allowed where
  noted _ _ _ := trivial
  filed _ _ _ := trivial
  fetched _ _ _ _ := ⟨trivial, fun error _ => answer error⟩
  replaced _ _ _ _ := ⟨trivial, fun error _ => answer error⟩
  record := record
  reference := reference

section Confined

variable {service : LedgerService σ} {kept : World σ → Prop} {allowed : SyncError → Prop}

theorem confined_loadRules (read : ∀ error, allowed (.rules error)) (options : SyncOptions) :
    Confined kept allowed (loadRules options : Sync σ RuleSet) := by
  intro world holds
  rw [outcome_loadRules]
  refine ⟨holds, ?_⟩
  cases options.rulesIn world.files with
  | error fault =>
      rintro error ⟨⟩
      exact read fault
  | ok rules => exact allowed_of_ok

theorem Confines.note (confines : Confines service kept allowed) (event : Event) :
    Confined kept allowed (note event : Sync σ Unit) :=
  fun world holds => ⟨confines.noted world event holds, allowed_of_ok⟩

theorem Confines.loadState (confines : Confines service kept allowed)
    (read : ∀ error, allowed (.state error)) (options : SyncOptions) (fingerprint : String) :
    Confined kept allowed (loadState options fingerprint : Sync σ SyncState) := by
  intro world holds
  cases loaded : options.stateIn world.files with
  | error fault =>
      rw [outcome_loadState_error loaded]
      refine ⟨holds, ?_⟩
      rintro error ⟨⟩
      exact read fault
  | ok stored =>
      simp only [Sync.loadState, outcome_bind, outcome_get, loaded]
      cases stored.lostCursor? fingerprint with
      | none => exact ⟨holds, allowed_of_ok⟩
      | some cursor => exact ⟨confines.noted world _ holds, allowed_of_ok⟩

theorem confined_call {α : Type} {operation : σ → ServiceAnswer σ α}
    (answers : ∀ world, kept world → kept (world.answered (operation world.service)) ∧
      ∀ error, (operation world.service).result = .error error → allowed (.service error)) :
    Confined kept allowed (call operation) := by
  intro world holds
  obtain ⟨after, known⟩ := answers world holds
  rw [outcome_call]
  refine ⟨after, ?_⟩
  cases answered : (operation world.service).result with
  | error fault =>
      rintro error ⟨⟩
      exact known fault answered
  | ok value => exact allowed_of_ok

theorem Confines.fetch (confines : Confines service kept allowed) (kind : RecordKind)
    (query : Option EntryQuery) : Confined kept allowed (fetch service kind query) :=
  (confines.note _).bind fun _ =>
    confined_call fun world holds => confines.fetched world kind query holds

theorem Confines.fetchEntries (confines : Confines service kept allowed) (query : EntryQuery) :
    Confined kept allowed (fetchEntries service query) := by
  apply (confines.fetch .entry query).bind
  intro fetched
  cases Entry.ofRecords fetched.records with
  | error error => exact confined_throw (confines.record error)
  | ok entries => exact confined_pure _

theorem Confines.fetchReferences (confines : Confines service kept allowed) (kind : RecordKind) :
    Confined kept allowed (fetchReferences service kind) := by
  apply (confines.fetch kind none).bind
  intro fetched
  cases Reference.ofRecords kind fetched.records with
  | error error => exact confined_throw (confines.record error)
  | ok references => exact confined_pure _

theorem Confines.fetchContext (confines : Confines service kept allowed) :
    Confined kept allowed (fetchContext service) := by
  apply (confines.fetchReferences .account).bind
  intro accounts
  apply (confines.fetchReferences .category).bind
  intro categories
  exact (confines.fetchReferences .tag).bind fun tags => confined_pure _

theorem Confines.planChanges (confines : Confines service kept allowed) (rules : RuleSet)
    (context : Context) (entries : List Entry) :
    Confined kept allowed (planChanges rules context entries : Sync σ (List EntryChange)) := by
  simp only [Sync.planChanges]
  cases changes rules.rules context entries with
  | error error => exact confined_throw (confines.reference error)
  | ok planned => exact (confines.note _).bind fun _ => confined_pure planned

theorem Confines.evaluate (confines : Confines service kept allowed) (options : SyncOptions)
    (rules : RuleSet) (state : SyncState) (entries : List Entry) (watermark : Option String) :
    Confined kept allowed (evaluate service options rules state entries watermark) := by
  simp only [Sync.evaluate]
  cases entries.isEmpty with
  | true => exact (confines.note _).bind fun _ => confined_pure _
  | false =>
      apply confines.fetchContext.bind
      intro context
      exact (confines.planChanges rules context entries).bind fun _ => confined_pure _

theorem Confines.prepare (confines : Confines service kept allowed)
    (rulesRead : ∀ error, allowed (.rules error)) (stateRead : ∀ error, allowed (.state error))
    (options : SyncOptions) : Confined kept allowed (prepare service options) := by
  refine Confined.bind (confined_loadRules rulesRead options) ?_
  intro rules
  refine Confined.bind (confines.loadState stateRead options _) ?_
  intro state
  apply (confines.fetchEntries _).bind
  intro fetched
  exact confines.evaluate options rules state _ _

theorem Confines.submit (confines : Confines service kept allowed) (change : EntryChange) :
    Confined kept allowed (submit service change) := by
  apply Confined.bind
  · exact confined_call fun world holds => confines.replaced world _ _ holds
  · exact fun _ => (confines.note _).bind fun _ => confines.note _

theorem Confines.carryOut (confines : Confines service kept allowed) (isDryRun : Bool)
    (planned : List EntryChange) : Confined kept allowed (carryOut service isDryRun planned) := by
  induction planned with
  | nil => exact confined_pure ()
  | cons change rest ih =>
      apply Confined.bind
      · exact confines.note _
      · intro _
        cases isDryRun with
        | true => exact ih
        | false => exact (confines.submit change).bind fun _ => ih

theorem Confines.saveState (confines : Confines service kept allowed)
    (saving : ∀ error, allowed (.file error)) (path : Path) (state : SyncState) :
    Confined kept allowed (saveState path state : Sync σ Unit) := by
  intro world holds
  simp only [Sync.saveState, outcome_bind, outcome_get]
  generalize (SyncState.save path state).run world.files = saved
  obtain ⟨fault | _, files⟩ := saved
  · refine ⟨confines.filed world files holds, ?_⟩
    rintro error ⟨⟩
    exact saving fault
  · exact ⟨confines.filed world files holds, allowed_of_ok⟩

theorem Confines.conclude (confines : Confines service kept allowed)
    (saving : ∀ error, allowed (.file error)) (options : SyncOptions) (prepared : Preparation) :
    Confined kept allowed (conclude service options prepared) := by
  cases prepared with
  | idle state => exact confined_pure _
  | planned state entries watermark planned =>
      apply (confines.carryOut options.isDryRun planned).bind
      intro _
      cases options.isDryRun with
      | true => exact confined_pure _
      | false =>
          apply (confines.saveState saving options.stateFile (state.advance watermark)).bind
          exact fun _ => (confines.note _).bind fun _ => confined_pure _

/-- What everything in a run keeps and allows, the whole run does. -/
theorem Confines.runSync (confines : Confines service kept allowed)
    (rulesRead : ∀ error, allowed (.rules error)) (stateRead : ∀ error, allowed (.state error))
    (saving : ∀ error, allowed (.file error)) (options : SyncOptions) :
    Confined kept allowed (runSync service options) := by
  rw [runSync_eq]
  exact (confines.prepare rulesRead stateRead options).bind (confines.conclude saving options)

end Confined

theorem neverUnsaved_prepare (service : LedgerService σ) (options : SyncOptions) :
    Raises (fun error => ¬error.IsUnsaved) (prepare service options) := by
  have confines : Confines service (fun _ => True) fun error => ¬error.IsUnsaved :=
    .of_errors service (fun _ => id) (fun _ => id) (fun _ => id)
  exact (confines.prepare (fun _ => id) (fun _ => id) options).raises

end Sync

/-! Where a run is refused for what the files hold. -/

section Unread

variable (service : LedgerService σ) {options : SyncOptions} {before : World σ}

theorem runSync_of_rules_unread {error : RulesFileError}
    (unread : options.rulesIn before.files = .error error) :
    outcome (runSync service options) before = (.error (.rules error), before) := by
  rw [runSync, outcome_bind, outcome_loadRules, unread]
  rfl

theorem runSync_of_state_unread {rules : RuleSet} {error : StateError}
    (loaded : options.rulesIn before.files = .ok rules)
    (unread : options.stateIn before.files = .error error) :
    outcome (runSync service options) before = (.error (.state error), before) := by
  simp only [runSync]
  rw [outcome_bind, outcome_loadRules, loaded]
  exact outcome_bind_error (outcome_loadState_error unread) _

theorem runSync_of_opened (opening : Opening options before.files) {error : SyncError}
    (failed : (outcome (runSync service options) before).1 = .error error) : ¬error.IsUnread := by
  have confines : Confines service (fun _ => True) fun error => ¬error.IsUnread :=
    .of_errors service (fun _ => id) (fun _ => id) (fun _ => id)
  rw [runSync_opened service opening] at failed
  refine Confined.raises (Confined.bind (confines.fetchEntries opening.query) ?_) _ _ failed
  rintro ⟨entries, watermark⟩
  simp only [process_eq]
  apply (confines.evaluate options opening.rules opening.state _ _).bind
  exact confines.conclude (fun _ => id) options

theorem runSync_rules_iff {error : RulesFileError} :
    (outcome (runSync service options) before).1 = .error (.rules error) ↔
      options.rulesIn before.files = .error error := by
  constructor
  · intro failed
    cases rules : options.rulesIn before.files with
    | error fault =>
        rw [runSync_of_rules_unread service rules] at failed
        cases failed
        rfl
    | ok loaded =>
        cases state : options.stateIn before.files with
        | error fault =>
            rw [runSync_of_state_unread service rules state] at failed
            cases failed
        | ok stored =>
            exact (runSync_of_opened service ⟨loaded, stored, rules, state⟩ failed trivial).elim
  · intro unread
    rw [runSync_of_rules_unread service unread]

theorem runSync_state_iff {error : StateError} :
    (outcome (runSync service options) before).1 = .error (.state error) ↔
      (∃ rules, options.rulesIn before.files = .ok rules) ∧
        options.stateIn before.files = .error error := by
  constructor
  · intro failed
    cases rules : options.rulesIn before.files with
    | error fault =>
        rw [runSync_of_rules_unread service rules] at failed
        cases failed
    | ok loaded =>
        cases state : options.stateIn before.files with
        | error fault =>
            rw [runSync_of_state_unread service rules state] at failed
            cases failed
            exact ⟨⟨loaded, rfl⟩, rfl⟩
        | ok stored =>
            exact (runSync_of_opened service ⟨loaded, stored, rules, state⟩ failed trivial).elim
  · rintro ⟨⟨rules, loaded⟩, unread⟩
    rw [runSync_of_state_unread service loaded unread]

end Unread

end LedgerRules
