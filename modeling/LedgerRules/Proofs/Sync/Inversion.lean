import Mathlib.Logic.IsEmpty.Basic
import LedgerRules.Proofs.Files.Replace
import LedgerRules.Proofs.Sync.Stages
import LedgerRules.Proofs.Sync.StateText

/-!
What a run reads from the files before it asks the service for anything, and how it saves its state
at the end.
-/

namespace LedgerRules

open Effect Sync

variable {σ : Type}

/-- What a run reads from the files before it asks the service for anything. -/
structure Opening (options : SyncOptions) (files : Files) where
  rules : RuleSet
  stored : SyncState
  rules_loaded : options.rulesIn files = .ok rules
  state_loaded : options.stateIn files = .ok stored

namespace Opening

variable {options : SyncOptions} {files : Files}

theorem eq_of_same (left right : Opening options files) : left = right := by
  obtain ⟨leftRules, leftStored, leftLoaded, leftRead⟩ := left
  obtain ⟨rightRules, rightStored, rightLoaded, rightRead⟩ := right
  obtain rfl := Except.ok.inj (leftLoaded.symm.trans rightLoaded)
  obtain rfl := Except.ok.inj (leftRead.symm.trans rightRead)
  rfl

def state (opening : Opening options files) : SyncState :=
  opening.stored.resolve opening.rules.fingerprint

def since (opening : Opening options files) : Option String :=
  if options.isFull then none else opening.state.since

def query (opening : Opening options files) : EntryQuery :=
  ⟨options.first, options.last, opening.since⟩

theorem since_query_of_full (opening : Opening options files) (full : options.isFull = true) :
    opening.query.since = none := by
  simp [query, since, full]

theorem since_query_of_not_full (opening : Opening options files)
    (partly : options.isFull = false) : opening.query.since = opening.state.since := by
  simp [query, since, partly]

def world (opening : Opening options files) (before : World σ) : World σ :=
  match opening.stored.lostCursor? opening.rules.fingerprint with
  | none => before
  | some cursor =>
      before.noted (.logged
        ⟨.info, .state, "Rules changed since last sync; clearing cursor " ++ cursor⟩)

end Opening

theorem outcome_loadRules (options : SyncOptions) (world : World σ) :
    outcome (loadRules options) world =
      ((options.rulesIn world.files).mapError SyncError.rules, world) := by
  simp only [loadRules, outcome_bind, outcome_get]
  cases options.rulesIn world.files <;> rfl

theorem outcome_loadState_error {options : SyncOptions} {fingerprint : String} {world : World σ}
    {error : StateError} (failed : options.stateIn world.files = .error error) :
    outcome (loadState options fingerprint) world = (.error (.state error), world) := by
  simp only [loadState, outcome_bind, outcome_get, failed, outcome_throw]

theorem outcome_loadState_ok {options : SyncOptions} {before : World σ}
    (opening : Opening options before.files) :
    outcome (loadState options opening.rules.fingerprint) before =
      (.ok opening.state, opening.world before) := by
  simp only [loadState, outcome_bind, outcome_get, opening.state_loaded, Opening.world]
  cases opening.stored.lostCursor? opening.rules.fingerprint <;> rfl

theorem runSync_unopened (service : LedgerService σ) {options : SyncOptions} {before : World σ}
    (unopened : IsEmpty (Opening options before.files)) :
    ∃ error, outcome (runSync service options) before = (.error error, before) := by
  simp only [runSync, outcome_bind, outcome_loadRules]
  cases rules : options.rulesIn before.files with
  | error error => exact ⟨_, rfl⟩
  | ok loaded =>
      cases state : options.stateIn before.files with
      | error error =>
          refine ⟨.state error, ?_⟩
          simp only [Except.mapError, outcome_loadState_error state]
      | ok stored => exact unopened.elim ⟨loaded, stored, rules, state⟩

theorem runSync_opened (service : LedgerService σ) {options : SyncOptions} {before : World σ}
    (opening : Opening options before.files) :
    outcome (runSync service options) before =
      outcome (do
        let (entries, watermark) ← fetchEntries service opening.query
        process service options opening.rules opening.state entries watermark)
        (opening.world before) := by
  simp only [runSync]
  rw [outcome_bind, outcome_loadRules, opening.rules_loaded]
  simp only [Except.mapError]
  rw [outcome_bind_ok (outcome_loadState_ok opening)]
  rfl

theorem load_of_find {files : Files} {path : Path} {state : SyncState}
    (found : files.find path = .ok (.file state.encode)) :
    SyncState.load files path = .ok state := by
  have present : files.hasNode path = .ok true := by simp only [Files.hasNode, found]
  have content : files.read path = .ok state.encode := by simp only [Files.read, found]
  simp only [SyncState.load, present, content, Except.mapError, bind, Except.bind, if_true]
  exact SyncState.decode_encode path state

theorem load_of_absent {files : Files} {path : Path} (absent : files.hasNode path = .ok false) :
    SyncState.load files path = .ok {} := by
  simp only [SyncState.load, absent, Except.mapError, bind, Except.bind]
  rfl

namespace SyncOptions

def IsStateKnown (options : SyncOptions) : Prop :=
  (options.platform.path? options.statePath).isSome

instance (options : SyncOptions) : Decidable options.IsStateKnown :=
  inferInstanceAs (Decidable (_ = true))

theorem stateIn_of_known {options : SyncOptions} {files : Files} (known : options.IsStateKnown)
    (flat : options.isStateTooDeep files = false) :
    options.stateIn files = SyncState.load files options.stateFile := by
  have located : (options.platform.path? options.statePath).isNone = false := by
    simpa [IsStateKnown] using known
  simp only [stateIn, located, flat, Bool.false_eq_true, if_false]

theorem stateIn_of_unknown {options : SyncOptions} (unknown : ¬options.IsStateKnown)
    (files : Files) : options.stateIn files = .error .homeUnknown := by
  have missing : (options.platform.path? options.statePath).isNone = true := by
    simpa [IsStateKnown] using unknown
  rw [stateIn, if_pos missing]

theorem stateIn_of_tooDeep {options : SyncOptions} {files : Files} (known : options.IsStateKnown)
    (deep : options.isStateTooDeep files = true) : options.stateIn files = .error .tooDeep := by
  have located : (options.platform.path? options.statePath).isNone = false := by
    simpa [IsStateKnown] using known
  simp only [stateIn, located, deep, Bool.false_eq_true, if_false, if_true]

theorem stateIn_cases {options : SyncOptions} {files : Files} {state : SyncState}
    (loaded : options.stateIn files = .ok state) :
    options.IsStateKnown ∧ options.isStateTooDeep files = false ∧
      SyncState.load files options.stateFile = .ok state := by
  simp only [stateIn] at loaded
  split at loaded
  · cases loaded
  · rename_i known
    replace known : options.IsStateKnown := by
      simpa [IsStateKnown, Option.isSome_iff_ne_none] using known
    split at loaded
    · cases loaded
    · rename_i flat
      exact ⟨known, Bool.eq_false_of_not_eq_true flat, loaded⟩

/-- What a run stores is flat, so that any stack is large enough to read it. -/
theorem stateIn_of_find {options : SyncOptions} {files : Files} {state : SyncState}
    (known : options.IsStateKnown)
    (found : files.find options.stateFile = .ok (.file state.encode)) :
    options.stateIn files = .ok state := by
  have content : files.content? options.stateFile = some state.encode := by
    simp only [Files.content?, Files.read, found]
    rfl
  have flat : options.isStateTooDeep files = false := by
    simp only [isStateTooDeep, content, Option.any_some]
    exact options.platform.reads_flatText
      [("since", state.since), ("rules_hash", state.rulesHash)]
  rw [stateIn_of_known known flat, load_of_find found]

theorem stateIn_of_absent {options : SyncOptions} {files : Files} (known : options.IsStateKnown)
    (absent : files.find options.stateFile = .error .notFound) :
    options.stateIn files = .ok {} := by
  have missing : files.hasNode options.stateFile = .ok false := by
    simp only [Files.hasNode, absent]
  have flat : options.isStateTooDeep files = false := by
    simp only [isStateTooDeep, Files.content?, Files.read, absent]
    rfl
  rw [stateIn_of_known known flat, load_of_absent missing]

theorem rulesIn_of_known {options : SyncOptions} {path : Path}
    (known : options.platform.path? options.rulesPath = some path) (files : Files) :
    options.rulesIn files = RuleSet.load options.platform files path := by
  simp only [rulesIn, known]

end SyncOptions

theorem Opening.isStateKnown {options : SyncOptions} {files : Files}
    (opening : Opening options files) : options.IsStateKnown :=
  (SyncOptions.stateIn_cases opening.state_loaded).1

theorem loadRules_of_find {platform : Platform} {files : Files} {path : Path} {content : Bytes}
    {text : String} {document : Document} (found : files.find path = .ok (.file content))
    (decoded : rulesText content = .ok text) (flat : platform.exhausts (.yaml text) = false)
    (written : Yaml.read text = .ok document) :
    RuleSet.load platform files path = RuleSet.ofDocument platform document := by
  have present : files.hasNode path = .ok true := by simp only [Files.hasNode, found]
  have read : files.read path = .ok content := by simp only [Files.read, found]
  simp only [RuleSet.load, readRulesDocument, present, read, decoded, flat, written,
    Except.mapError, bind, Except.bind]
  rfl

/-- An empty file holds no rules. -/
theorem loadRules_of_empty {files : Files} {path : Path}
    (found : files.find path = .ok (.file [])) :
    RuleSet.load .plain files path = .ok ⟨[], Sha256.hexDigest (Utf8.encode "null")⟩ := by
  have text : rulesText [] = .ok "" := by cbv
  have document : Yaml.read "" = .ok (.scalar .null) := by cbv
  rw [loadRules_of_find found text rfl document]
  rfl

theorem outcome_saveState_ok {path : Path} {state : SyncState} {world : World σ} {files : Files}
    (saved : outcome (Files.replace path state.encode) world.files = (.ok (), files)) :
    outcome (saveState path state) world = (.ok (), { world with files }) := by
  change (SyncState.save path state).run world.files = _ at saved
  simp only [saveState, outcome_bind, outcome_get, saved, outcome_set, outcome_pure]

theorem outcome_saveState_error {path : Path} {state : SyncState} {world : World σ}
    {error : FileError} {files : Files}
    (failed : outcome (Files.replace path state.encode) world.files = (.error error, files)) :
    outcome (saveState path state) world = (.error (.file error), { world with files }) := by
  change (SyncState.save path state).run world.files = _ at failed
  simp only [saveState, outcome_bind, outcome_get, failed, outcome_set, outcome_throw]

abbrev SameFiles : World σ → World σ → Prop := Unchanged World.files

theorem kept_files (service : LedgerService σ) :
    Kept service (fun _ => True) (SameFiles (σ := σ)) :=
  ⟨fun _ _ _ => rfl, fun _ _ _ => rfl⟩

theorem Opening.service_world {options : SyncOptions} {files : Files}
    (opening : Opening options files) (before : World σ) :
    (opening.world before).service = before.service := by
  simp only [Opening.world]
  split <;> rfl

def Opening.context (service : LedgerService σ) {options : SyncOptions} {before : World σ}
    (opening : Opening options before.files) : Except SyncError Context :=
  let (_, fetched) := outcome (fetchEntries service opening.query) (opening.world before)
  (outcome (fetchContext service) fetched).1

def Event.IsPreparing : Event → Prop
  | .queried _ _ | .logged _ => True
  | .replaced _ _ | .echoed _ => False

theorem Opening.keeps_world {service : LedgerService σ} {relation : World σ → World σ → Prop}
    [IsPreorder (World σ) relation] (kept : Kept service Event.IsPreparing relation)
    {options : SyncOptions} {files : Files} (opening : Opening options files) (before : World σ) :
    relation before (opening.world before) := by
  simp only [Opening.world]
  split
  · exact refl_of relation before
  · exact kept.noted before _ trivial

end LedgerRules
