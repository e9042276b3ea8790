import LedgerRules.Rules.File
import LedgerRules.Rules.Run
import LedgerRules.Sync.Service
import LedgerRules.Sync.State

/-!
A run: fetch the entries that changed, find out what the rules change in them, and show or make the
changes. The cursor moves only after all changes have been made, so that a run after a failed one
begins where that one began.
-/

namespace LedgerRules

structure SyncOptions where
  rulesPath : String
  statePath : String
  first : Date
  last : Date
  isDryRun : Bool
  isFull : Bool
  platform : Platform

namespace SyncOptions

def rulesIn (options : SyncOptions) (files : Files) : Except RulesFileError RuleSet :=
  match options.platform.path? options.rulesPath with
  | none => .error .homeUnknown
  | some path => RuleSet.load options.platform files path

/-- Where the state is stored. A path that cannot be written in full stands for itself, and nothing
is ever stored there: the state is read before anything else is done, and that fails. -/
def stateFile (options : SyncOptions) : Path :=
  (options.platform.path? options.statePath).getD (Path.ofText options.statePath)

def isStateTooDeep (options : SyncOptions) (files : Files) : Bool :=
  (files.content? options.stateFile).any fun content => options.platform.exhausts (.json content)

def stateIn (options : SyncOptions) (files : Files) : Except StateError SyncState :=
  if (options.platform.path? options.statePath).isNone then .error .homeUnknown
  else if options.isStateTooDeep files then .error .tooDeep
  else SyncState.load files options.stateFile

end SyncOptions

inductive Event where
  | queried (kind : RecordKind) (query : Option EntryQuery)
  | replaced (id : String) (record : Json)
  | echoed (text : String)
  | logged (record : LogRecord)

structure World (σ : Type) where
  service : σ
  files : Files
  events : List Event := []

inductive SyncError where
  | rules (error : RulesFileError)
  | state (error : StateError)
  | record (error : RecordError)
  | reference (error : ReferenceError)
  | service (error : ServiceError)
  | file (error : FileError)

def SyncError.message : SyncError → String
  | .rules error => error.message
  | .state error => error.message
  | .record error => error.message
  | .reference error => error.message
  | .service error => error.message
  | .file error => error.message

structure SyncReport where
  fetched : Nat
  changes : List EntryChange
  applied : Nat
  isDryRun : Bool
  state : SyncState
  stateSaved : Bool

def SyncReport.summary (report : SyncReport) : String :=
  if report.changes.isEmpty then "No changes."
  else if report.isDryRun then
    toString report.changes.length ++ " change(s) pending (dry run)."
  else toString report.applied ++ " change(s) applied."

/-- A part of a run. What has happened stays if it fails. -/
abbrev Sync (σ : Type) := ExceptT SyncError (StateM (World σ))

namespace Sync

variable {σ : Type}

def note (event : Event) : Sync σ Unit :=
  modify fun world => { world with events := world.events ++ [event] }

def log (level : LogLevel) (source : LogSource) (text : String) : Sync σ Unit :=
  note (.logged ⟨level, source, text⟩)

def call {α : Type} (operation : σ → ServiceAnswer σ α) : Sync σ α := do
  let world ← get
  let answer := operation world.service
  set
    { world with
      service := answer.state
      events := world.events ++ answer.log.map Event.logged }
  match answer.result with
  | .ok value => return value
  | .error error => throw (.service error)

def fetch (service : LedgerService σ) (kind : RecordKind) (query : Option EntryQuery) :
    Sync σ FetchResult := do
  note (.queried kind query)
  call (service.fetchAll kind query)

def fetchReferences (service : LedgerService σ) (kind : RecordKind) : Sync σ (List Reference) := do
  let fetched ← fetch service kind none
  match Reference.ofRecords kind fetched.records with
  | .ok references => return references
  | .error error => throw (.record error)

def fetchContext (service : LedgerService σ) : Sync σ Context := do
  let accounts ← fetchReferences service .account
  let categories ← fetchReferences service .category
  let tags ← fetchReferences service .tag
  return .ofItems accounts categories tags

def loadRules (options : SyncOptions) : Sync σ RuleSet := do
  match options.rulesIn (← get).files with
  | .ok rules => return rules
  | .error error => throw (.rules error)

def loadState (options : SyncOptions) (fingerprint : String) : Sync σ SyncState := do
  match options.stateIn (← get).files with
  | .error error => throw (.state error)
  | .ok stored =>
      if let some cursor := stored.lostCursor? fingerprint then
        log .info .state ("Rules changed since last sync; clearing cursor " ++ cursor)
      return stored.resolve fingerprint

def saveState (path : Path) (state : SyncState) : Sync σ Unit := do
  let world ← get
  let (result, files) := (SyncState.save path state).run world.files
  set { world with files }
  match result with
  | .ok _ => return
  | .error error => throw (.file error)

def fetchEntries (service : LedgerService σ) (query : EntryQuery) :
    Sync σ (List Entry × Option String) := do
  let fetched ← fetch service .entry (some query)
  match Entry.ofRecords fetched.records with
  | .ok entries => return (entries, fetched.watermark)
  | .error error => throw (.record error)

def planChanges (rules : RuleSet) (context : Context) (entries : List Entry) :
    Sync σ (List EntryChange) := do
  match changes rules.rules context entries with
  | .error error => throw (.reference error)
  | .ok changes =>
      log .info .sync
        (toString changes.length ++ " of " ++ toString entries.length ++ " entries need changes")
      return changes

def submit (service : LedgerService σ) (change : EntryChange) : Sync σ Unit := do
  let id := change.entry.id
  let record := change.result.toRecord
  call (service.replaceEntry id record)
  note (.replaced id record)
  log .debug .sync ("Updated entry " ++ id)

/-- Shows the changes one after the other, each of them before it is made. -/
def carryOut (service : LedgerService σ) (isDryRun : Bool) : List EntryChange → Sync σ Unit
  | [] => return
  | change :: rest => do
      note (.echoed change.text)
      if !isDryRun then submit service change
      carryOut service isDryRun rest

def filled? (text : Option String) : Option String := text.filter fun text => !text.isEmpty

def openReport (options : SyncOptions) (state : SyncState) (entries : List Entry) : SyncReport where
  fetched := entries.length
  changes := []
  applied := 0
  isDryRun := options.isDryRun
  state
  stateSaved := false

def settle (service : LedgerService σ) (options : SyncOptions) (state : SyncState)
    (watermark : Option String) (report : SyncReport) (changes : List EntryChange) :
    Sync σ SyncReport := do
  carryOut service options.isDryRun changes
  if options.isDryRun then return { report with changes }
  else
    let advanced := state.advance watermark
    saveState options.stateFile advanced
    log .info .sync
      ("Saved sync state to " ++ options.statePath ++ " (since=" ++
        advanced.since.getD "None" ++ ")")
    return { report with
      changes, applied := changes.length, state := advanced, stateSaved := true }

def process (service : LedgerService σ) (options : SyncOptions) (rules : RuleSet)
    (state : SyncState) (entries : List Entry) (watermark : Option String) :
    Sync σ SyncReport := do
  let report := openReport options state entries
  if entries.isEmpty then
    log .info .sync
      ("No entries changed since " ++ (filled? state.since).getD options.first.text)
    return report
  else
    let context ← fetchContext service
    let changes ← planChanges rules context entries
    settle service options state watermark report changes

end Sync

open Sync

def runSync {σ : Type} (service : LedgerService σ) (options : SyncOptions) :
    Sync σ SyncReport := do
  let rules ← loadRules options
  let state ← loadState options rules.fingerprint
  let since := if options.isFull then none else state.since
  let (entries, watermark) ← fetchEntries service ⟨options.first, options.last, since⟩
  process service options rules state entries watermark

end LedgerRules
