import LedgerRules.Proofs.Sync.Inversion

/-!
A run in two parts. The first part, up to the planned changes, does not depend on whether the run is
a dry one; the second one carries out what has been planned.
-/

namespace LedgerRules

open Effect Sync

variable {σ : Type}

inductive Preparation where
  | idle (state : SyncState)
  | planned (state : SyncState) (entries : List Entry) (watermark : Option String)
      (changes : List EntryChange)

def Preparation.changes : Preparation → List EntryChange
  | .idle _ => []
  | .planned _ _ _ changes => changes

namespace Sync

def evaluate (service : LedgerService σ) (options : SyncOptions) (rules : RuleSet)
    (state : SyncState) (entries : List Entry) (watermark : Option String) :
    Sync σ Preparation := do
  if entries.isEmpty then
    log .info .sync
      ("No entries changed since " ++ (filled? state.since).getD options.first.text)
    return .idle state
  else
    let context ← fetchContext service
    let changes ← planChanges rules context entries
    return .planned state entries watermark changes

/-- The part of a run that comes before the changes are carried out. -/
def prepare (service : LedgerService σ) (options : SyncOptions) : Sync σ Preparation := do
  let rules ← loadRules options
  let state ← loadState options rules.fingerprint
  let since := if options.isFull then none else state.since
  let (entries, watermark) ← fetchEntries service ⟨options.first, options.last, since⟩
  evaluate service options rules state entries watermark

def conclude (service : LedgerService σ) (options : SyncOptions) :
    Preparation → Sync σ SyncReport
  | .idle state => pure (openReport options state [])
  | .planned state entries watermark changes =>
      settle service options state watermark (openReport options state entries) changes

theorem process_eq (service : LedgerService σ) (options : SyncOptions) (rules : RuleSet)
    (state : SyncState) (entries : List Entry) (watermark : Option String) :
    process service options rules state entries watermark =
      evaluate service options rules state entries watermark >>= conclude service options := by
  cases entries with
  | nil => simp only [process, evaluate, List.isEmpty_nil, if_true, bind_assoc, pure_bind, conclude]
  | cons entry rest =>
      simp only [process, evaluate, List.isEmpty_cons, Bool.false_eq_true, if_false, bind_assoc,
        pure_bind, conclude]

theorem runSync_eq (service : LedgerService σ) (options : SyncOptions) :
    runSync service options = prepare service options >>= conclude service options := by
  simp only [runSync, prepare, bind_assoc, process_eq]

section Keeps

variable {service : LedgerService σ} {allowed : Event → Prop}
  {relation : World σ → World σ → Prop} [IsPreorder (World σ) relation]

theorem keeps_evaluate (kept : Kept service allowed relation)
    (asks : ∀ kind query, allowed (.queried kind query))
    (logs : ∀ record, allowed (.logged record)) (options : SyncOptions) (rules : RuleSet)
    (state : SyncState) (entries : List Entry) (watermark : Option String) :
    Keeps relation (evaluate service options rules state entries watermark) := by
  simp only [evaluate]
  cases entries.isEmpty with
  | true => exact (keeps_log kept logs _ _ _).bind fun _ => keeps_pure _
  | false =>
      apply (keeps_fetchContext kept fun kind _ => asks kind none).bind
      intro context
      exact (keeps_planChanges kept logs rules context entries).bind fun _ => keeps_pure _

theorem keeps_prepare (kept : Kept service allowed relation)
    (asks : ∀ kind query, allowed (.queried kind query))
    (logs : ∀ record, allowed (.logged record)) (options : SyncOptions) :
    Keeps relation (prepare service options) := by
  refine Keeps.bind (keeps_loadRules options) ?_
  intro rules
  refine Keeps.bind (keeps_loadState kept logs options _) ?_
  intro state
  apply (keeps_fetchEntries kept _ (asks _ _)).bind
  intro fetched
  exact keeps_evaluate kept asks logs options rules state _ _

end Keeps

end Sync

end LedgerRules
