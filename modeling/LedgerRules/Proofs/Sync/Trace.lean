import LedgerRules.Proofs.Sync.Inversion

/-!
What the events of a run tell: which entries it asked for, what it showed, and which records it
replaced. A run that gets as far as asking asks once.
-/

namespace LedgerRules

open Effect Sync

variable {σ : Type}

def Event.entryQuery? : Event → Option EntryQuery
  | .queried .entry query => query
  | _ => none

def Event.replacement? : Event → Option (String × Json)
  | .replaced id record => some (id, record)
  | _ => none

def Event.echo? : Event → Option String
  | .echoed text => some text
  | _ => none

namespace World

def entryQueries (world : World σ) : List EntryQuery := world.events.filterMap Event.entryQuery?

def replacements (world : World σ) : List (String × Json) :=
  world.events.filterMap Event.replacement?

def echoes (world : World σ) : List String := world.events.filterMap Event.echo?

@[simp] theorem entryQueries_noted (world : World σ) (event : Event) :
    (world.noted event).entryQueries = world.entryQueries ++ event.entryQuery?.toList := by
  cases query : event.entryQuery? <;> simp [entryQueries, noted, query]

@[simp] theorem replacements_noted (world : World σ) (event : Event) :
    (world.noted event).replacements = world.replacements ++ event.replacement?.toList := by
  cases replacement : event.replacement? <;> simp [replacements, noted, replacement]

@[simp] theorem echoes_noted (world : World σ) (event : Event) :
    (world.noted event).echoes = world.echoes ++ event.echo?.toList := by
  cases echo : event.echo? <;> simp [echoes, noted, echo]

theorem filterMap_logged {α : Type} (view : Event → Option α)
    (silent : ∀ record, view (.logged record) = none) (log : List LogRecord) :
    (log.map Event.logged).filterMap view = [] := by
  rw [List.filterMap_map]
  exact List.filterMap_eq_nil_iff.mpr fun record _ => silent record

@[simp] theorem entryQueries_answered {α : Type} (world : World σ) (answer : ServiceAnswer σ α) :
    (world.answered answer).entryQueries = world.entryQueries := by
  simp [entryQueries, answered, List.filterMap_append,
    filterMap_logged Event.entryQuery? fun _ => rfl]

@[simp] theorem replacements_answered {α : Type} (world : World σ) (answer : ServiceAnswer σ α) :
    (world.answered answer).replacements = world.replacements := by
  simp [replacements, answered, List.filterMap_append,
    filterMap_logged Event.replacement? fun _ => rfl]

@[simp] theorem echoes_answered {α : Type} (world : World σ) (answer : ServiceAnswer σ α) :
    (world.answered answer).echoes = world.echoes := by
  simp [echoes, answered, List.filterMap_append, filterMap_logged Event.echo? fun _ => rfl]

end World

theorem kept_entryQueries (service : LedgerService σ) :
    Kept service (·.entryQuery? = none) (Unchanged (World.entryQueries (σ := σ))) where
  noted world event silent := by simp [Unchanged, silent]
  fetched world kind query := by simp [Unchanged]

theorem Opening.entryQueries_world {options : SyncOptions} {files : Files}
    (opening : Opening options files) (before : World σ) :
    (opening.world before).entryQueries = before.entryQueries := by
  simp only [Opening.world]
  split <;> simp [Event.entryQuery?]

theorem entryQueries_runSync (service : LedgerService σ) {options : SyncOptions}
    {before : World σ} (opening : Opening options before.files) :
    (outcome (runSync service options) before).2.entryQueries =
      before.entryQueries ++ [opening.query] := by
  have asked (world : World σ) :
      (outcome (fetchEntries service opening.query) world).2.entryQueries =
        world.entryQueries ++ [opening.query] := by
    simp only [fetchEntries, outcome_bind, outcome_fetch]
    cases (service.fetchAll .entry (some opening.query) world.service).result with
    | error error => simp [Except.mapError, Event.entryQuery?]
    | ok fetched =>
        simp only [Except.mapError]
        cases Entry.ofRecords fetched.records <;> simp [Event.entryQuery?]
  have first := asked (opening.world before)
  rw [opening.entryQueries_world] at first
  rw [runSync_opened service opening, outcome_bind]
  generalize outcome (fetchEntries service opening.query) (opening.world before) = fetched
    at first ⊢
  obtain ⟨error | ⟨entries, watermark⟩, middle⟩ := fetched
  · exact first
  · have rest := keeps_process (kept_entryQueries service)
      (fun world id record => by simp [Unchanged]) (fun _ _ => rfl)
      (fun kind other => by cases kind <;> first | exact absurd rfl other | rfl)
      (fun _ => rfl) (fun _ => rfl) (fun _ _ => rfl)
      options opening.rules opening.state entries watermark middle
    exact rest.trans first

end LedgerRules
