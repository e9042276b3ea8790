import LedgerRules.Proofs.Sync.Archive

/-!
A service that keeps a shelf of records, and what a live run does to it: it stores the first of the
planned changes, as many as the service accepts, and saves the state after the last of them.
-/

namespace LedgerRules

open Effect Sync

variable {σ : Type}

/-- A service whose answers to a query for entries change only by what has been stored, record for
record, and whose catalogs do not change at all. -/
structure Shelf (service : LedgerService σ) (query : EntryQuery) (catalog : RecordKind → List Json)
    (watermark : Option String) where
  records : σ → List Json
  listed_entries : ∀ state,
    (service.fetchAll .entry (some query) state).result = .ok ⟨records state, watermark⟩
  listed_catalog : ∀ kind, kind ≠ .entry → ∀ state, ∃ mark,
    (service.fetchAll kind none state).result = .ok ⟨catalog kind, mark⟩
  kept : ∀ kind query state,
    records (service.fetchAll kind query state).state = records state
  stored : ∀ id record state, (service.replaceEntry id record state).result = .ok () →
    records (service.replaceEntry id record state).state = replaceRecord id record (records state)
  refused : ∀ id record state error,
    (service.replaceEntry id record state).result = .error error →
    records (service.replaceEntry id record state).state = records state

theorem Pending.after {rules : List Rule} {context : Context} {records : List Json}
    {done rest : List EntryChange} (pending : Pending rules context records (done ++ rest))
    (undescribed : ∀ change ∈ done, change.diff.description = none) :
    Pending rules context (storeAll done records) rest := by
  induction done generalizing records with
  | nil => exact pending
  | cons change later ih =>
      have next := pending.step (undescribed change List.mem_cons_self)
      exact ih next fun other member => undescribed other (List.mem_cons_of_mem _ member)

variable {service : LedgerService σ} {query : EntryQuery} {catalog : RecordKind → List Json}
  {watermark : Option String}

def Shelf.archive (shelf : Shelf service query catalog watermark) : Archive service catalog :=
  ⟨shelf.records, shelf.listed_catalog, shelf.kept, shelf.stored⟩

/-- Between two worlds exactly some changes have been stored, each of them once and in order. -/
structure Made (shelf : Shelf service query catalog watermark) (done : List EntryChange)
    (before after : World σ) : Prop where
  replacements : after.replacements = before.replacements ++ done.map EntryChange.replacement
  records : shelf.records after.service = storeAll done (shelf.records before.service)

namespace Made

variable {shelf : Shelf service query catalog watermark}

theorem trans {first second : List EntryChange} {before middle after : World σ}
    (left : Made shelf first before middle) (right : Made shelf second middle after) :
    Made shelf (first ++ second) before after where
  replacements := by
    rw [right.replacements, left.replacements, List.map_append, List.append_assoc]
  records := by
    rw [right.records, left.records, storeAll_append]

theorem of_prepared {before after : World σ} (prepared : Prepared service before after) :
    Made shelf [] before after :=
  ⟨by simp [prepared.replacements], shelf.archive.records_of_asked prepared.asked⟩

theorem of_accepted {shown done : List EntryChange} {before after : World σ}
    (accepted : Accepted service done before.service after.service)
    (told : Told shown done before after) : Made shelf done before after :=
  ⟨told.replacements, shelf.archive.records_of_accepted accepted⟩

end Made

inductive Attempt (shelf : Shelf service query catalog watermark) (path : Path)
    (state : SyncState) (planned : List EntryChange) (before : World σ) :
    Except SyncError SyncReport × World σ → Prop where
  | aborted {done rest : List EntryChange} {error : ServiceError} {after : World σ}
      (split : planned = done ++ rest) (made : Made shelf done before after)
      (unsaved : after.files = before.files) :
      Attempt shelf path state planned before (.error (.service error), after)
  | unsaved {error : FileError} {after : World σ} :
      Attempt shelf path state planned before (.error (.file error), after)
  | completed {report : SyncReport} {after : World σ} (made : Made shelf planned before after)
      (filed : Filed path state (shelf.records before.service) before.files after.files) :
      Attempt shelf path state planned before (.ok report, after)

variable {options : SyncOptions} {before : World σ} {opening : Opening options before.files}

theorem Pending.exists_plan (shelf : Shelf service opening.query catalog watermark)
    {context : Context} {planned : List EntryChange}
    (pending : Pending opening.rules.rules context (shelf.records before.service) planned)
    (readable : shelf.records before.service ≠ [] →
      Context.ofRecords (catalog .account) (catalog .category) (catalog .tag) = .ok context) :
    ∃ plan : Plan service opening, plan.changes = planned ∧
      plan.fetched = ⟨shelf.records before.service, watermark⟩ := by
  obtain ⟨entries, read, planable⟩ := pending.evaluated
  have looked (filled : entries ≠ []) : opening.context service = .ok context := by
    rw [opening.context_of_listed shelf.listed_catalog,
      readable ((Entry.ofRecords_eq_nil_iff read).not.mp filled)]
    rfl
  exact ⟨.ofEntries (shelf.listed_entries before.service) read looked planable, rfl, rfl⟩

theorem runSync_attempt {files : Files} (opening : Opening options files)
    (shelf : Shelf service opening.query catalog watermark) (live : options.isDryRun = false)
    {before : World σ} (same : before.files = files) {context : Context}
    {planned : List EntryChange}
    (pending : Pending opening.rules.rules context (shelf.records before.service) planned)
    (readable : shelf.records before.service ≠ [] →
      Context.ofRecords (catalog .account) (catalog .category) (catalog .tag) = .ok context) :
    Attempt shelf options.stateFile (opening.state.advance watermark) planned before
      (outcome (runSync service options) before) := by
  subst same
  obtain ⟨plan, rfl, fetched⟩ := pending.exists_plan shelf readable
  rcases plan.run_cases live with
    ⟨report, after, carried⟩ | ⟨_, ready, error, after, prepared, stopped, ending⟩
  · obtain ⟨ready, prepared, accepted, told⟩ := carried.made
    have unmade : Made shelf [] before ready := .of_prepared prepared
    have made := unmade.trans (.of_accepted accepted told)
    have filed := carried.filed
    rw [fetched] at filed
    rw [carried.done]
    exact .completed made filed
  · have unmade : Made shelf [] before ready := .of_prepared prepared
    rw [stopped]
    cases ending with
    | refused _ split accepted failed ended told kept =>
        refine .aborted split (unmade.trans ⟨told.replacements, ?_⟩) (kept.trans prepared.files)
        rw [ended, LedgerService.update, shelf.refused _ _ _ _ failed]
        exact shelf.archive.records_of_accepted accepted
    | unsaved => exact .unsaved

end LedgerRules
