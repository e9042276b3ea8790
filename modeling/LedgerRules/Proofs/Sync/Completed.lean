import LedgerRules.Proofs.Sync.Preparing

/-!
What a whole run amounts to. A run that reports has read rules and state, fetched and read entries,
and either found nothing to fetch, or planned changes and then, unless it was a dry run, made them
and saved the state. A run that fails leaves the state file alone.
-/

namespace LedgerRules

open Effect Sync

variable {σ : Type}

inductive Settled (options : SyncOptions) (state : SyncState) (before after : Files)
    (report : SyncReport) : Prop where
  | shown (dry : options.isDryRun = true) (unsaved : report.stateSaved = false)
      (unchanged : after = before)
  | saved (live : options.isDryRun = false) (saved : report.stateSaved = true)
      (advanced : report.state = state)
      (stored : after.find options.stateFile = .ok (.file state.encode))

/-- What a run that reports has done: it has fetched entries and evaluated all of them, and it has
saved the state unless there were none or they were only shown. -/
structure Completed (service : LedgerService σ) (options : SyncOptions) (before : World σ)
    (report : SyncReport) (after : World σ) where
  opening : Opening options before.files
  fetched : FetchResult
  entries : List Entry
  answered : (service.fetchAll .entry (some opening.query) before.service).result = .ok fetched
  entries_read : Entry.ofRecords fetched.records = .ok entries
  report_fetched : report.fetched = entries.length
  settled :
    (entries = [] ∧ report.changes = [] ∧ report.stateSaved = false ∧
      after.files = before.files) ∨
    (entries ≠ [] ∧
      (∃ context, opening.context service = .ok context ∧
        changes opening.rules.rules context entries = .ok report.changes) ∧
      Settled options (opening.state.advance fetched.watermark) before.files after.files report)

/-- A run fails and does not touch the state file, or it completes. -/
theorem runSync_cases (service : LedgerService σ) (options : SyncOptions) (before : World σ) :
    (∃ error after, outcome (runSync service options) before = (.error error, after) ∧
        Files.Untouched options.stateFile before.files after.files) ∨
      ∃ report after, outcome (runSync service options) before = (.ok report, after) ∧
        Nonempty (Completed service options before report after) := by
  rcases isEmpty_or_nonempty (Opening options before.files) with unopened | ⟨⟨opening⟩⟩
  · obtain ⟨error, failed⟩ := runSync_unopened service unopened
    exact .inl ⟨error, before, failed, Files.untouched_of_eq _ rfl⟩
  rcases runSync_prepared service opening with
    ⟨_, error, after, failed, prepared⟩ | ⟨plan, ready, prepared, finished⟩
  · exact .inl ⟨error, after, failed, Files.untouched_of_eq _ prepared.files⟩
  have completed {report : SyncReport} {after : World σ}
      (counted : report.fetched = plan.entries.length) (settled) :
      Completed service options before report after :=
    ⟨opening, plan.fetched, plan.entries, plan.answered, plan.read, counted, settled⟩
  rw [finished]
  rcases plan.finish_cases ready with ⟨empty, _, idle⟩ | ⟨filled, ending⟩
  · rw [idle]
    refine .inr ⟨_, ready, rfl, ⟨completed ?_ (.inl ⟨empty, rfl, rfl, prepared.files⟩)⟩⟩
    rw [empty]
    rfl
  obtain ⟨context, looked, planned⟩ := (plan.evaluated.resolve_left fun idle => filled idle.1).2
  generalize outcome plan.finish ready = result at ending ⊢
  cases ending with
  | @shown after dry _ _ same =>
      exact .inr ⟨_, after, rfl, ⟨completed rfl (.inr ⟨filled, ⟨context, looked, planned⟩,
        .shown dry rfl (same.trans prepared.files)⟩)⟩⟩
  | @refused _ _ _ _ _ after _ _ _ _ _ _ same =>
      exact .inl ⟨_, after, rfl, Files.untouched_of_eq _ (same.trans prepared.files)⟩
  | @unsaved _ after _ _ _ failed =>
      rw [prepared.files] at failed
      exact .inl ⟨_, after, rfl, Files.untouched_of_replace failed⟩
  | @saved after live _ _ stored =>
      exact .inr ⟨_, after, rfl, ⟨completed rfl (.inr ⟨filled, ⟨context, looked, planned⟩,
        .saved live rfl rfl (Files.find_of_replace stored)⟩)⟩⟩

theorem Completed.of_done {service : LedgerService σ} {options : SyncOptions} {before : World σ}
    {report : SyncReport} {after : World σ}
    (done : outcome (runSync service options) before = (.ok report, after)) :
    Nonempty (Completed service options before report after) := by
  rcases runSync_cases service options before with
    ⟨_, _, failed, _⟩ | ⟨other, otherAfter, finished, completed⟩
  · rw [done] at failed
    simp at failed
  · rw [done] at finished
    simp only [Prod.mk.injEq, Except.ok.injEq] at finished
    obtain ⟨rfl, rfl⟩ := finished
    exact completed

end LedgerRules
