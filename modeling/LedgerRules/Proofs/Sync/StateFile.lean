import LedgerRules.Proofs.Sync.Completed

/-!
When the state file changes. A call saves the state if it is live, has fetched entries and reports
that it has saved; every other call, whatever it ends with, leaves the file as it was.
-/

namespace LedgerRules

open Effect Sync

variable {σ : Type}

namespace SyncState

@[simp] theorem rulesHash_resolve (stored : SyncState) (rulesHash : String) :
    (stored.resolve rulesHash).rulesHash = some rulesHash := by
  simp only [resolve]
  split <;> simp_all

theorem resolve_cases (stored : SyncState) (rulesHash : String) :
    (stored.rulesHash = some rulesHash ∧ stored.resolve rulesHash = stored) ∨
      (stored.resolve rulesHash).since = none := by
  by_cases same : stored.rulesHash = some rulesHash
  · exact .inl ⟨same, if_pos same⟩
  · rw [resolve, if_neg same]
    exact .inr rfl

@[simp] theorem rulesHash_advance (state : SyncState) (watermark : Option String) :
    (state.advance watermark).rulesHash = state.rulesHash := by
  cases watermark <;> rfl

theorem since_advance (state : SyncState) (watermark : Option String) :
    (state.advance watermark).since = (watermark <|> state.since) := by
  cases watermark <;> rfl

end SyncState

/-- A call was live, fetched something and reports that it has saved the state. -/
def HasSaved (options : SyncOptions) (result : Except SyncError SyncReport) : Prop :=
  options.isDryRun = false ∧
    ∃ report, result = .ok report ∧ 0 < report.fetched ∧ report.stateSaved = true

/-- What a call that saves stands for: it has read rules and state, the service has answered, and
the file holds the state after that. -/
structure Saving (service : LedgerService σ) (options : SyncOptions) (before after : World σ) where
  opening : Opening options before.files
  fetched : FetchResult
  answered : (service.fetchAll .entry (some opening.query) before.service).result = .ok fetched
  stored : after.files.find options.stateFile =
    .ok (.file (opening.state.advance fetched.watermark).encode)

theorem Completed.hasSaved {service : LedgerService σ} {options : SyncOptions}
    {before after : World σ} {report : SyncReport}
    (completed : Completed service options before report after) (filled : completed.entries ≠ [])
    (live : options.isDryRun = false) (saved : report.stateSaved = true) :
    HasSaved options (.ok report) := by
  refine ⟨live, report, rfl, ?_, saved⟩
  rw [completed.report_fetched]
  exact List.length_pos_iff.mpr filled

theorem Opening.rulesHash_advance {options : SyncOptions} {files : Files}
    (opening : Opening options files) (watermark : Option String) :
    (opening.state.advance watermark).rulesHash = some opening.rules.fingerprint := by
  rw [SyncState.rulesHash_advance, Opening.state, SyncState.rulesHash_resolve]

theorem hasSaved_cases (service : LedgerService σ) (options : SyncOptions) (before : World σ) :
    (¬ HasSaved options (outcome (runSync service options) before).1 ∧
        Files.Untouched options.stateFile before.files
          (outcome (runSync service options) before).2.files) ∨
      (HasSaved options (outcome (runSync service options) before).1 ∧
        Nonempty (Saving service options before (outcome (runSync service options) before).2)) := by
  rcases runSync_cases service options before with
    ⟨error, after, failed, untouched⟩ | ⟨report, after, done, ⟨completed⟩⟩
  · rw [failed]
    refine .inl ⟨?_, untouched⟩
    rintro ⟨_, report, impossible, _⟩
    simp at impossible
  rw [done]
  rcases completed.settled with ⟨none_fetched, _, _, same⟩ | ⟨filled, _, settled⟩
  · refine .inl ⟨?_, Files.untouched_of_eq _ same⟩
    rintro ⟨_, other, reported, positive, _⟩
    obtain rfl : report = other := by simpa using reported
    simp [completed.report_fetched, none_fetched] at positive
  cases settled with
  | shown dry _ same =>
      refine .inl ⟨?_, Files.untouched_of_eq _ same⟩
      rintro ⟨live, _⟩
      simp [live] at dry
  | saved live saved _ stored =>
      exact .inr ⟨completed.hasSaved filled live saved,
        ⟨completed.opening, completed.fetched, completed.answered, stored⟩⟩

/-- A call that has not saved leaves the state file as it was, and a call that has saved leaves
the fingerprint of its rules there and the watermark of its fetch; without a watermark the cursor
stays that the rules have left. -/
theorem stateFile_changes_only_by_saving (service : LedgerService σ) (options : SyncOptions)
    (before : World σ) :
    let path := options.stateFile
    let (result, after) := outcome (runSync service options) before
    (¬ HasSaved options result ∧ Files.Untouched path before.files after.files) ∨
      (HasSaved options result ∧
        ∃ (opening : Opening options before.files) (fetched : FetchResult),
          (service.fetchAll .entry (some opening.query) before.service).result = .ok fetched ∧
          SyncState.load after.files path =
            .ok ⟨fetched.watermark <|> opening.state.since, some opening.rules.fingerprint⟩) := by
  rcases hasSaved_cases service options before with unsaved | ⟨saved, ⟨saving⟩⟩
  · exact .inl unsaved
  · refine .inr ⟨saved, saving.opening, saving.fetched, saving.answered, ?_⟩
    rw [← SyncState.since_advance, ← saving.opening.rulesHash_advance saving.fetched.watermark]
    exact load_of_find saving.stored

end LedgerRules
