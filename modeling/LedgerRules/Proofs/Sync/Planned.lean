import LedgerRules.Proofs.Files.Again
import LedgerRules.Proofs.Ledger.Records
import LedgerRules.Proofs.Sync.Preparing

/-!
Live runs that are carried out to their end. There is one plan for what a run begins with; a run
that reports has carried it out, and a run whose plan is known is carried out if the service accepts
all changes and the state can be saved.
-/

namespace LedgerRules

open Effect Sync

variable {σ : Type}

theorem Accepted.next {service : LedgerService σ} {done rest : List EntryChange}
    {change : EntryChange} {before middle after : σ}
    (accepted : Accepted service done before middle)
    (all : Accepted service (done ++ change :: rest) before after) :
    (service.update change middle).result = .ok () := by
  induction accepted with
  | nil =>
      cases all with
      | cons own _ => exact own
  | cons _ _ ih =>
      cases all with
      | cons _ later => exact ih later

/-- The files after a live run that has completed: where there was an entry, the state is saved. -/
def Filed (path : Path) (state : SyncState) (records : List Json) (before after : Files) : Prop :=
  if records = [] then after = before
  else outcome (Files.replace path state.encode) before = (.ok (), after)

namespace Filed

variable {path : Path} {state : SyncState} {records : List Json} {before after : Files}

theorem unique {first second : Files} (left : Filed path state records before first)
    (right : Filed path state records before second) : first = second := by
  unfold Filed at left right
  split at left
  · rename_i empty
    rw [if_pos empty] at right
    rw [left, right]
  · rename_i filled
    rw [if_neg filled, left] at right
    exact (Prod.mk.inj right).2

theorem exists_stateIn {options : SyncOptions}
    (filed : Filed options.stateFile state records before after)
    (opening : Opening options before) : ∃ stored, options.stateIn after = .ok stored := by
  unfold Filed at filed
  split at filed
  · exact ⟨opening.stored, filed ▸ opening.state_loaded⟩
  · exact ⟨state, SyncOptions.stateIn_of_find opening.isStateKnown (Files.find_of_replace filed)⟩

theorem replace_again (filed : Filed path state records before after) (filled : records ≠ [])
    (content : Bytes) : ∃ last, outcome (Files.replace path content) after = (.ok (), last) := by
  rw [Filed, if_neg filled] at filed
  exact ⟨_, Files.replace_again filed content⟩

end Filed

variable {service : LedgerService σ} {options : SyncOptions} {before : World σ}
  {opening : Opening options before.files}

theorem Opening.context_of_listed {catalog : RecordKind → List Json}
    (opening : Opening options before.files)
    (listed : ∀ kind, kind ≠ .entry → ∀ state, ∃ mark,
      (service.fetchAll kind none state).result = .ok ⟨catalog kind, mark⟩) :
    opening.context service =
      (Context.ofRecords (catalog .account) (catalog .category) (catalog .tag)).mapError
        SyncError.record :=
  fetchContext_of_listed listed _

namespace Plan

/-- The plan for known entries. The context matters only if there is one. -/
def ofEntries {fetched : FetchResult} {entries : List Entry} {context : Context}
    {planned : List EntryChange}
    (answered : (service.fetchAll .entry (some opening.query) before.service).result = .ok fetched)
    (read : Entry.ofRecords fetched.records = .ok entries)
    (looked : entries ≠ [] → opening.context service = .ok context)
    (evaluated : LedgerRules.changes opening.rules.rules context entries = .ok planned) :
    Plan service opening where
  fetched := fetched
  entries := entries
  changes := planned
  answered := answered
  read := read
  evaluated := by
    by_cases empty : entries = []
    · rw [empty] at evaluated
      exact .inl ⟨empty, (Except.ok.inj evaluated).symm⟩
    · exact .inr ⟨empty, context, looked empty, evaluated⟩

theorem exists_context (plan : Plan service opening) :
    ∃ context, LedgerRules.changes opening.rules.rules context plan.entries = .ok plan.changes ∧
      (plan.entries ≠ [] → opening.context service = .ok context) := by
  rcases plan.evaluated with ⟨empty, none_planned⟩ | ⟨_, context, looked, planned⟩
  · refine ⟨.ofItems [] [] [], ?_, fun filled => absurd empty filled⟩
    rw [empty, none_planned]
    rfl
  · exact ⟨context, planned, fun _ => looked⟩

theorem eq_of_same (left right : Plan service opening) : left = right := by
  obtain ⟨fetched, entries, changes, answered, read, evaluated⟩ := left
  obtain ⟨otherFetched, otherEntries, otherChanges, otherAnswered, otherRead, otherEvaluated⟩ :=
    right
  obtain rfl := Except.ok.inj (answered.symm.trans otherAnswered)
  obtain rfl := Except.ok.inj (read.symm.trans otherRead)
  obtain rfl : changes = otherChanges := by
    rcases evaluated with ⟨empty, nothing⟩ | ⟨filled, context, looked, planned⟩
    · rcases otherEvaluated with ⟨_, otherNothing⟩ | ⟨filled, _⟩
      · rw [nothing, otherNothing]
      · exact absurd empty filled
    · rcases otherEvaluated with ⟨empty, _⟩ | ⟨_, other, otherLooked, otherPlanned⟩
      · exact absurd empty filled
      · obtain rfl := Except.ok.inj (looked.symm.trans otherLooked)
        exact Except.ok.inj (planned.symm.trans otherPlanned)
  rfl

theorem run_eq (plan : Plan service opening) :
    ∃ ready, Prepared service before ready ∧
      outcome (runSync service options) before = outcome plan.finish ready := by
  rcases runSync_prepared service opening with ⟨obstacle, _⟩ | ⟨other, ready, prepared, finished⟩
  · exact absurd obstacle plan.not_obstacle
  · exact ⟨ready, prepared, other.eq_of_same plan ▸ finished⟩

/-- A live run to its end: all changes of the plan have been accepted, and the state is saved. -/
structure IsCarriedOut (plan : Plan service opening) (report : SyncReport) (after : World σ) :
    Prop where
  done : outcome (runSync service options) before = (.ok report, after)
  changes : report.changes = plan.changes
  applied : report.applied = plan.changes.length
  made : ∃ ready, Prepared service before ready ∧
    Accepted service plan.changes ready.service after.service ∧
    Told plan.changes plan.changes ready after
  filed : Filed options.stateFile (opening.state.advance plan.fetched.watermark)
    plan.fetched.records before.files after.files

/-- A live run is carried out, the service has refused a change, or the state could not be saved. -/
theorem run_cases (plan : Plan service opening) (live : options.isDryRun = false) :
    (∃ report after, plan.IsCarriedOut report after) ∨
      plan.entries ≠ [] ∧ ∃ ready error after, Prepared service before ready ∧
        outcome (runSync service options) before = (.error error, after) ∧
        Ending service options (opening.state.advance plan.fetched.watermark)
          (openReport options opening.state plan.entries) plan.changes ready
          (.error error, after) := by
  obtain ⟨ready, prepared, finished⟩ := plan.run_eq
  have empty_iff := Entry.ofRecords_eq_nil_iff plan.read
  rcases plan.finish_cases ready with ⟨empty, none_planned, idle⟩ | ⟨filled, ending⟩
  · rw [idle] at finished
    refine .inl ⟨_, ready, finished, none_planned.symm, ?_, ⟨ready, prepared, ?_⟩, ?_⟩
    · rw [none_planned]
      rfl
    · rw [none_planned]
      exact ⟨.nil, .nothing ready⟩
    · rw [Filed, if_pos (empty_iff.mp empty), prepared.files]
  generalize outcome plan.finish ready = result at ending finished
  cases ending with
  | shown dry => simp [live] at dry
  | refused _ split accepted failed ended told same =>
      exact .inr ⟨filled, ready, _, _, prepared, finished,
        .refused live split accepted failed ended told same⟩
  | unsaved _ accepted told failed =>
      exact .inr ⟨filled, ready, _, _, prepared, finished, .unsaved live accepted told failed⟩
  | @saved after _ accepted told stored =>
      refine .inl ⟨_, after, finished, rfl, rfl, ⟨ready, prepared, accepted, told⟩, ?_⟩
      rw [prepared.files] at stored
      rw [Filed, if_neg (empty_iff.not.mp filled)]
      exact stored

theorem of_done (opening : Opening options before.files) (live : options.isDryRun = false)
    {report : SyncReport} {after : World σ}
    (done : outcome (runSync service options) before = (.ok report, after)) :
    ∃ plan : Plan service opening, plan.IsCarriedOut report after := by
  rcases runSync_prepared service opening with ⟨_, error, _, failed, _⟩ | ⟨plan, _⟩
  · simp [failed] at done
  · refine ⟨plan, ?_⟩
    rcases plan.run_cases live with ⟨other, last, carried⟩ | ⟨_, _, error, _, _, failed, _⟩
    · obtain ⟨same, rfl⟩ := Prod.mk.inj (carried.done.symm.trans done)
      obtain rfl := Except.ok.inj same
      exact carried
    · simp [failed] at done

theorem isCarriedOut (plan : Plan service opening) (live : options.isDryRun = false)
    (accepts : ∀ state, Asked service before.service state →
      ∃ after, Accepted service plan.changes state after)
    (savable : plan.entries ≠ [] → ∃ after,
      outcome (Files.replace options.stateFile
        (opening.state.advance plan.fetched.watermark).encode) before.files = (.ok (), after)) :
    ∃ report after, plan.IsCarriedOut report after := by
  rcases plan.run_cases live with carried | ⟨filled, ready, error, after, prepared, _, ending⟩
  · exact carried
  exfalso
  obtain ⟨last, all⟩ := accepts ready.service prepared.asked
  cases ending with
  | refused _ split accepted failed =>
      rw [split] at all
      simp [accepted.next all] at failed
  | unsaved _ _ _ failed =>
      obtain ⟨files, saved⟩ := savable filled
      rw [prepared.files, saved] at failed
      simp at failed

end Plan

end LedgerRules
