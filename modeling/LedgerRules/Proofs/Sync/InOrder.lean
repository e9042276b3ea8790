import LedgerRules.Proofs.Sync.Preparing

/-!
The order of a run: everything is checked before anything is shown or changed, the changes are made
in the order of their entries, and nothing is tried after the first one that is refused.
-/

namespace LedgerRules

open Effect Sync

variable {σ : Type}

theorem Plan.in_order {options : SyncOptions} {before : World σ} {service : LedgerService σ}
    {opening : Opening options before.files} (plan : Plan service opening) :
    (plan.changes.map EntryChange.entry).Sublist plan.entries := by
  rcases plan.evaluated with ⟨_, none_planned⟩ | ⟨_, context, _, planned⟩
  · rw [none_planned]
    exact List.nil_sublist _
  · exact sublist_of_changes_ok planned

/-- A run that cannot read rules and state does nothing at all. A run that meets an obstacle has
only asked for records. Every other run has a plan for all entries, and shows and makes its changes
from the first to the last, or to the first that is refused. -/
theorem checked_then_updated_in_order (service : LedgerService σ) (options : SyncOptions)
    (before : World σ) :
    let (result, after) := outcome (runSync service options) before
    (IsEmpty (Opening options before.files) ∧ (∃ error, result = .error error) ∧ after = before) ∨
      ∃ opening : Opening options before.files,
        (Obstacle service opening ∧ (∃ error, result = .error error) ∧
          Prepared service before after) ∨
        (¬ Obstacle service opening ∧ ∃ (plan : Plan service opening) (ready : World σ),
          (plan.changes.map EntryChange.entry).Sublist plan.entries ∧
          Prepared service before ready ∧
          ((plan.entries = [] ∧ plan.changes = [] ∧ after = ready ∧
              result = .ok (openReport options opening.state [])) ∨
            (plan.entries ≠ [] ∧
              Ending service options (opening.state.advance plan.fetched.watermark)
                (openReport options opening.state plan.entries) plan.changes ready
                (result, after)))) := by
  rcases isEmpty_or_nonempty (Opening options before.files) with unopened | ⟨⟨opening⟩⟩
  · obtain ⟨error, failed⟩ := runSync_unopened service unopened
    rw [failed]
    exact .inl ⟨unopened, ⟨error, rfl⟩, rfl⟩
  rcases runSync_prepared service opening with
    ⟨obstacle, error, after, failed, prepared⟩ | ⟨plan, ready, prepared, finished⟩
  · rw [failed]
    exact .inr ⟨opening, .inl ⟨obstacle, ⟨error, rfl⟩, prepared⟩⟩
  · have course := plan.finish_cases ready
    rw [finished]
    generalize outcome plan.finish ready = reached at course ⊢
    refine .inr ⟨opening, .inr ⟨plan.not_obstacle, plan, ready, plan.in_order, prepared, ?_⟩⟩
    rcases course with ⟨empty, none_planned, rfl⟩ | ending
    · exact .inl ⟨empty, none_planned, rfl, rfl⟩
    · exact .inr ending

end LedgerRules
