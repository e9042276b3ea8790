import LedgerRules.Proofs.Service.Origins
import LedgerRules.Proofs.Sync.Errors
import LedgerRules.Proofs.Sync.Updates

/-!
Where the errors of a run come from that nobody reports: what the service has sent or could not be
sent to it, and, at the end of a live run, a state that cannot be saved.
-/

namespace LedgerRules

open Effect Sync

theorem Client.Draws.answer {α : Type} {client : Client} {replies : List Reply} {good : α → Prop}
    {effect : Exchange α} (draws : Draws client replies good effect) {connection : Connection}
    (drawn : connection.replies ⊆ replies) :
    (LedgerService.answer effect connection).state.replies ⊆ replies ∧
      ∀ error, (LedgerService.answer effect connection).result = .error error →
        error.HasCause client replies := by
  obtain ⟨after, known⟩ := draws { connection with log := [] } drawn
  refine ⟨after, fun error failed => ?_⟩
  rw [show (outcome effect { connection with log := [] }).1 = .error error from failed] at known
  exact known

def SyncError.HasCause (client : Client) (replies : List Reply) : SyncError → Prop
  | .service error => error.HasCause client replies
  | _ => True

theorem confines_ofClient (client : Client) (replies : List Reply) :
    Confines (.ofClient client) (fun world => world.service.replies ⊆ replies)
      (SyncError.HasCause client replies) where
  noted _ _ drawn := drawn
  filed _ _ drawn := drawn
  fetched _ _ _ drawn := (Client.draws_fetchAll _ _).answer drawn
  replaced _ id record drawn :=
    have written : Client.Draws client replies (fun _ => True)
        (liftM (if client.platform.exhausts (.entry record) then
          Except.error ServiceError.entryTooDeep else .ok ())) := by
      apply Client.draws_result
      cases client.platform.exhausts (.entry record) <;> trivial
    (written.bind fun _ _ =>
      (Client.draws_replace _ id (some record)).bind fun _ _ => Client.draws_pure ()).answer drawn
  record _ := trivial
  reference _ := trivial

theorem cause_of_failed {client : Client} {options : SyncOptions} {world : World Connection}
    {error : ServiceError}
    (failed : (outcome (runSync (.ofClient client) options) world).1 = .error (.service error)) :
    error.HasCause client world.service.replies := by
  have confined := (confines_ofClient client world.service.replies).runSync (fun _ => trivial)
    (fun _ => trivial) (fun _ => trivial) options
  exact (confined world (List.Subset.refl _)).2 _ failed

/-- A state that cannot be saved is that of a live run, and its file, as the run found the files,
cannot be replaced. -/
theorem live_of_unsaved {σ : Type} {service : LedgerService σ} {options : SyncOptions}
    {before : World σ} {error : FileError}
    (failed : (outcome (runSync service options) before).1 = .error (.file error)) :
    options.isDryRun = false ∧ ∃ (state : SyncState) (files : Files),
      outcome (Files.replace options.stateFile state.encode) before.files =
        (.error error, files) := by
  have never := neverUnsaved_prepare service options before
  have same := keeps_prepare (kept_files service) (fun _ _ => trivial) (fun _ => trivial) options
    before
  rw [runSync_eq, outcome_bind] at failed
  generalize outcome (prepare service options) before = prepared at never same failed
  obtain ⟨fault | preparation, ready⟩ := prepared
  · cases failed
    exact (never _ rfl trivial).elim
  · have unchanged : ready.files = before.files := same
    cases preparation with
    | idle state => cases failed
    | planned state entries watermark planned =>
        have ending := settle_ending service options state watermark
          (openReport options state entries) planned ready
        simp only [conclude] at failed
        generalize outcome (settle service options state watermark
          (openReport options state entries) planned) ready = result at ending failed
        cases ending with
        | shown => cases failed
        | refused => cases failed
        | saved => cases failed
        | unsaved live _ _ saving =>
            cases failed
            rw [unchanged] at saving
            exact ⟨live, _, _, saving⟩

end LedgerRules
