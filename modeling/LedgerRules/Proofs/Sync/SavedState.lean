import LedgerRules.Proofs.Files.Admission
import LedgerRules.Proofs.Sync.Inversion

/-!
Saving a state. Either the file holds the whole state afterwards, from which it is read back as it
was, or nothing has happened to any file.
-/

namespace LedgerRules

open Effect

theorem SyncState.saved_whole_or_not_at_all (state : SyncState) (path : Path) (before : Files) :
    let (result, after) := outcome (SyncState.save path state) before
    (result = .ok () ↔ before.Admits path) ∧
    (result = .ok () →
      SyncState.load after path = .ok state ∧ Files.Stored path state.encode before after) ∧
    (∀ error, result = .error error → Files.Opened path before after) ∧
    (before.find path = .ok .directory →
      result = .error (if Path.isTooLong (before.temporaryPath path).name then .nameTooLong
        else if path.names.isEmpty then .busy else .isDirectory) ∧
      ∀ other, after.node? other = before.node? other) := by
  rw [SyncState.save]
  rcases Files.replace_stored_or_opened path state.encode before with
    ⟨admits, after, done, stored⟩ | ⟨refuses, error, after, failed, opened⟩
  · have loaded : SyncState.load after path = .ok state :=
      load_of_find (Files.find_of_replace done)
    rw [done]
    refine ⟨iff_of_true rfl admits, fun _ => ⟨loaded, stored⟩, nofun, fun found => ?_⟩
    exact absurd ((Files.find_eq_ok before path _).mp found).2 admits.noDirectory
  · rw [failed]
    refine ⟨iff_of_false nofun refuses, nofun, fun _ _ => opened, fun found => ?_⟩
    obtain ⟨unchanged, refused, same⟩ := Files.replace_directory found state.encode
    obtain ⟨reason, rfl⟩ := Prod.mk.inj (failed.symm.trans refused)
    exact ⟨reason, same⟩

end LedgerRules
