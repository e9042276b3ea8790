import LedgerRules.Ledger.Field
import LedgerRules.Proofs.Outcome

/-!
Checks that succeed. A place does not change a result, and a list is valid if each of its items is.
-/

namespace LedgerRules.Checked

variable {α β : Type}

theorem within_eq_ok {step : Step} {checked : Checked α} {value : α} :
    within step checked = .ok value ↔ checked = .ok value := Except.mapError_eq_ok

theorem items_eq_ok {check : α → Checked β} {index : Nat} {items : List α} {values : List β} :
    Checked.items check index items = .ok values ↔
      List.Forall₂ (fun item value => check item = .ok value) items values := by
  induction items generalizing index values with
  | nil => simp [Checked.items, eq_comm]
  | cons item rest ih =>
      rw [List.forall₂_cons_left_iff]
      simp only [Checked.items]
      constructor
      · intro read
        split at read
        · rename_i value others own later
          obtain rfl := Except.ok.inj read
          exact ⟨value, others, within_eq_ok.mp own, ih.mp later, rfl⟩
        · cases read
      · rintro ⟨value, others, own, later, rfl⟩
        simp only [within_eq_ok.mpr own, ih.mpr later]

end LedgerRules.Checked
