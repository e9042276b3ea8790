import LedgerRules.Proofs.Rules.Pending
import LedgerRules.Proofs.Sync.Planned

/-!
A service that keeps records: what it keeps changes by the changes that it accepts, and by nothing
else.
-/

namespace LedgerRules

open Effect Sync

variable {σ : Type}

def storeAll (done : List EntryChange) (records : List Json) : List Json :=
  done.foldl (fun records change => replaceRecord change.entry.id change.result.toRecord records)
    records

theorem storeAll_append (first second : List EntryChange) (records : List Json) :
    storeAll (first ++ second) records = storeAll second (storeAll first records) :=
  List.foldl_append

theorem length_storeAll (done : List EntryChange) (records : List Json) :
    (storeAll done records).length = records.length := by
  induction done generalizing records with
  | nil => rfl
  | cons change rest ih =>
      calc (storeAll (change :: rest) records).length
          = (replaceRecord change.entry.id change.result.toRecord records).length := ih _
        _ = records.length := List.length_map _

theorem storeAll_eq_nil {done : List EntryChange} {records : List Json} :
    storeAll done records = [] ↔ records = [] := by
  rw [← List.length_eq_zero_iff, length_storeAll, List.length_eq_zero_iff]

/-- A service whose records change only by what is stored, record for record, and whose catalogs do
not change at all. -/
structure Archive (service : LedgerService σ) (catalog : RecordKind → List Json) where
  records : σ → List Json
  listed_catalog : ∀ kind, kind ≠ .entry → ∀ state, ∃ watermark,
    (service.fetchAll kind none state).result = .ok ⟨catalog kind, watermark⟩
  kept : ∀ kind query state, records (service.fetchAll kind query state).state = records state
  stored : ∀ id record state, (service.replaceEntry id record state).result = .ok () →
    records (service.replaceEntry id record state).state = replaceRecord id record (records state)

namespace Archive

variable {service : LedgerService σ} {catalog : RecordKind → List Json}

def Lists (archive : Archive service catalog) (query : EntryQuery) (state : σ) : Prop :=
  ∃ watermark,
    (service.fetchAll .entry (some query) state).result = .ok ⟨archive.records state, watermark⟩

variable (archive : Archive service catalog)

theorem records_of_asked {before after : σ} (asked : Asked service before after) :
    archive.records after = archive.records before := by
  induction asked with
  | refl => rfl
  | tail _ once ih =>
      cases once with
      | fetched kind query state => rw [archive.kept, ih]

theorem records_of_accepted {done : List EntryChange} {before after : σ}
    (accepted : Accepted service done before after) :
    archive.records after = storeAll done (archive.records before) := by
  induction accepted with
  | nil => rfl
  | cons accepted _ ih =>
      rw [ih, LedgerService.update, archive.stored _ _ _ accepted]
      rfl

theorem records_of_carriedOut {options : SyncOptions} {before after : World σ}
    {opening : Opening options before.files} {plan : Plan service opening} {report : SyncReport}
    (carried : plan.IsCarriedOut report after) :
    archive.records after.service = storeAll plan.changes (archive.records before.service) := by
  obtain ⟨ready, prepared, accepted, _⟩ := carried.made
  rw [archive.records_of_accepted accepted, archive.records_of_asked prepared.asked]

end Archive

end LedgerRules
