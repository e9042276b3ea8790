import LedgerRules.Ledger.Record
import LedgerRules.Proofs.Outcome

/-!
Reading records, and lists of them.
-/

namespace LedgerRules

theorem Entry.ofRecord_ok {record : Json} {entry : Entry}
    (read : Entry.ofRecord record = .ok entry) :
    ∃ fields, record = .object fields ∧ Entry.check fields = .ok entry := by
  cases record with
  | object fields =>
      exact ⟨fields, rfl, Except.mapError_eq_ok.mp read⟩
  | _ => simp [Entry.ofRecord, readRecord] at read

theorem Entry.ofRecords_cons_ok {record : Json} {rest : List Json} {entries : List Entry} :
    Entry.ofRecords (record :: rest) = .ok entries ↔
      ∃ entry others, Entry.ofRecord record = .ok entry ∧ Entry.ofRecords rest = .ok others ∧
        entries = entry :: others := by
  simp only [Entry.ofRecords, List.mapM_cons, Except.bind_eq_ok, Except.pure_eq_ok]
  constructor
  · rintro ⟨entry, read, others, readOthers, rfl⟩
    exact ⟨entry, others, read, readOthers, rfl⟩
  · rintro ⟨entry, others, read, readOthers, rfl⟩
    exact ⟨entry, read, others, readOthers, rfl⟩

theorem Entry.read_of_mem {records : List Json} {entries : List Entry}
    (read : Entry.ofRecords records = .ok entries) :
    ∀ record ∈ records, ∃ entry ∈ entries, Entry.ofRecord record = .ok entry := by
  induction records generalizing entries with
  | nil => simp
  | cons first rest ih =>
      obtain ⟨entry, others, readFirst, readRest, rfl⟩ := Entry.ofRecords_cons_ok.mp read
      intro record member
      rcases List.mem_cons.mp member with rfl | member
      · exact ⟨entry, by simp, readFirst⟩
      · obtain ⟨found, present, readFound⟩ := ih readRest record member
        exact ⟨found, List.mem_cons_of_mem _ present, readFound⟩

theorem Entry.length_of_ofRecords {records : List Json} {entries : List Entry}
    (read : Entry.ofRecords records = .ok entries) : entries.length = records.length := by
  induction records generalizing entries with
  | nil =>
      obtain rfl := Except.ok.inj read
      rfl
  | cons first rest ih =>
      obtain ⟨entry, others, readFirst, readRest, rfl⟩ := Entry.ofRecords_cons_ok.mp read
      rw [List.length_cons, List.length_cons, ih readRest]

theorem Entry.ofRecords_eq_nil_iff {records : List Json} {entries : List Entry}
    (read : Entry.ofRecords records = .ok entries) : entries = [] ↔ records = [] := by
  rw [← List.length_eq_zero_iff, Entry.length_of_ofRecords read, List.length_eq_zero_iff]

end LedgerRules
