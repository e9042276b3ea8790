import LedgerRules.Proofs.Sync.Shelf

/-!
What is read of records on which all planned changes have been stored: the entries that needed
nothing, as they were, and the changed ones as the changes made them.
-/

namespace LedgerRules

open Json.Fields

/-- An unknown field that would be read as the description stands beside a description only. -/
def Entry.IsLegible (entry : Entry) : Prop :=
  entry.description = none → get? entry.unknown "description" = none

theorem Entry.storedIds_of_ofRecords {records : List Json} {entries : List Entry}
    (read : Entry.ofRecords records = .ok entries) :
    records.map Json.storedId = entries.map fun entry => some entry.id := by
  induction records generalizing entries with
  | nil =>
      obtain rfl := Except.ok.inj read
      rfl
  | cons record rest ih =>
      obtain ⟨entry, others, readFirst, readRest, rfl⟩ := Entry.ofRecords_cons_ok.mp read
      rw [List.map_cons, List.map_cons, Entry.storedId_of_ofRecord readFirst, ih readRest]

theorem storeAll_cons {record : Json} {done : List EntryChange}
    (absent : ∀ change ∈ done, record.storedId ≠ some change.entry.id) (records : List Json) :
    storeAll done (record :: records) = record :: storeAll done records := by
  induction done generalizing records with
  | nil => rfl
  | cons change rest ih =>
      rw [List.forall_mem_cons] at absent
      have first : replaceRecord change.entry.id change.result.toRecord (record :: records) =
          record :: replaceRecord change.entry.id change.result.toRecord records := by
        rw [replaceRecord, List.map_cons, if_neg absent.1, replaceRecord]
      exact (congrArg (storeAll rest) first).trans (ih absent.2 _)

/-- The record that stands for an entry after its change, if there is one, has been stored. -/
def written (record : Json) (change? : Option EntryChange) : Json :=
  match change? with
  | none => record
  | some change => change.result.toRecord

section Reread

variable {rules : List Rule} {context : Context}

section Once

variable {record : Json} {entry : Entry} {change? : Option EntryChange}
  (read : Entry.ofRecord record = .ok entry) (found : changeOf? rules context entry = .ok change?)

include read found

theorem storedId_written : (written record change?).storedId = some entry.id := by
  cases change? with
  | none => exact Entry.storedId_of_ofRecord read
  | some change =>
      obtain ⟨rfl, _⟩ := changeOf?_ok_some found
      rw [written, Entry.storedId_toRecord, change.id_result]

theorem storeAll_own {records : List Json}
    (absent : ∀ other ∈ records, other.storedId ≠ some entry.id) :
    storeAll change?.toList (record :: records) = written record change? :: records := by
  cases change? with
  | none => rfl
  | some change =>
      obtain ⟨rfl, _⟩ := changeOf?_ok_some found
      exact replaceRecord_cons_self (Entry.storedId_of_ofRecord read) absent _

theorem read_written (legible : ∀ change ∈ change?, change.result.IsLegible) :
    ∃ again, Entry.ofRecord (written record change?) = .ok again ∧
      (changeOf? rules context again = .ok none ∨
        ∃ change ∈ change?, again = change.result.withoutNulls) := by
  cases change? with
  | none => exact ⟨entry, read, .inl found⟩
  | some change =>
      obtain ⟨rfl, _⟩ := changeOf?_ok_some found
      have apart := change.diff.isApart_apply (Entry.isApart_of_ofRecord read)
      exact ⟨_, Entry.ofRecord_toRecord apart (legible change rfl), .inr ⟨change, rfl, rfl⟩⟩

end Once

/-- Every entry that is read again needs nothing, or it is a changed one. -/
theorem reread_of_changes {records : List Json} {entries : List Entry} {planned : List EntryChange}
    (read : Entry.ofRecords records = .ok entries)
    (evaluated : changes rules context entries = .ok planned)
    (distinct : (records.map Json.storedId).Nodup)
    (legible : ∀ change ∈ planned, change.result.IsLegible) :
    ∃ reread, Entry.ofRecords (storeAll planned records) = .ok reread ∧
      ∀ entry ∈ reread, changeOf? rules context entry = .ok none ∨
        ∃ change ∈ planned, entry = change.result.withoutNulls := by
  induction records generalizing entries planned with
  | nil =>
      obtain rfl := Except.ok.inj read
      obtain rfl := Except.ok.inj evaluated
      exact ⟨[], rfl, by simp⟩
  | cons record records ih =>
      obtain ⟨entry, others, readFirst, readRest, rfl⟩ := Entry.ofRecords_cons_ok.mp read
      obtain ⟨change?, later, found, remaining, rfl⟩ := changes_cons_ok.mp evaluated
      simp only [List.mem_append, Option.mem_toList, or_imp, forall_and] at legible
      obtain ⟨apart, distinctRest⟩ := List.nodup_cons.mp distinct
      rw [Entry.storedId_of_ofRecord readFirst] at apart
      have absent : ∀ other ∈ records, other.storedId ≠ some entry.id :=
        fun other member same => apart (same ▸ List.mem_map_of_mem member)
      have untouched : ∀ change ∈ later,
          (written record change?).storedId ≠ some change.entry.id := by
        rw [storedId_written readFirst found]
        intro change member same
        rw [Entry.storedIds_of_ofRecords readRest, same] at apart
        exact apart (List.mem_map_of_mem (changed_of_mem remaining change member).1)
      obtain ⟨again, readAgain, need⟩ := read_written readFirst found legible.1
      obtain ⟨reread, readOthers, needs⟩ := ih readRest remaining distinctRest legible.2
      refine ⟨again :: reread, ?_, List.forall_mem_cons.mpr ⟨?_, ?_⟩⟩
      · rw [storeAll_append, storeAll_own readFirst found absent, storeAll_cons untouched]
        exact Entry.ofRecords_cons_ok.mpr ⟨again, reread, readAgain, readOthers, rfl⟩
      · exact need.imp_right fun ⟨change, own, made⟩ =>
          ⟨change, List.mem_append_left _ (Option.mem_toList.mpr own), made⟩
      · exact fun entry member => (needs entry member).imp_right fun ⟨change, other, made⟩ =>
          ⟨change, List.mem_append_right _ other, made⟩

variable {entries reread : List Entry} {planned : List EntryChange}

theorem changes_reread_of_settled (evaluated : changes rules context entries = .ok planned)
    (needs : ∀ entry ∈ reread, changeOf? rules context entry = .ok none ∨
      ∃ change ∈ planned, entry = change.result.withoutNulls)
    (settled : ∀ change ∈ planned, change.diff.description ≠ none →
      change.IsSettled rules context) : changes rules context reread = .ok [] := by
  apply changes_eq_nil
  intro entry member
  rcases needs entry member with nothing | ⟨change, listed, rfl⟩
  · exact nothing
  have found := (changed_of_mem evaluated change listed).2
  have enough : change.IsSettled rules context := by
    by_cases undescribed : change.diff.description = none
    · exact isSettled_of_undescribed found undescribed
    · exact settled change listed undescribed
  exact changeOf?_settled found enough (Entry.withoutNulls_evaluatesLike _)

theorem changes_reread (evaluated : changes rules context entries = .ok planned)
    (needs : ∀ entry ∈ reread, changeOf? rules context entry = .ok none ∨
      ∃ change ∈ planned, entry = change.result.withoutNulls)
    {more : List EntryChange} (evaluatedAgain : changes rules context reread = .ok more) :
    ∀ change ∈ more, ∃ former ∈ planned, change.entry = former.result.withoutNulls ∧
      former.diff.description ≠ none ∧ change.rule ≠ former.rule := by
  intro change member
  obtain ⟨listed, found⟩ := changed_of_mem evaluatedAgain change member
  rcases needs change.entry listed with nothing | ⟨former, given, made⟩
  · rw [nothing] at found
    exact absurd (Except.ok.inj found).symm (Option.some_ne_none change)
  · have foundBefore := (changed_of_mem evaluated former given).2
    rw [made] at found
    exact ⟨former, given, made,
      changed_again foundBefore (Entry.withoutNulls_evaluatesLike _) found⟩

end Reread

end LedgerRules
