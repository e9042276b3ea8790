import LedgerRules.Proofs.Ledger.Rewriting
import LedgerRules.Proofs.Rules.Reapply

/-!
What is left to do on a shelf of records. Storing the first of the planned changes leaves exactly
the others, since the changed entry is found and read again and needs nothing any more.
-/

namespace LedgerRules

open Json.Fields

def Json.storedId (record : Json) : Option String :=
  match record with
  | .object fields => (Fields.get? fields "id").bind fun value => (Field.text value).toOption
  | _ => none

def replaceRecord (id : String) (replacement : Json) (records : List Json) : List Json :=
  records.map fun record => if record.storedId = some id then replacement else record

namespace Entry

theorem storedId_of_ofRecord {record : Json} {entry : Entry} (read : ofRecord record = .ok entry) :
    record.storedId = some entry.id := by
  obtain ⟨fields, rfl, readFrom⟩ := isReadFrom_of_ofRecord read
  obtain ⟨value, found, valid⟩ := Field.required_ok readFrom.id
  simp [Json.storedId, found, valid, Except.toOption]

theorem storedId_toRecord (entry : Entry) : entry.toRecord.storedId = some entry.id := rfl

theorem withoutNulls_evaluatesLike (entry : Entry) : entry.withoutNulls.EvaluatesLike entry := by
  obtain ⟨id, description, amount, currency, date, account, category, tags, transaction, unknown⟩ :=
    entry
  cases transaction <;> exact ⟨⟨rfl, rfl, rfl⟩, rfl, rfl, rfl⟩

theorem hasOneDescription_toRecord {entry : Entry} (separated : entry.IsSeparated) :
    HasOneDescription entry.toRecord := .inr (get?_description separated)

end Entry

theorem EntryChange.id_result (change : EntryChange) : change.result.id = change.entry.id :=
  EntryDiff.id_apply change.diff change.entry

/-- The records of distinct entries, each with its description under one name, and the changes that
the rules make to them. -/
inductive Pending (rules : List Rule) (context : Context) :
    List Json → List EntryChange → Prop where
  | nil : Pending rules context [] []
  | cons {record : Json} {records : List Json} {entry : Entry} {change? : Option EntryChange}
      {planned : List EntryChange} (read : Entry.ofRecord record = .ok entry)
      (single : Entry.HasOneDescription record)
      (apart : ∀ other ∈ records, other.storedId ≠ some entry.id)
      (found : changeOf? rules context entry = .ok change?)
      (rest : Pending rules context records planned) :
      Pending rules context (record :: records) (change?.toList ++ planned)

variable {rules : List Rule} {context : Context}

theorem pending_of_changes {records : List Json} {entries : List Entry}
    {planned : List EntryChange} (read : Entry.ofRecords records = .ok entries)
    (evaluated : changes rules context entries = .ok planned)
    (distinct : (records.map Json.storedId).Nodup)
    (single : ∀ record ∈ records, Entry.HasOneDescription record) :
    Pending rules context records planned := by
  induction records generalizing entries planned with
  | nil =>
      obtain rfl := Except.ok.inj read
      obtain rfl := Except.ok.inj evaluated
      exact .nil
  | cons record records ih =>
      obtain ⟨entry, others, readFirst, readRest, rfl⟩ := Entry.ofRecords_cons_ok.mp read
      obtain ⟨change?, later, found, remaining, rfl⟩ := changes_cons_ok.mp evaluated
      rw [List.map_cons, List.nodup_cons, Entry.storedId_of_ofRecord readFirst] at distinct
      have apart : ∀ other ∈ records, other.storedId ≠ some entry.id := fun other member same =>
        distinct.1 (List.mem_map.mpr ⟨other, member, same⟩)
      have rest := ih readRest remaining distinct.2 fun other member =>
        single other (List.mem_cons_of_mem _ member)
      exact .cons readFirst (single record List.mem_cons_self) apart found rest

namespace Pending

variable {records : List Json} {planned : List EntryChange}

theorem evaluated (pending : Pending rules context records planned) :
    ∃ entries, Entry.ofRecords records = .ok entries ∧
      changes rules context entries = .ok planned := by
  induction pending with
  | nil => exact ⟨[], rfl, rfl⟩
  | @cons record records entry change? planned read single apart found rest ih =>
      obtain ⟨entries, readRest, remaining⟩ := ih
      exact ⟨entry :: entries, Entry.ofRecords_cons_ok.mpr ⟨entry, entries, read, readRest, rfl⟩,
        changes_cons_ok.mpr ⟨change?, planned, found, remaining, rfl⟩⟩

theorem stored (pending : Pending rules context records planned) :
    ∀ change ∈ planned, ∃ record ∈ records, record.storedId = some change.entry.id := by
  induction pending with
  | nil => simp
  | @cons record records entry change? planned read single apart found rest ih =>
      intro change member
      rcases List.mem_append.mp member with first | later
      · cases change? with
        | none => simp at first
        | some own =>
            obtain rfl := List.mem_singleton.mp first
            refine ⟨record, List.mem_cons_self, ?_⟩
            rw [(changeOf?_ok_some found).1]
            exact Entry.storedId_of_ofRecord read
      · obtain ⟨other, present, same⟩ := ih change later
        exact ⟨other, List.mem_cons_of_mem _ present, same⟩

theorem distinct (pending : Pending rules context records planned) :
    (planned.map (·.entry.id)).Nodup := by
  induction pending with
  | nil => simp
  | @cons record records entry change? planned read single apart found rest ih =>
      cases change? with
      | none => exact ih
      | some own =>
          refine List.nodup_cons.mpr ⟨?_, ih⟩
          intro member
          obtain ⟨change, present, same⟩ := List.mem_map.mp member
          obtain ⟨other, there, otherId⟩ := rest.stored change present
          have ownId : change.entry.id = entry.id :=
            same.trans (congrArg Entry.id (changeOf?_ok_some found).1)
          rw [ownId] at otherId
          exact apart other there otherId

end Pending

theorem storedId_replaceRecord {id : String} {replacement : Json}
    (identified : replacement.storedId = some id) (records : List Json) :
    (replaceRecord id replacement records).map Json.storedId = records.map Json.storedId := by
  rw [replaceRecord, List.map_map]
  apply List.map_congr_left
  intro record _
  by_cases same : record.storedId = some id
  · simp [same, identified]
  · simp [same]

theorem replaceRecord_of_absent {records : List Json} {id : String}
    (absent : ∀ record ∈ records, record.storedId ≠ some id) (replacement : Json) :
    replaceRecord id replacement records = records := by
  apply (List.map_congr_left ?_).trans (List.map_id records)
  intro record member
  exact if_neg (absent record member)

theorem replaceRecord_cons_self {record : Json} {records : List Json} {id : String}
    (own : record.storedId = some id) (absent : ∀ other ∈ records, other.storedId ≠ some id)
    (replacement : Json) :
    replaceRecord id replacement (record :: records) = replacement :: records := by
  have others := replaceRecord_of_absent absent replacement
  rw [replaceRecord] at others
  rw [replaceRecord, List.map_cons, if_pos own, others]

/-- A changed entry is read again as an entry that needs nothing more. -/
theorem settled_of_change {record : Json} {entry : Entry} {change : EntryChange}
    (read : Entry.ofRecord record = .ok entry) (single : Entry.HasOneDescription record)
    (found : changeOf? rules context entry = .ok (some change))
    (undescribed : change.diff.description = none) :
    ∃ again, Entry.ofRecord change.result.toRecord = .ok again ∧ again.id = entry.id ∧
      Entry.HasOneDescription change.result.toRecord ∧
      changeOf? rules context again = .ok none := by
  obtain ⟨rfl, _, _⟩ := changeOf?_ok_some found
  have separated : change.result.IsSeparated :=
    change.diff.isSeparated_apply (Entry.isSeparated_of_ofRecord read single)
  obtain ⟨apart, undescribedStill⟩ := Entry.isSeparated_iff.mp separated
  exact ⟨change.result.withoutNulls, Entry.ofRecord_toRecord apart fun _ => undescribedStill,
    change.id_result,
    Entry.hasOneDescription_toRecord separated,
    changeOf?_settled found (isSettled_of_undescribed found undescribed)
      (Entry.withoutNulls_evaluatesLike change.result)⟩

theorem Pending.step {records : List Json} {change : EntryChange} {planned : List EntryChange}
    (pending : Pending rules context records (change :: planned))
    (undescribed : change.diff.description = none) :
    Pending rules context (replaceRecord change.entry.id change.result.toRecord records)
      planned := by
  have identified : change.result.toRecord.storedId = some change.entry.id := by
    rw [Entry.storedId_toRecord, change.id_result]
  -- The change belongs to the first record that needs one; the records before it need nothing.
  generalize whole : change :: planned = all at pending
  induction pending with
  | nil => simp at whole
  | @cons record records entry change? later read single apart found rest ih =>
      cases change? with
      | none =>
          obtain rfl : change :: planned = later := whole
          obtain ⟨other, present, otherId⟩ := rest.stored change List.mem_cons_self
          have different : record.storedId ≠ some change.entry.id := by
            rw [Entry.storedId_of_ofRecord read, ← otherId]
            exact (apart other present).symm
          have apartStill : ∀ other ∈ replaceRecord change.entry.id change.result.toRecord records,
              other.storedId ≠ some entry.id := by
            intro other member same
            have listed := List.mem_map_of_mem (f := Json.storedId) member
            rw [storedId_replaceRecord identified] at listed
            obtain ⟨old, there, oldId⟩ := List.mem_map.mp listed
            exact apart old there (oldId.trans same)
          rw [replaceRecord, List.map_cons, if_neg different]
          exact .cons read single apartStill found (ih rfl)
      | some own =>
          obtain ⟨rfl, rfl⟩ := List.cons.inj whole
          obtain ⟨again, readAgain, sameId, singleAgain, nothing⟩ :=
            settled_of_change read single found undescribed
          have own : record.storedId = some change.entry.id := by
            rw [Entry.storedId_of_ofRecord read, (changeOf?_ok_some found).1]
          rw [replaceRecord_cons_self own ((changeOf?_ok_some found).1 ▸ apart)]
          exact .cons readAgain singleAgain (sameId ▸ apart) nothing rest

end LedgerRules
