import Mathlib.Data.List.MinMax
import Mathlib.Logic.Relation
import LedgerRules.Sync.Service

/-!
Ledgers that stamp every change of an entry. A stamp is larger than all stamps given before it, so
that the largest stamp of a ledger separates what has been there from all that is still to come.
-/

namespace LedgerRules

structure Version (Stamp : Type) where
  record : Json
  date : Date
  stamp : Stamp

def Date.isWithin (date first last : Date) : Bool := !date.isBefore first && !last.isBefore date

variable {Stamp : Type} [LinearOrder Stamp]

inductive Edited : List (Version Stamp) → List (Version Stamp) → Prop where
  | changed {left right : List (Version Stamp)} {old : Version Stamp} (new : Version Stamp)
      (larger : ∀ version ∈ left ++ old :: right, version.stamp < new.stamp) :
      Edited (left ++ old :: right) (left ++ new :: right)
  | made {versions : List (Version Stamp)} (new : Version Stamp)
      (larger : ∀ version ∈ versions, version.stamp < new.stamp) :
      Edited versions (versions ++ [new])

abbrev Edits : List (Version Stamp) → List (Version Stamp) → Prop := Relation.ReflTransGen Edited

/-- What edits leave: versions that were there, and versions with larger stamps, of which there is
one wherever one has gone. -/
structure Succeeds (before after : List (Version Stamp)) : Prop where
  old_or_larger : ∀ version ∈ after,
    version ∈ before ∨ ∀ old ∈ before, old.stamp < version.stamp
  reaches : ∀ old ∈ before, ∃ version ∈ after, old.stamp ≤ version.stamp

instance : IsPreorder (List (Version Stamp)) Succeeds where
  refl _ := ⟨fun _ member => .inl member, fun old member => ⟨old, member, le_refl _⟩⟩
  trans before middle after first second := by
    refine ⟨?_, ?_⟩
    · intro version member
      rcases second.old_or_larger version member with kept | larger
      · exact first.old_or_larger version kept
      · refine .inr fun old member => ?_
        obtain ⟨between, present, bound⟩ := first.reaches old member
        exact lt_of_le_of_lt bound (larger between present)
    · intro old member
      obtain ⟨between, present, bound⟩ := first.reaches old member
      obtain ⟨version, last, further⟩ := second.reaches between present
      exact ⟨version, last, le_trans bound further⟩

theorem Edited.succeeds {before after : List (Version Stamp)} (edited : Edited before after) :
    Succeeds before after := by
  cases edited with
  | @changed left right old new larger =>
      refine ⟨?_, ?_⟩
      · intro version member
        rcases List.mem_append.mp member with earlier | later
        · exact .inl (List.mem_append_left _ earlier)
        · rcases List.mem_cons.mp later with rfl | later
          · exact .inr larger
          · exact .inl (List.mem_append_right _ (List.mem_cons_of_mem _ later))
      · intro version member
        exact ⟨new, by simp, le_of_lt (larger version member)⟩
  | made new larger =>
      refine ⟨?_, fun old member => ⟨old, List.mem_append_left _ member, le_refl _⟩⟩
      intro version member
      rcases List.mem_append.mp member with earlier | later
      · exact .inl earlier
      · obtain rfl := List.mem_singleton.mp later
        exact .inr larger

theorem Edits.succeeds {before after : List (Version Stamp)} (edits : Edits before after) :
    Succeeds before after := by
  induction edits with
  | refl => exact refl_of Succeeds before
  | tail _ edited ih => exact trans_of Succeeds ih edited.succeeds

theorem exists_newest {versions : List (Version Stamp)} (filled : versions ≠ []) :
    ∃ newest ∈ versions, ∀ version ∈ versions, version.stamp ≤ newest.stamp := by
  cases found : versions.argmax Version.stamp with
  | none => exact absurd (List.argmax_eq_none.mp found) filled
  | some newest =>
      exact ⟨newest, List.argmax_mem found, fun version member =>
        List.le_of_mem_argmax member found⟩

/-- A service whose entries are stamped. A fetch gives what lies in the range and was changed after
the cursor, and reports the largest stamp of the ledger; edits may happen whenever the service is
called, and replacing an entry is one of them. -/
structure StampedLedger {σ : Type} (service : LedgerService σ) (Stamp : Type)
    [LinearOrder Stamp] where
  versions : σ → List (Version Stamp)
  cursor : Stamp → String
  fetched_all : ∀ {query : EntryQuery} {state : σ} {fetched : FetchResult},
    (service.fetchAll .entry (some query) state).result = .ok fetched → query.since = none →
    ∀ record, record ∈ fetched.records ↔
      ∃ version ∈ versions state,
        version.date.isWithin query.first query.last ∧ version.record = record
  fetched_since : ∀ {query : EntryQuery} {state : σ} {fetched : FetchResult} {mark : Stamp},
    (service.fetchAll .entry (some query) state).result = .ok fetched →
    query.since = some (cursor mark) →
    ∀ record, record ∈ fetched.records ↔
      ∃ version ∈ versions state,
        version.date.isWithin query.first query.last ∧ mark < version.stamp ∧
          version.record = record
  fetched_watermark : ∀ {query : EntryQuery} {state : σ} {fetched : FetchResult},
    (service.fetchAll .entry (some query) state).result = .ok fetched →
    ∀ newest ∈ versions state, (∀ version ∈ versions state, version.stamp ≤ newest.stamp) →
      fetched.watermark = some (cursor newest.stamp)
  edits_fetchAll : ∀ kind query state,
    Edits (versions state) (versions (service.fetchAll kind query state).state)
  edits_replaceEntry : ∀ id record state,
    Edits (versions state) (versions (service.replaceEntry id record state).state)

end LedgerRules
