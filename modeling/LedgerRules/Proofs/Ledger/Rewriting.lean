import Mathlib.Logic.Relation
import LedgerRules.Proofs.Ledger.RoundTrip
import LedgerRules.Proofs.Rules.Independence

/-!
Entries that rules have rewritten, any number of times. Writing such an entry and reading it again
gives the same entry, because a change touches no unknown field at any level and the linked
transaction that it makes has none.
-/

namespace LedgerRules

open Json.Fields

namespace LinkedTransaction

/-- No unknown field is null; a null field would not be written. -/
def HasNoNulls (transaction : LinkedTransaction) : Prop :=
  ∀ field ∈ transaction.unknown, field.2.isNull = false

theorem withoutNulls_eq_self {transaction : LinkedTransaction} (filled : transaction.HasNoNulls) :
    transaction.withoutNulls = transaction := by
  have kept : (transaction.unknown.filter fun field => !field.2.isNull) = transaction.unknown := by
    apply List.filter_eq_self.mpr
    intro field member
    simp [filled field member]
  rw [withoutNulls, kept]

theorem isSeparated_empty : empty.IsSeparated :=
  ⟨fun _ member => absurd member List.not_mem_nil, fun _ member => absurd member (by simp [empty])⟩

theorem isSeparated_onAccount {transaction : LinkedTransaction}
    (separated : transaction.IsSeparated)
    (account : String) {currency : Currency} (plain : currency.IsSeparated) :
    (transaction.onAccount account currency).IsSeparated := by
  refine ⟨separated.unknown, ?_⟩
  intro item member
  obtain rfl : transaction.currency.getD currency = item := Option.some.inj member
  cases kept : transaction.currency with
  | none => exact plain
  | some own => exact separated.currency own kept

end LinkedTransaction

namespace Entry

/-- The linked transaction of a record has no unknown field that is null. -/
def LinksWithoutNulls (record : Json) : Prop :=
  ∀ fields, record.get? "transaction" = some (.object fields) →
    ∀ field ∈ fields, field.1 ∉ LinkedTransaction.knownFields → field.2.isNull = false

def HasNoNulls (entry : Entry) : Prop :=
  ∀ transaction ∈ entry.transaction, transaction.HasNoNulls

theorem withoutNulls_eq_self {entry : Entry} (filled : entry.HasNoNulls) :
    entry.withoutNulls = entry := by
  have kept : entry.transaction.map LinkedTransaction.withoutNulls = entry.transaction := by
    cases linked : entry.transaction with
    | none => rfl
    | some transaction =>
        rw [Option.map_some, LinkedTransaction.withoutNulls_eq_self (filled transaction linked)]
  rw [withoutNulls, kept]

theorem hasNoNulls_of_ofRecord {record : Json} {entry : Entry} (read : ofRecord record = .ok entry)
    (filled : LinksWithoutNulls record) : entry.HasNoNulls := by
  obtain ⟨fields, rfl, readFrom⟩ := isReadFrom_of_ofRecord read
  intro transaction linked
  have present := readFrom.transaction
  rw [Option.mem_def.mp linked] at present
  obtain ⟨value, found, valid⟩ := Field.absent_ok present
  obtain ⟨others, rfl, linkReadFrom⟩ := LinkedTransaction.isReadFrom_of_check valid
  intro field member
  rw [linkReadFrom.unknown] at member
  obtain ⟨given, other⟩ := List.mem_filter.mp member
  exact filled others found field given (by simpa using other)

inductive RewrittenOnce : Entry → Entry → Prop where
  | made {entry : Entry} {rule : Rule} {context : Context} {diff : EntryDiff}
      (found : rule.diff context entry = .ok diff) : RewrittenOnce entry (diff.apply entry)

abbrev Rewritten : Entry → Entry → Prop := Relation.ReflTransGen RewrittenOnce

end Entry

namespace EntryDiff

variable {entry : Entry} (diff : EntryDiff)

/-- The linked transaction after a change is the one before, or that one on another account. -/
theorem transaction_apply_cases {linked : LinkedTransaction}
    (member : linked ∈ (diff.apply entry).transaction) :
    linked ∈ entry.transaction ∨
      ∃ account, linked =
        (entry.transaction.getD LinkedTransaction.empty).onAccount account entry.currency := by
  rw [Option.mem_def, transaction_apply] at member
  cases moved : diff.account with
  | none => exact .inl (by simpa [moved] using member)
  | some change => exact .inr ⟨change.new.id, by simpa [moved] using member.symm⟩

theorem isApart_apply (apart : entry.IsApart) : (diff.apply entry).IsApart := by
  refine ⟨?_, ?_, ?_⟩
  · rw [unknown_apply]
    exact apart.unknown
  · rw [currency_apply]
    exact apart.currency
  · intro linked member
    rcases diff.transaction_apply_cases member with same | ⟨account, rfl⟩
    · exact apart.transaction linked same
    · apply LinkedTransaction.isSeparated_onAccount _ account apart.currency
      cases old : entry.transaction with
      | none => exact LinkedTransaction.isSeparated_empty
      | some transaction => exact apart.transaction transaction old

theorem isSeparated_apply (separated : entry.IsSeparated) : (diff.apply entry).IsSeparated := by
  obtain ⟨apart, undescribed⟩ := Entry.isSeparated_iff.mp separated
  refine Entry.isSeparated_iff.mpr ⟨diff.isApart_apply apart, ?_⟩
  rw [unknown_apply]
  exact undescribed

theorem hasNoNulls_apply (filled : entry.HasNoNulls) : (diff.apply entry).HasNoNulls := by
  intro linked member
  rcases diff.transaction_apply_cases member with same | ⟨account, rfl⟩
  · exact filled linked same
  · intro field present
    cases old : entry.transaction with
    | none => simp [old, LinkedTransaction.onAccount, LinkedTransaction.empty] at present
    | some transaction =>
        exact filled transaction old field
          (by simpa [old, LinkedTransaction.onAccount] using present)

end EntryDiff

namespace Entry

theorem Rewritten.isSeparated {first last : Entry} (rewritten : Rewritten first last)
    (separated : first.IsSeparated) : last.IsSeparated := by
  induction rewritten with
  | refl => exact separated
  | tail _ once ih =>
      cases once with
      | made found => exact EntryDiff.isSeparated_apply _ ih

theorem Rewritten.hasNoNulls {first last : Entry} (rewritten : Rewritten first last)
    (filled : first.HasNoNulls) : last.HasNoNulls := by
  induction rewritten with
  | refl => exact filled
  | tail _ once ih =>
      cases once with
      | made found => exact EntryDiff.hasNoNulls_apply _ ih

/-- However often rules have rewritten an entry since it was read, it is written so that it can be
read again as the same entry, and then it is written as before. -/
theorem rewritten_is_read_back {record : Json} {first last : Entry}
    (read : ofRecord record = .ok first) (single : HasOneDescription record)
    (filled : LinksWithoutNulls record) (rewritten : Rewritten first last) :
    ∃ again, ofRecord last.toRecord = .ok again ∧ again = last ∧
      again.toRecord = last.toRecord := by
  obtain ⟨apart, undescribed⟩ :=
    isSeparated_iff.mp (rewritten.isSeparated (isSeparated_of_ofRecord read single))
  have kept := withoutNulls_eq_self (rewritten.hasNoNulls (hasNoNulls_of_ofRecord read filled))
  have readBack := ofRecord_toRecord apart fun _ => undescribed
  rw [kept] at readBack
  exact ⟨last, readBack, rfl, rfl⟩

end Entry

/-! The entry that becomes a transfer, with its record, and a second rule that files the transfer
under a category again. -/

namespace Savings

def record : Json :=
  .object
    [("modified", .null), ("id", .string "E1"), ("description", .string "Move to\nsavings"),
      ("amount", .string "-100"),
      ("currency", .object [("rate", .integer 1), ("code", .string "EUR")]),
      ("date", .integer 1714521600), ("account", .string "A1"), ("category", .integer 7),
      ("tags", .array [.integer 1]), ("transaction", .null)]

def filing : Rule := { rule with description := none, action := .classify (some "Dining") none }

def first : Entry := (Entry.ofRecord record).toOption.getD entry

def moved : EntryDiff := (rule.diff context first).toOption.getD {}

def filed : EntryDiff := (filing.diff context (moved.apply first)).toOption.getD {}

def last : Entry := filed.apply (moved.apply first)

end Savings

theorem savings_is_read_back :
    Entry.ofRecord Savings.record = .ok Savings.first ∧
      Entry.Rewritten Savings.first Savings.last ∧
      Savings.last.description = some "Savings plan" ∧ Savings.last.category = some "7" ∧
      ∃ again, Entry.ofRecord Savings.last.toRecord = .ok again ∧ again = Savings.last ∧
        again.toRecord = Savings.last.toRecord := by
  open Savings in
  have read : Entry.ofRecord record = .ok first := Except.eq_ok_getD (by decide +kernel) entry
  have filled : Entry.LinksWithoutNulls record := by
    intro fields linked
    have unlinked : record.get? "transaction" = some .null := rfl
    rw [unlinked] at linked
    simp at linked
  have movedFound : rule.diff context first = .ok moved :=
    Except.eq_ok_getD (by decide +kernel) {}
  have filedFound : filing.diff context (moved.apply first) = .ok filed := by
    have ok : (filing.diff context (moved.apply first)).isOk = true := by decide +kernel
    exact Except.eq_ok_getD ok {}
  have once : Entry.RewrittenOnce first (moved.apply first) := .made movedFound
  have twice : Entry.RewrittenOnce (moved.apply first) last := .made filedFound
  have rewritten : Entry.Rewritten first last := (Relation.ReflTransGen.single once).tail twice
  exact ⟨read, rewritten, by decide +kernel, by decide +kernel,
    Entry.rewritten_is_read_back read (.inl rfl) filled rewritten⟩

end LedgerRules
