import LedgerRules.Proofs.Document.Canonical
import LedgerRules.Proofs.Outcome

/-!
Documents of one shape, side by side. They are scalars, lists or mappings together; lists agree item
by item, and mappings agree on every name that is not written like a scalar of another kind.
-/

namespace LedgerRules

open Text

namespace Document

/-- Documents made of scalars, lists and mappings only, without bytes. The keys of a mapping are
different keys. -/
inductive IsPlain : Document → Prop where
  | scalar {value : Scalar} (textual : ∀ content, value ≠ .bytes content) : IsPlain (.scalar value)
  | list {items : List Document} (plain : ∀ item ∈ items, IsPlain item) : IsPlain (.list items)
  | mapping {entries : Entries}
      (distinct : entries.Pairwise fun left right => left.1.isSameKey right.1 = false)
      (plain : ∀ entry ∈ entries, IsPlain entry.2) : IsPlain (.mapping entries)

structure Alike (document other : Document) : Prop where
  plain : document.IsPlain
  other_plain : other.IsPlain
  same : ∃ shape, document.shape = .ok shape ∧ other.shape = .ok shape

/-! The parts of a shape are the shapes of the parts. -/

theorem itemShapes_eq (items : List Document) : itemShapes items = items.map shape := by
  induction items with
  | nil => rfl
  | cons item rest ih => rw [itemShapes, ih, List.map_cons]

theorem entryShapes_eq (entries : Entries) :
    entryShapes entries = entries.map (Prod.map id shape) := by
  induction entries with
  | nil => rfl
  | cons entry rest ih =>
      rw [entryShapes, ih, List.map_cons]
      rfl

theorem shape_list_iff {items : List Document} {found : Shape} :
    (Document.list items).shape = .ok found ↔
      ∃ shapes, found = .list shapes ∧
        List.Forall₂ (fun item shape => item.shape = .ok shape) items shapes := by
  simp only [shape, listShape, itemShapes_eq, List.mapM_map, Except.bind_eq_ok,
    Except.pure_eq_ok, Except.mapM_eq_ok, Function.comp, id]
  constructor
  · rintro ⟨shapes, each, rfl⟩
    exact ⟨shapes, rfl, each⟩
  · rintro ⟨shapes, rfl, each⟩
    exact ⟨shapes, each, rfl⟩

/-- What an entry becomes in the shape of its mapping. -/
structure IsShaped (entry : Scalar × Document) (field : String × Shape) : Prop where
  name : keyText entry.1 = .ok field.1
  value : entry.2.shape = .ok field.2

theorem orderedEntries_perm {α : Type} {entries ordered : List (Scalar × α)}
    (sorted : orderedEntries entries = .ok ordered) : ordered.Perm entries := by
  have permuted := List.mergeSort_perm entries fun left right => !right.1.keyLess left.1
  simp only [orderedEntries] at sorted
  split at sorted
  · exact Except.ok.inj sorted ▸ permuted
  · split at sorted
    · cases sorted
    · exact Except.ok.inj sorted ▸ permuted

theorem shape_mapping_ok {entries : Entries} {found : Shape}
    (shaped : (Document.mapping entries).shape = .ok found) :
    ∃ ordered fields, ordered.Perm entries ∧ found = .object fields ∧
      List.Forall₂ IsShaped ordered fields := by
  simp only [shape, objectShape, entryShapes_eq, orderedEntries_map] at shaped
  cases sorted : orderedEntries entries with
  | error error => simp [sorted, Except.map, bind, Except.bind] at shaped
  | ok ordered =>
      simp only [sorted, Except.map, Except.bind_eq_ok, Except.pure_eq_ok, List.mapM_map,
        Except.ok.injEq, exists_eq_left'] at shaped
      obtain ⟨fields, each, rfl⟩ := shaped
      refine ⟨ordered, fields, orderedEntries_perm sorted, rfl, ?_⟩
      refine (Except.mapM_eq_ok.mp each).imp ?_
      rintro ⟨key, value⟩ ⟨name, shape⟩ field
      simp only [Function.comp, fieldShape, Prod.map, id_eq, Except.bind_eq_ok,
        Except.pure_eq_ok] at field
      obtain ⟨_, named, _, valued, same⟩ := field
      obtain ⟨rfl, rfl⟩ := Prod.mk.inj same
      exact ⟨named, valued⟩

inductive Kind where
  | scalar
  | list
  | mapping
  deriving DecidableEq

def kind? : Document → Option Kind
  | .scalar _ => some .scalar
  | .list _ => some .list
  | .mapping _ => some .mapping
  | _ => none

def shapeKind : Shape → Kind
  | .word _ => .scalar
  | .text _ => .scalar
  | .list _ => .list
  | .object _ => .mapping

theorem kind_of_shape {document : Document} (plain : document.IsPlain) {found : Shape}
    (shaped : document.shape = .ok found) : document.kind? = some (shapeKind found) := by
  cases plain with
  | @scalar value _ =>
      obtain rfl := Except.ok.inj shaped
      cases value <;> rfl
  | list _ =>
      obtain ⟨_, rfl, _⟩ := shape_list_iff.mp shaped
      rfl
  | mapping _ _ =>
      obtain ⟨_, _, _, rfl, _⟩ := shape_mapping_ok shaped
      rfl

/-! The value under a name. A name finds one entry at most, so that the order of the entries does
not matter. -/

def NamesDiffer (left right : Scalar × Document) : Prop :=
  ∀ name, left.1 = .string name → right.1 ≠ .string name

theorem namesDiffer_symm {left right : Scalar × Document} (differ : NamesDiffer left right) :
    NamesDiffer right left := fun name named same => differ name same named

theorem namesDiffer_of_distinct {left right : Scalar × Document}
    (distinct : left.1.isSameKey right.1 = false) : NamesDiffer left right := by
  intro name named same
  rw [named, same] at distinct
  simp [Scalar.isSameKey, Scalar.wholeNumber?] at distinct

namespace Entries

theorem get?_cons (entry : Scalar × Document) (rest : Entries) (name : String) :
    get? (entry :: rest) name =
      if entry.1 = .string name then some entry.2 else rest.get? name := by
  by_cases same : entry.1 = .string name <;> simp [get?, same]

theorem get?_eq_some_iff {entries : Entries} (distinct : entries.Pairwise NamesDiffer)
    {name : String} {value : Document} :
    entries.get? name = some value ↔ (.string name, value) ∈ entries := by
  induction entries with
  | nil => simp [get?]
  | cons entry rest ih =>
      obtain ⟨apart, others⟩ := List.pairwise_cons.mp distinct
      rw [get?_cons, List.mem_cons]
      by_cases same : entry.1 = .string name
      · have absent : (.string name, value) ∉ rest := fun member =>
          apart _ member name same rfl
        rw [if_pos same, ← same]
        simp [absent, Prod.ext_iff, same, eq_comm]
      · rw [if_neg same, ih others]
        have other : (.string name, value) ≠ entry := fun equal => same (equal ▸ rfl)
        simp [other]

theorem get?_perm {entries ordered : Entries} (distinct : entries.Pairwise NamesDiffer)
    (permuted : ordered.Perm entries) (name : String) :
    ordered.get? name = entries.get? name := by
  have distinctToo : ordered.Pairwise NamesDiffer :=
    permuted.symm.pairwise distinct fun differ => namesDiffer_symm differ
  apply Option.ext
  intro value
  rw [get?_eq_some_iff distinctToo, get?_eq_some_iff distinct, permuted.mem_iff]

end Entries

def specialWords : List String := ["null", "true", "false", "NaN", "Infinity", "-Infinity"]

theorem keyText_cases {key : Scalar} {name : String} (written : keyText key = .ok name) :
    key = .string name ∨ IsNumeral name ∨ name ∈ specialWords := by
  cases key with
  | string text => exact .inl (congrArg Scalar.string (Except.ok.inj written))
  | integer value => exact .inr (.inl (Except.ok.inj written ▸ .of_int value))
  | null => exact .inr (.inr (Except.ok.inj written ▸ by decide))
  | bool value => cases value <;> exact .inr (.inr (Except.ok.inj written ▸ by decide))
  | double value =>
      rw [← Except.ok.inj written]
      cases value with
      | finite negative rank => exact .inr (.inl (Double.isNumeral_finite _ negative rank))
      | infinite negative => cases negative <;> exact .inr (.inr (by decide))
      | notANumber => exact .inr (.inr (by decide))
  | _ => cases written

/-- A name that is not written like a scalar of another kind. -/
structure IsFieldName (name : String) : Prop where
  letters : ¬IsNumeral name
  ordinary : name ∉ specialWords

instance (name : String) : Decidable (IsFieldName name) :=
  decidable_of_iff (¬IsNumeral name ∧ name ∉ specialWords)
    ⟨fun ⟨letters, ordinary⟩ => ⟨letters, ordinary⟩, fun field => ⟨field.letters, field.ordinary⟩⟩

theorem IsFieldName.key_eq {name : String} (field : IsFieldName name) {key : Scalar}
    (written : keyText key = .ok name) : key = .string name :=
  (keyText_cases written).resolve_right fun other => other.elim field.letters field.ordinary

theorem get?_lookup {name : String} (fieldName : IsFieldName name) {entries : Entries}
    {fields : List (String × Shape)} (shaped : List.Forall₂ IsShaped entries fields) :
    Option.Rel (fun value shape => value.shape = .ok shape) (entries.get? name)
      (fields.lookup name) := by
  induction shaped with
  | nil => exact .none
  | @cons entry field entries fields own _ ih =>
      rw [Entries.get?_cons]
      by_cases same : entry.1 = .string name
      · have named : field.1 = name := by
          have written := own.name
          rw [same] at written
          exact (Except.ok.inj written).symm
        rw [if_pos same, List.lookup_cons, beq_iff_eq.mpr named.symm]
        exact .some own.value
      · have other : (name == field.1) = false := by
          apply beq_false_of_ne
          rintro rfl
          exact same (fieldName.key_eq own.name)
        rw [if_neg same, List.lookup_cons, other]
        exact ih

theorem get?_of_shape {entries : Entries} (plain : (Document.mapping entries).IsPlain)
    {fields : List (String × Shape)}
    (shaped : (Document.mapping entries).shape = .ok (.object fields)) {name : String}
    (fieldName : IsFieldName name) :
    Option.Rel (fun value shape => value.IsPlain ∧ value.shape = .ok shape) (entries.get? name)
      (fields.lookup name) := by
  obtain ⟨distinct, parts⟩ : entries.Pairwise NamesDiffer ∧ ∀ entry ∈ entries, entry.2.IsPlain := by
    cases plain with
    | mapping distinct parts => exact ⟨distinct.imp namesDiffer_of_distinct, parts⟩
  obtain ⟨ordered, _, permuted, same, each⟩ := shape_mapping_ok shaped
  obtain rfl := Shape.object.inj same
  have looked := get?_lookup fieldName each
  rw [Entries.get?_perm distinct permuted] at looked
  cases found : entries.get? name with
  | none =>
      rw [found] at looked
      cases missing : fields.lookup name with
      | none => exact .none
      | some shape =>
          rw [missing] at looked
          cases looked
  | some value =>
      have member := (Entries.get?_eq_some_iff distinct).mp found
      rw [found] at looked
      cases present : fields.lookup name with
      | none =>
          rw [present] at looked
          cases looked
      | some shape =>
          rw [present] at looked
          cases looked with
          | some valueShape => exact .some ⟨parts _ member, valueShape⟩

namespace Alike

theorem symm {document other : Document} (alike : Alike document other) : Alike other document := by
  obtain ⟨shape, shaped, shapedToo⟩ := alike.same
  exact ⟨alike.other_plain, alike.plain, shape, shapedToo, shaped⟩

theorem get? {entries others : Entries} (alike : Alike (.mapping entries) (.mapping others))
    {name : String} (fieldName : IsFieldName name) :
    Option.Rel Alike (entries.get? name) (others.get? name) := by
  obtain ⟨plain, othersPlain, found, shaped, othersShaped⟩ := alike
  obtain ⟨_, fields, _, rfl, _⟩ := shape_mapping_ok shaped
  have left := get?_of_shape plain shaped fieldName
  have right := get?_of_shape othersPlain othersShaped fieldName
  generalize entries.get? name = value at left ⊢
  generalize others.get? name = other at right ⊢
  generalize fields.lookup name = shape at left right
  cases left with
  | none =>
      cases right
      exact .none
  | some own =>
      cases right with
      | some ownToo => exact .some ⟨own.1, ownToo.1, _, own.2, ownToo.2⟩

theorem of_shapes {items others : List Document} {shapes : List Shape}
    (plain : ∀ item ∈ items, item.IsPlain) (othersPlain : ∀ item ∈ others, item.IsPlain)
    (each : List.Forall₂ (fun item shape => item.shape = .ok shape) items shapes)
    (eachToo : List.Forall₂ (fun item shape => item.shape = .ok shape) others shapes) :
    List.Forall₂ Alike items others := by
  induction each generalizing others with
  | nil =>
      cases eachToo
      exact .nil
  | cons own _ ih =>
      cases eachToo with
      | cons ownToo later =>
          obtain ⟨first, rest⟩ := List.forall_mem_cons.mp plain
          obtain ⟨firstToo, restToo⟩ := List.forall_mem_cons.mp othersPlain
          exact .cons ⟨first, firstToo, _, own, ownToo⟩ (ih rest restToo later)

theorem items {items others : List Document} (alike : Alike (.list items) (.list others)) :
    List.Forall₂ Alike items others := by
  obtain ⟨plain, othersPlain, found, shaped, othersShaped⟩ := alike
  obtain ⟨shapes, rfl, each⟩ := shape_list_iff.mp shaped
  obtain ⟨_, same, eachToo⟩ := shape_list_iff.mp othersShaped
  obtain rfl := Shape.list.inj same
  cases plain with
  | list parts =>
      cases othersPlain with
      | list othersParts => exact of_shapes parts othersParts each eachToo

theorem scalars {value other : Scalar} (alike : Alike (.scalar value) (.scalar other)) :
    value.shape = other.shape := by
  obtain ⟨shape, shaped, shapedToo⟩ := alike.same
  exact Except.ok.inj (shaped.trans shapedToo.symm)

theorem kind_eq {document other : Document} (alike : Alike document other) :
    document.kind? = other.kind? := by
  obtain ⟨plain, otherPlain, found, shaped, otherShaped⟩ := alike
  rw [kind_of_shape plain shaped, kind_of_shape otherPlain otherShaped]

end Alike

end Document

end LedgerRules
