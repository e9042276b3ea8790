import LedgerRules.Proofs.Ledger.Naming
import Mathlib.Data.List.Perm.Basic

/-!
Keys of a catalog: the name, and the kind where the same name may exist once for each kind. Only how
many items have a key decides whether it stands for one, so that it does not matter in which order
the items are listed; nor does it matter for the names that are shown, as long as no two items share
an id.
-/

namespace LedgerRules

structure Reference.HasKey (item : Reference) (label : CatalogLabel) (name : String)
    (kind : Option String) : Prop where
  name : item.name = name
  kind : label.isKeyedByKind = true → item.kind = kind

theorem Reference.hasKey_iff {item : Reference} {label : CatalogLabel} {name : String}
    {kind : Option String} : item.HasKey label name kind ↔
      item.name = name ∧ (label.isKeyedByKind = true → item.kind = kind) :=
  ⟨fun key => ⟨key.name, key.kind⟩, fun key => ⟨key.1, key.2⟩⟩

instance (item : Reference) (label : CatalogLabel) (name : String) (kind : Option String) :
    Decidable (item.HasKey label name kind) :=
  decidable_of_iff _ Reference.hasKey_iff.symm

namespace Catalog

/-- How many items have a key; an item that is listed twice counts twice. -/
def countOf (catalog : Catalog) (name : String) (kind : Option String) : Nat :=
  catalog.items.countP fun item => item.HasKey catalog.label name kind

/-- What is said about a key that does not stand for one item. -/
def failure (label : CatalogLabel) (name : String) (kind : Option String)
    (fault : ReferenceFault) : ReferenceError :=
  ⟨label, name, if label.isKeyedByKind then kind else none, fault⟩

section Key

variable {catalog : Catalog} {name : String} {kind : Option String}

theorem mem_itemsNamed {item : Reference} :
    item ∈ catalog.itemsNamed name kind ↔
      item ∈ catalog.items ∧ item.HasKey catalog.label name kind := by
  rw [itemsNamed, List.mem_filter, decide_eq_true_iff, Reference.hasKey_iff]

theorem length_itemsNamed : (catalog.itemsNamed name kind).length = catalog.countOf name kind := by
  rw [itemsNamed, countOf, List.countP_eq_length_filter]
  simp only [Reference.hasKey_iff]

theorem standsFor_iff {id : String} :
    catalog.StandsFor name kind id ↔ catalog.countOf name kind = 1 ∧
      ∃ item ∈ catalog.items, item.HasKey catalog.label name kind ∧ item.id = id := by
  rw [StandsFor, ← length_itemsNamed]
  constructor
  · rintro ⟨item, only, own⟩
    have member : item ∈ catalog.itemsNamed name kind := only ▸ List.mem_singleton_self item
    obtain ⟨listed, key⟩ := mem_itemsNamed.mp member
    exact ⟨only ▸ rfl, item, listed, key, own⟩
  · rintro ⟨one, item, listed, key, own⟩
    obtain ⟨other, only⟩ := List.length_eq_one_iff.mp one
    have member : item ∈ catalog.itemsNamed name kind := mem_itemsNamed.mpr ⟨listed, key⟩
    obtain rfl := List.mem_singleton.mp (only ▸ member)
    exact ⟨item, only, own⟩

/-- A key stands for an id if any item has it and no other item does. -/
theorem exists_standsFor_iff : (∃ id, catalog.StandsFor name kind id) ↔
    catalog.countOf name kind = 1 := by
  constructor
  · rintro ⟨id, stands⟩
    exact (standsFor_iff.mp stands).1
  · intro one
    obtain ⟨item, only⟩ := List.length_eq_one_iff.mp (length_itemsNamed.trans one)
    exact ⟨item.id, item, only, rfl⟩

theorem resolve_eq_error_iff_countOf {error : ReferenceError} :
    catalog.resolve name kind = .error error ↔ catalog.countOf name kind ≠ 1 ∧
      error = failure catalog.label name kind
        (if catalog.countOf name kind = 0 then .notFound else .ambiguous) := by
  have unresolved : (∀ id, ¬catalog.StandsFor name kind id) ↔ catalog.countOf name kind ≠ 1 := by
    rw [← not_exists, exists_standsFor_iff]
  have empty : catalog.itemsNamed name kind = [] ↔ catalog.countOf name kind = 0 := by
    rw [← List.length_eq_zero_iff, length_itemsNamed]
  rw [resolve_eq_error_iff, unresolved]
  simp only [resolutionError, failure, empty]

theorem resolve_notFound_iff :
    catalog.resolve name kind = .error (failure catalog.label name kind .notFound) ↔
      catalog.countOf name kind = 0 := by
  rw [resolve_eq_error_iff_countOf]
  by_cases zero : catalog.countOf name kind = 0
  · simp [zero]
  · simp [zero, failure]

theorem resolve_ambiguous_iff :
    catalog.resolve name kind = .error (failure catalog.label name kind .ambiguous) ↔
      2 ≤ catalog.countOf name kind := by
  rw [resolve_eq_error_iff_countOf]
  by_cases zero : catalog.countOf name kind = 0
  · simp [zero, failure]
  · simp only [zero, if_false, and_true]
    omega

end Key

section Order

variable {label : CatalogLabel} {items others : List Reference} (same : items.Perm others)
include same

theorem countOf_perm (name : String) (kind : Option String) :
    countOf ⟨label, items⟩ name kind = countOf ⟨label, others⟩ name kind :=
  same.countP_eq _

theorem resolve_perm (name : String) (kind : Option String) :
    resolve ⟨label, items⟩ name kind = resolve ⟨label, others⟩ name kind := by
  cases resolved : resolve ⟨label, items⟩ name kind with
  | ok id =>
      rw [resolve_eq_ok_iff, standsFor_iff, countOf_perm same] at resolved
      obtain ⟨one, item, listed, key, own⟩ := resolved
      have stands : StandsFor ⟨label, others⟩ name kind id :=
        standsFor_iff.mpr ⟨one, item, same.mem_iff.mp listed, key, own⟩
      exact (resolve_eq_ok_iff.mpr stands).symm
  | error error =>
      rw [resolve_eq_error_iff_countOf, countOf_perm same] at resolved
      exact (resolve_eq_error_iff_countOf.mpr resolved).symm

end Order

/-! Items of which no two share an id. -/

section Ids

variable {catalog : Catalog} (distinct : (catalog.items.map (·.id)).Nodup)
include distinct

theorem nameOf_eq_iff_mem {id shown : String} : catalog.nameOf id = shown ↔
    (∃ item ∈ catalog.items, item.id = id ∧ item.name = shown) ∨
      (∀ item ∈ catalog.items, item.id ≠ id) ∧ id = shown := by
  rw [nameOf_eq_iff]
  constructor
  · intro shows
    cases shows with
    | @named before after item listed own last =>
        exact .inl ⟨item, listed ▸ List.mem_append_right _ List.mem_cons_self, own, rfl⟩
    | unknown absent => exact .inr ⟨absent, rfl⟩
  · rintro (⟨item, member, own, rfl⟩ | ⟨absent, rfl⟩)
    · obtain ⟨before, after, listed⟩ := List.append_of_mem member
      refine .named listed own fun later behind shared => ?_
      rw [listed, List.map_append, List.map_cons, List.nodup_append, List.nodup_cons] at distinct
      exact distinct.2.1.1 (List.mem_map.mpr ⟨later, behind, shared.trans own.symm⟩)
    · exact .unknown absent

theorem nameOf_of_mem {item : Reference} (member : item ∈ catalog.items) :
    catalog.nameOf item.id = item.name :=
  (nameOf_eq_iff_mem distinct).mpr (.inl ⟨item, member, rfl, rfl⟩)

theorem nameOf_perm {others : List Reference} (same : catalog.items.Perm others) (id : String) :
    catalog.nameOf id = nameOf ⟨catalog.label, others⟩ id := by
  have distinctToo : (others.map (·.id)).Nodup := (same.map _).nodup_iff.mp distinct
  have shown := (nameOf_eq_iff_mem distinct).mp (Eq.refl (catalog.nameOf id))
  simp only [same.mem_iff] at shown
  have same : nameOf ⟨catalog.label, others⟩ id = catalog.nameOf id :=
    (nameOf_eq_iff_mem distinctToo).mpr shown
  exact same.symm

end Ids

/-- An item is found by its own key unless another item has the same key. -/
theorem standsFor_own_iff {label : CatalogLabel} {before after : List Reference}
    {item : Reference} :
    (∃ id, StandsFor ⟨label, before ++ item :: after⟩ item.name item.kind id) ↔
      ∀ other ∈ before ++ after, ¬other.HasKey label item.name item.kind := by
  have own : item.HasKey label item.name item.kind := ⟨rfl, fun _ => rfl⟩
  have count : countOf ⟨label, before ++ item :: after⟩ item.name item.kind =
      countOf ⟨label, before ++ after⟩ item.name item.kind + 1 := by
    simp only [countOf, List.countP_append, List.countP_cons, own, decide_true, if_true]
    omega
  rw [exists_standsFor_iff, count, Nat.add_eq_right, countOf, List.countP_eq_zero]
  simp only [decide_eq_true_eq]

/-- A key is resolved to the id of the only item that has it; it is not found if no item has it, and
ambiguous if several do. The order of the items decides about nothing. -/
theorem resolved_by_count (label : CatalogLabel) (items : List Reference) :
    let catalog : Catalog := ⟨label, items⟩
    (∀ name kind,
      (∀ id, catalog.resolve name kind = .ok id ↔ catalog.countOf name kind = 1 ∧
        ∃ item ∈ items, item.HasKey label name kind ∧ item.id = id) ∧
      (catalog.resolve name kind = .error (failure label name kind .notFound) ↔
        catalog.countOf name kind = 0) ∧
      (catalog.resolve name kind = .error (failure label name kind .ambiguous) ↔
        2 ≤ catalog.countOf name kind)) ∧
    (∀ others, items.Perm others → ∀ name kind,
      catalog.resolve name kind = resolve ⟨label, others⟩ name kind) ∧
    (∀ before item after, items = before ++ item :: after →
      ((∃ id, catalog.resolve item.name item.kind = .ok id) ↔
        ∀ other ∈ before ++ after, ¬other.HasKey label item.name item.kind)) ∧
    ((items.map (·.id)).Nodup →
      (∀ others, items.Perm others → ∀ id, catalog.nameOf id = nameOf ⟨label, others⟩ id) ∧
      ∀ name kind id, catalog.resolve name kind = .ok id → catalog.nameOf id = name) := by
  intro catalog
  refine ⟨fun name kind => ⟨fun id => ?_, resolve_notFound_iff, resolve_ambiguous_iff⟩,
    fun others same => resolve_perm same, ?_, fun distinct => ⟨?_, ?_⟩⟩
  · rw [resolve_eq_ok_iff, standsFor_iff]
  · rintro before item after rfl
    simp only [resolve_eq_ok_iff]
    exact standsFor_own_iff
  · intro others same id
    change catalog.nameOf id = nameOf ⟨catalog.label, others⟩ id
    exact nameOf_perm distinct same id
  · intro name kind id resolved
    rw [resolve_eq_ok_iff, standsFor_iff] at resolved
    obtain ⟨-, item, member, key, rfl⟩ := resolved
    exact (nameOf_of_mem distinct member).trans key.name

end Catalog

/-! Food for both kinds, and rent twice for one of them. -/

namespace Household

def food : Reference := ⟨"1", "Food", some "expense"⟩

def meals : Reference := ⟨"2", "Food", some "income"⟩

def rent : Reference := ⟨"3", "Rent", some "expense"⟩

def garage : Reference := ⟨"4", "Rent", some "expense"⟩

def categories : Catalog := ⟨.category, [food, meals, rent, garage]⟩

end Household

open Household in
theorem household_resolved_by_count :
    categories.resolve "Food" (some "income") = .ok "2" ∧
      Catalog.resolve ⟨.category, [garage, rent, meals, food]⟩ "Food" (some "income") = .ok "2" ∧
      categories.nameOf "2" = "Food" ∧
      Catalog.nameOf ⟨.category, [garage, rent, meals, food]⟩ "2" = "Food" ∧
      ¬∃ id, categories.resolve "Rent" (some "expense") = .ok id := by
  obtain ⟨each, ordered, own, distinct⟩ :=
    Catalog.resolved_by_count .category [food, meals, rent, garage]
  have shuffled : [food, meals, rent, garage].Perm [garage, rent, meals, food] := by decide
  obtain ⟨sameNames, named⟩ := distinct (by decide)
  have found : categories.resolve "Food" (some "income") = .ok "2" :=
    ((each "Food" (some "income")).1 "2").mpr ⟨by decide, meals, by decide, by decide, rfl⟩
  have shown := named _ _ _ found
  refine ⟨found, (ordered _ shuffled _ _).symm.trans found, shown,
    (sameNames _ shuffled _).symm.trans shown, ?_⟩
  intro resolved
  have alone := (own [food, meals] rent [garage] rfl).mp resolved
  exact alone garage (by decide) (by decide)

end LedgerRules
