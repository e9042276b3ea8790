import LedgerRules.Ledger.Catalog
import LedgerRules.Proofs.Outcome

/-!
Names and ids in a catalog. A name is resolved if and only if it stands for exactly one item; an
item that is listed twice is two items. What is shown for an id is the name of the last item that
has it, and the id itself where there is none.
-/

namespace LedgerRules

namespace Catalog

/-- The items that a name stands for. Where a name may exist once for each kind, the kind counts. -/
def itemsNamed (catalog : Catalog) (name : String) (kind : Option String) : List Reference :=
  catalog.items.filter fun item =>
    item.name = name ∧ (catalog.label.isKeyedByKind = true → item.kind = kind)

/-- A name of a catalog for which an item is looked up. -/
def StandsFor (catalog : Catalog) (name : String) (kind : Option String) (id : String) : Prop :=
  ∃ item, catalog.itemsNamed name kind = [item] ∧ item.id = id

def resolutionError (catalog : Catalog) (name : String) (kind : Option String) :
    ReferenceError where
  catalog := catalog.label
  name := name
  kind := if catalog.label.isKeyedByKind then kind else none
  fault := if catalog.itemsNamed name kind = [] then .notFound else .ambiguous

theorem idsFor_eq (catalog : Catalog) (name : String) (kind : Option String) :
    catalog.idsFor name (catalog.lookupKind kind) = (catalog.itemsNamed name kind).map (·.id) := by
  rw [idsFor, itemsNamed]
  congr 1
  apply List.filter_congr
  intro item _
  rw [Bool.eq_iff_iff]
  by_cases keyed : catalog.label.isKeyedByKind = true
  · simp [hasKey, lookupKind, keyed]
  · simp [hasKey, lookupKind, keyed]

theorem resolve_eq (catalog : Catalog) (name : String) (kind : Option String) :
    catalog.resolve name kind =
      match catalog.itemsNamed name kind with
      | [item] => .ok item.id
      | _ => .error (catalog.resolutionError name kind) := by
  simp only [resolve, idsFor_eq, resolutionError]
  cases catalog.itemsNamed name kind with
  | nil => rfl
  | cons item rest => cases rest <;> rfl

theorem resolve_eq_ok_iff {catalog : Catalog} {name : String} {kind : Option String} {id : String} :
    catalog.resolve name kind = .ok id ↔ catalog.StandsFor name kind id := by
  rw [resolve_eq, StandsFor]
  cases catalog.itemsNamed name kind with
  | nil => simp
  | cons item rest => cases rest <;> simp

theorem resolve_eq_error_iff {catalog : Catalog} {name : String} {kind : Option String}
    {error : ReferenceError} :
    catalog.resolve name kind = .error error ↔
      (∀ id, ¬catalog.StandsFor name kind id) ∧ error = catalog.resolutionError name kind := by
  simp only [resolve_eq, StandsFor]
  cases catalog.itemsNamed name kind with
  | nil => simp [eq_comm]
  | cons item rest => cases rest <;> simp [eq_comm]

theorem StandsFor.unique {catalog : Catalog} {name : String} {kind : Option String}
    {id other : String} (first : catalog.StandsFor name kind id)
    (second : catalog.StandsFor name kind other) : id = other :=
  Except.ok.inj ((resolve_eq_ok_iff.mpr first).symm.trans (resolve_eq_ok_iff.mpr second))

/-- What is shown for an id. -/
inductive Shows (catalog : Catalog) (id : String) : String → Prop where
  | named {before after : List Reference} {item : Reference}
      (listed : catalog.items = before ++ item :: after) (own : item.id = id)
      (last : ∀ later ∈ after, later.id ≠ id) : Shows catalog id item.name
  | unknown (absent : ∀ item ∈ catalog.items, item.id ≠ id) : Shows catalog id id

theorem nameOf_eq_iff {catalog : Catalog} {id shown : String} :
    catalog.nameOf id = shown ↔ catalog.Shows id shown := by
  have shows : ∀ shown, catalog.Shows id shown → catalog.nameOf id = shown := by
    intro shown shows
    cases shows with
    | @named before after item listed own last =>
        have others : (after.reverse.find? fun item => item.id == id) = none := by
          simpa using last
        simp [nameOf, listed, List.find?_append, others, own]
    | unknown absent =>
        have nothing : (catalog.items.reverse.find? fun item => item.id == id) = none := by
          simpa using absent
        rw [nameOf, nothing]
  constructor
  · rintro rfl
    cases found : catalog.items.reverse.find? fun item => item.id == id with
    | none =>
        have absent : ∀ item ∈ catalog.items, item.id ≠ id := by simpa using found
        rw [shows id (.unknown absent)]
        exact .unknown absent
    | some item =>
        obtain ⟨own, after, before, split, last⟩ := List.find?_eq_some_iff_append.mp found
        have listed : catalog.items = before.reverse ++ item :: after.reverse := by
          rw [← List.reverse_reverse catalog.items, split]
          simp
        have shown : catalog.Shows id item.name := by
          refine .named listed (by simpa using own) ?_
          intro later member
          simpa using last later (List.mem_reverse.mp member)
        rw [shows _ shown]
        exact shown
  · exact shows shown

end Catalog

end LedgerRules
