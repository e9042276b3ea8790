import LedgerRules.Ledger.Entry
import LedgerRules.Text.Quoted

/-!
Catalogs: accounts, categories and tags, found by name. The same category or tag name may exist
once for expenses and once for income, so that these are found by name and kind. A name has to
stand for exactly one item.
-/

namespace LedgerRules

structure Reference where
  id : String
  name : String
  kind : Option String
  deriving DecidableEq, Repr

inductive CatalogLabel where
  | account
  | category
  | tag
  deriving DecidableEq, Repr

namespace CatalogLabel

def text : CatalogLabel → String
  | .account => "account"
  | .category => "category"
  | .tag => "tag"

def isKeyedByKind : CatalogLabel → Bool
  | .account => false
  | _ => true

end CatalogLabel

inductive ReferenceFault where
  | notFound
  | ambiguous
  deriving DecidableEq, Repr

def ReferenceFault.text : ReferenceFault → String
  | .notFound => "not found"
  | .ambiguous => "is ambiguous"

structure ReferenceError where
  catalog : CatalogLabel
  name : String
  kind : Option String
  fault : ReferenceFault
  deriving DecidableEq, Repr

def ReferenceError.message (error : ReferenceError) : String :=
  let kind :=
    match error.kind with
    | none => ""
    | some kind => if kind.isEmpty then "" else " (" ++ kind ++ ")"
  error.catalog.text ++ " " ++ Text.quoted error.name ++ kind ++ " " ++ error.fault.text

structure Catalog where
  label : CatalogLabel
  items : List Reference

namespace Catalog

def lookupKind (catalog : Catalog) (kind : Option String) : Option String :=
  if catalog.label.isKeyedByKind then kind else none

def hasKey (catalog : Catalog) (name : String) (kind : Option String) (item : Reference) : Bool :=
  item.name == name && catalog.lookupKind item.kind == kind

def idsFor (catalog : Catalog) (name : String) (kind : Option String) : List String :=
  (catalog.items.filter (catalog.hasKey name kind)).map (·.id)

def resolve (catalog : Catalog) (name : String) (kind : Option String) :
    Except ReferenceError String :=
  let kind := catalog.lookupKind kind
  match catalog.idsFor name kind with
  | [id] => .ok id
  | [] => .error ⟨catalog.label, name, kind, .notFound⟩
  | _ => .error ⟨catalog.label, name, kind, .ambiguous⟩

/-- The name of an item; an unknown id stands for itself. Of several items with an id the last one
counts. -/
def nameOf (catalog : Catalog) (id : String) : String :=
  match catalog.items.reverse.find? fun item => item.id == id with
  | some item => item.name
  | none => id

end Catalog

structure Context where
  accounts : Catalog
  categories : Catalog
  tags : Catalog

def Context.ofItems (accounts categories tags : List Reference) : Context :=
  ⟨⟨.account, accounts⟩, ⟨.category, categories⟩, ⟨.tag, tags⟩⟩

end LedgerRules
