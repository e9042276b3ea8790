import LedgerRules.Number.Double

/-!
JSON values. The fields of an object keep the order in which they were first given, and a whole
number is a value of its own kind, different from the floating point number of the same size.
-/

namespace LedgerRules

inductive Json where
  | null
  | bool (value : Bool)
  | integer (value : Int)
  | double (value : Double)
  | string (text : String)
  | array (items : List Json)
  | object (fields : List (String × Json))

namespace Json

instance : Inhabited Json := ⟨.null⟩

abbrev Fields := List (String × Json)

/-- Sets a field: a new one comes last, an old one keeps its place. -/
def Fields.insert (fields : Fields) (name : String) (value : Json) : Fields :=
  match fields with
  | [] => [(name, value)]
  | (other, old) :: rest =>
      if other == name then (name, value) :: rest else (other, old) :: Fields.insert rest name value

def Fields.get? (fields : Fields) (name : String) : Option Json := fields.lookup name

def get? (value : Json) (name : String) : Option Json :=
  match value with
  | .object fields => fields.lookup name
  | _ => none

def isNull : Json → Bool
  | .null => true
  | _ => false

def kindName : Json → String
  | .null => "NoneType"
  | .bool _ => "bool"
  | .integer _ => "int"
  | .double _ => "float"
  | .string _ => "str"
  | .array _ => "list"
  | .object _ => "dict"

def ofOption {α : Type} (encode : α → Json) : Option α → Json
  | none => .null
  | some value => encode value

end Json

end LedgerRules
