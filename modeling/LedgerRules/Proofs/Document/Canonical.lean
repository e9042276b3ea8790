import LedgerRules.Document.Canonical
import LedgerRules.Proofs.Document.Shape

/-!
The canonical text of a document as a shape. Two documents have one canonical text if and only if
they have one shape.
-/

namespace LedgerRules

open Text

namespace Word

theorem all_isUnquoted_of_numeral {text : String} (numeral : IsNumeral text) :
    text.toList.all isUnquoted :=
  List.all_eq_true.mpr fun character member => isUnquoted_of_numeral (numeral character member)

def ofNumeral {text : String} (numeral : IsNumeral text) (filled : text.toList ≠ []) : Word :=
  ⟨text, filled, all_isUnquoted_of_numeral numeral⟩

def ofBool (value : Bool) : Word :=
  if value then ⟨"true", by decide, by decide⟩ else ⟨"false", by decide, by decide⟩

def ofInt (value : Int) : Word := ofNumeral (.of_int value) (IsNumeral.int_ne_nil value)

theorem plain_jsonText (value : Double) :
    (value.textWith Double.jsonWords).toList.all isUnquoted := by
  cases value with
  | finite negative rank =>
      exact all_isUnquoted_of_numeral (Double.isNumeral_finite _ negative rank)
  | infinite negative => cases negative <;> decide
  | notANumber => decide

def ofDouble (value : Double) : Word :=
  ⟨value.textWith Double.jsonWords, Double.jsonText_ne_nil value, plain_jsonText value⟩

end Word

theorem closed_eq (closing : Char) (part : List Char) (parts : List (List Char)) :
    part ++ closed closing parts = [','].intercalate (part :: parts) ++ [closing] := by
  induction parts generalizing part with
  | nil => simp [closed, List.intercalate]
  | cons next rest ih =>
      rw [List.intercalate_cons_cons, List.append_assoc, ← ih next]
      simp [closed]

theorem bracketed_eq (opening closing : Char) (parts : List (List Char)) :
    bracketed opening closing parts = opening :: ([','].intercalate parts ++ [closing]) := by
  cases parts with
  | nil => rfl
  | cons part rest => rw [← closed_eq, bracketed, List.cons_append]

namespace Shape

def print (shape : Shape) : String := String.ofList shape.characters

theorem print_injective : Function.Injective print := fun _ _ same =>
  characters_injective (String.ofList_injective same)

theorem print_text (text : String) : (Shape.text text).print = Json.rawString text := rfl

theorem print_list (items : List Shape) :
    (Shape.list items).print = "[" ++ String.intercalate "," (items.map print) ++ "]" := by
  have texts : (items.map print).map String.toList = items.map characters := by
    simp [print, Function.comp_def]
  rw [← String.toList_inj]
  simp [print, characters, itemCharacters_eq, bracketed_eq, texts]

def printField (field : String × Shape) : String :=
  Json.rawString field.1 ++ ":" ++ field.2.print

theorem print_object (fields : List (String × Shape)) :
    (Shape.object fields).print =
      "\x7b" ++ String.intercalate "," (fields.map printField) ++ "\x7d" := by
  have texts : (fields.map printField).map String.toList = fields.map fieldText := by
    simp [printField, print, fieldText, quotedCharacters, Json.rawString, Function.comp_def]
  rw [← String.toList_inj]
  simp [print, characters, fieldCharacters_eq, bracketed_eq, texts]

end Shape

def Scalar.shape : Scalar → Shape
  | .null => .word ⟨"null", by decide, by decide⟩
  | .bool value => .word (.ofBool value)
  | .integer value => .word (.ofInt value)
  | .double value => .word (.ofDouble value)
  | .string text => .text text
  | .date day => .text day.text
  | .moment instant => .text instant.spacedText
  | .bytes content => .text (Text.quotedBytes content)

namespace Document

def listShape (shapes : List (Except CanonicalError Shape)) : Except CanonicalError Shape := do
  return .list (← shapes.mapM id)

def fieldShape (field : Scalar × Except CanonicalError Shape) :
    Except CanonicalError (String × Shape) := do
  let name ← keyText field.1
  return (name, ← field.2)

def objectShape (fields : List (Scalar × Except CanonicalError Shape)) :
    Except CanonicalError Shape := do
  let ordered ← orderedEntries fields
  return .object (← ordered.mapM fieldShape)

mutual

def shape : Document → Except CanonicalError Shape
  | .scalar value => return value.shape
  | .list items => listShape (itemShapes items)
  | .tuple items => listShape (itemShapes items)
  | .mapping entries => objectShape (entryShapes entries)
  | .set members => return .text (setText members)

def itemShapes : List Document → List (Except CanonicalError Shape)
  | [] => []
  | item :: rest => shape item :: itemShapes rest

def entryShapes : List (Scalar × Document) → List (Scalar × Except CanonicalError Shape)
  | [] => []
  | (key, value) :: rest => (key, shape value) :: entryShapes rest

end

def fieldText (field : Scalar × Except CanonicalError String) : Except CanonicalError String := do
  let name ← keyText field.1
  return Json.rawString name ++ ":" ++ (← field.2)

theorem scalarText_eq (value : Scalar) : scalarText value = value.shape.print := by
  cases value with
  | null => rfl
  | bool value => cases value <;> rfl
  | integer value => exact String.ofList_toList.symm
  | double value => exact String.ofList_toList.symm
  | _ => exact (Shape.print_text _).symm

theorem sortEntries_map {α β : Type} (change : α → β) (entries : List (Scalar × α)) :
    sortEntries (entries.map (Prod.map id change)) =
      (sortEntries entries).map (Prod.map id change) :=
  (List.map_mergeSort (f := Prod.map id change) fun _ _ _ _ => rfl).symm

theorem orderedEntries_map {α β : Type} (change : α → β) (entries : List (Scalar × α)) :
    orderedEntries (entries.map (Prod.map id change)) =
      (orderedEntries entries).map (List.map (Prod.map id change)) := by
  have keys : (entries.map (Prod.map id change)).map (·.1) = entries.map (·.1) := by
    rw [List.map_map]
    rfl
  simp only [orderedEntries, keys, sortEntries_map]
  split
  · rfl
  · cases comparisonError? (entries.map (·.1)) <;> rfl

/-! Two texts as keys, in either order. -/

section Pair

variable {α : Type} {first second : String} (ordered : first < second) (left right : α)
include ordered

theorem orderedEntries_pair :
    orderedEntries [(.string first, left), (.string second, right)] =
      .ok [(.string first, left), (.string second, right)] := by
  have behind : (Scalar.string second).keyLess (.string first) = false :=
    decide_eq_false (String.lt_asymm ordered)
  simp [orderedEntries, areComparable, sortEntries, List.mergeSort, behind, Scalar.keyKind, pure,
    Except.pure, List.MergeSort.Internal.splitInTwo]

theorem orderedEntries_swapped :
    orderedEntries [(.string second, right), (.string first, left)] =
      .ok [(.string first, left), (.string second, right)] := by
  have before : (Scalar.string first).keyLess (.string second) = true := decide_eq_true ordered
  simp [orderedEntries, areComparable, sortEntries, List.mergeSort, before, Scalar.keyKind, pure,
    Except.pure, List.MergeSort.Internal.splitInTwo]

end Pair

theorem mapM_map_of_map {α β γ δ : Type} {before : α → γ} {read : γ → Except CanonicalError δ}
    {readFirst : α → Except CanonicalError β} {after : β → δ}
    (same : ∀ item, read (before item) = (readFirst item).map after) (items : List α) :
    (items.map before).mapM read = (items.mapM readFirst).map (List.map after) := by
  induction items with
  | nil => rfl
  | cons item rest ih =>
      simp only [List.map_cons, List.mapM_cons, same, ih]
      cases readFirst item <;> cases rest.mapM readFirst <;> rfl

theorem listText_eq (shapes : List (Except CanonicalError Shape)) :
    listText (shapes.map (Except.map Shape.print)) = (listShape shapes).map Shape.print := by
  have each (shape : Except CanonicalError Shape) :
      id (shape.map Shape.print) = (id shape).map Shape.print := rfl
  have texts := mapM_map_of_map each shapes
  simp only [listText, listShape, texts]
  cases shapes.mapM id with
  | error error => rfl
  | ok items => exact congrArg Except.ok (Shape.print_list items).symm

theorem objectText_eq (fields : List (Scalar × Except CanonicalError Shape)) :
    objectText (fields.map (Prod.map id (Except.map Shape.print))) =
      (objectShape fields).map Shape.print := by
  simp only [objectText, objectShape, orderedEntries_map]
  cases orderedEntries fields with
  | error error => rfl
  | ok ordered =>
      have each (field : Scalar × Except CanonicalError Shape) :
          fieldText (Prod.map id (Except.map Shape.print) field) =
            (fieldShape field).map Shape.printField := by
        obtain ⟨key, value⟩ := field
        simp only [fieldText, fieldShape, Prod.map, id_eq]
        cases keyText key <;> cases value <;> rfl
      have texts := mapM_map_of_map each ordered
      change (List.mapM fieldText _ >>= _) = Except.map _ (List.mapM fieldShape ordered >>= _)
      rw [texts]
      cases ordered.mapM fieldShape with
      | error error => rfl
      | ok shapes => exact congrArg Except.ok (Shape.print_object shapes).symm

mutual

theorem canonicalText_eq : (document : Document) →
    document.canonicalText = document.shape.map Shape.print
  | .scalar value => congrArg Except.ok (scalarText_eq value)
  | .list items => by rw [canonicalText, shape, itemTexts_eq, listText_eq]
  | .tuple items => by rw [canonicalText, shape, itemTexts_eq, listText_eq]
  | .mapping entries => by rw [canonicalText, shape, entryTexts_eq, objectText_eq]
  | .set members => rfl

theorem itemTexts_eq : (items : List Document) →
    itemTexts items = (itemShapes items).map (Except.map Shape.print)
  | [] => rfl
  | item :: rest => by rw [itemTexts, itemShapes, canonicalText_eq, itemTexts_eq, List.map_cons]

theorem entryTexts_eq : (entries : List (Scalar × Document)) →
    entryTexts entries = (entryShapes entries).map (Prod.map id (Except.map Shape.print))
  | [] => rfl
  | (key, value) :: rest => by
      rw [entryTexts, entryShapes, canonicalText_eq, entryTexts_eq, List.map_cons]
      rfl

end

/-- Documents with one canonical text have one shape. -/
theorem shape_of_canonicalText {document other : Document} {text : String}
    (written : document.canonicalText = .ok text) (writtenToo : other.canonicalText = .ok text) :
    ∃ shape, document.shape = .ok shape ∧ other.shape = .ok shape := by
  rw [canonicalText_eq] at written writtenToo
  cases first : document.shape with
  | error error => simp [first, Except.map] at written
  | ok shape =>
      cases second : other.shape with
      | error error => simp [second, Except.map] at writtenToo
      | ok shapeToo =>
          simp only [first, second, Except.map, Except.ok.injEq] at written writtenToo
          obtain rfl := Shape.print_injective (written.trans writtenToo.symm)
          exact ⟨shape, rfl, rfl⟩

theorem fingerprint_of_canonicalText {document : Document} {text : String}
    (written : document.canonicalText = .ok text) :
    document.fingerprint = .ok (Sha256.hexDigest (Utf8.encode text)) := by
  rw [fingerprint, written]
  rfl

end Document

end LedgerRules
