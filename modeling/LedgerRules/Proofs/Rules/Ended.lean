import LedgerRules.Proofs.Rules.Acceptance

/-!
A number that is too long ends the check of a rule. In an element all of whose numbers can be
written, no part of the check is ended.
-/

namespace LedgerRules

open Json Document

namespace Definition

def IsUnended {α : Type} (checked : Checked α) : Prop := isEnded checked.errors = false

theorem isEnded_append {first second : List FieldError} (left : isEnded first = false)
    (right : isEnded second = false) : isEnded (first ++ second) = false := by
  simp_all [isEnded]

theorem isEnded_within (step : Step) (errors : List FieldError) :
    isEnded (errors.map (·.within step)) = isEnded errors := by
  simp only [isEnded, List.any_map]
  rfl

namespace IsUnended

variable {α β : Type} {checked : Checked α}

theorem within (unended : IsUnended checked) (step : Step) :
    IsUnended (Checked.within step checked) := by
  cases checked with
  | ok value => rfl
  | error errors => exact (isEnded_within step errors).trans unended

theorem map (unended : IsUnended checked) (change : α → β) : IsUnended (checked.map change) := by
  cases checked with
  | ok value => rfl
  | error errors => exact unended

end IsUnended

variable {α : Type} {check : Document → Checked α}

theorem unended_text {value : Json} (writable : value.IsWritable) :
    IsUnended (text (.ofJson value)) := by
  cases value with
  | integer number =>
      have short : isTooLong number = false := writable _ (.self _)
      simp only [ofJson, text, short, Bool.false_eq_true, if_false]
      rfl
  | _ => rfl

theorem unended_optional {document : Document} (unended : IsUnended (check document)) :
    IsUnended (optional check document) := by
  by_cases empty : document = .scalar .null
  · rw [empty]
    rfl
  · rw [optional_of_ne_null empty]
    exact unended.map some

section Fields

variable {fields : Fields} (writable : (object fields).IsWritable)
include writable

theorem unended_required (name : String)
    (unended : ∀ value : Json, value.IsWritable → IsUnended (check (.ofJson value))) :
    IsUnended (required (ofFields fields) name check) := by
  rw [required, get?_ofFields]
  cases found : fields.get? name with
  | none => rfl
  | some value => exact (unended value (writable.get? found)).within _

theorem unended_absent (name : String)
    (unended : ∀ value : Json, value.IsWritable → IsUnended (check (.ofJson value))) :
    IsUnended (absent (ofFields fields) name check) := by
  rw [absent, get?_ofFields]
  cases found : fields.get? name with
  | none => rfl
  | some value =>
      exact (unended_optional (unended value (writable.get? found))).within _

end Fields

theorem isEnded_keyErrors (known : List String) (entries : Entries) :
    isEnded (keyErrors known entries) = false := by
  have plain {key : Scalar} {given : List String} {error : FieldError}
      (found : keyError? given key = some error) : (error.fault == .integerTooLong) = false := by
    unfold keyError? at found
    split at found
    · split at found <;> cases found
      rfl
    · split at found
      · split at found <;> cases found
        rfl
      · cases found
        rfl
    · cases found
      rfl
  rw [isEnded, List.any_eq_false]
  intro error member
  obtain ⟨entry, -, found⟩ := List.mem_filterMap.mp member
  rw [plain found]
  decide

theorem unended_textList {value : Json} (writable : value.IsWritable) :
    IsUnended (textList (.ofJson value)) := by
  cases value with
  | array items =>
      have each (index : Nat) (among : ∀ item ∈ items, item.IsWritable) :
          IsUnended (Checked.items text index (ofItems items)) := by
        induction items generalizing index with
        | nil => rfl
        | cons item rest ih =>
            obtain ⟨first, others⟩ := List.forall_mem_cons.mp among
            have own := (unended_text first).within (.item index)
            have later := ih (isWritable_array others) (index + 1) others
            rw [ofItems, Checked.items]
            split
            · rfl
            · exact isEnded_append own later
      exact each 0 writable.item
  | _ => rfl

theorem unended_clauses {fields : Fields} (writable : (object fields).IsWritable) :
    IsUnended (clauses (ofFields fields)) := by
  have pattern := unended_required writable "pattern" fun _ => unended_text
  have kind := unended_absent writable "type" fun _ => unended_text
  have account := unended_absent writable "account" fun _ => unended_text
  have amount := unended_absent writable "amount" fun _ => unended_text
  have unknown := isEnded_keyErrors ["pattern", "type", "account", "amount"] (ofFields fields)
  simp only [clauses]
  split
  · rfl
  · have clauses := isEnded_append (isEnded_append (isEnded_append pattern kind) account) amount
    exact isEnded_append clauses unknown

theorem unended_matchForm {value : Json} (writable : value.IsWritable) :
    IsUnended (matchForm (.ofJson value)) := by
  have own := (unended_text writable).within (.field "str")
  have inner (entries : Entries) (same : ofJson value = .mapping entries) :
      IsUnended (clauses entries) := by
    cases value with
    | object fields =>
        cases same
        exact unended_clauses writable
    | _ => cases same
  generalize ofJson value = document at own inner ⊢
  unfold matchForm
  split
  · rfl
  · rename_i errors entries failed
    rw [failed] at own
    split
    · rfl
    · rename_i more refused
      have unended := inner entries rfl
      rw [refused] at unended
      split
      · exact unended
      · exact own
  · rename_i errors _ failed
    rwa [failed] at own

theorem unended_rule {fields : Fields} (writable : (object fields).IsWritable) :
    IsUnended (rule (ofFields fields)) := by
  have form := unended_required writable "match" fun _ => unended_matchForm
  have description := unended_absent writable "description" fun _ => unended_text
  have transfer := unended_required writable "transfer" fun _ => unended_text
  have category := unended_absent writable "category" fun _ => unended_text
  have tags := unended_absent writable "tags" fun _ => unended_textList
  have keys (known : List String) := isEnded_keyErrors known (ofFields fields)
  unfold rule
  split
  · simp only [transferRule]
    split
    · rfl
    · exact isEnded_append (isEnded_append (isEnded_append form description) transfer) (keys _)
  · simp only [entryRule]
    split
    · rfl
    · have fields := isEnded_append (isEnded_append (isEnded_append form description) category) tags
      exact isEnded_append fields (keys _)

end Definition

end LedgerRules
