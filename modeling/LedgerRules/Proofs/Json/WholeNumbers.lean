import LedgerRules.Json.Reader
import LedgerRules.Proofs.Number.Digits
import LedgerRules.Proofs.Outcome

/-!
What a JSON text can hold. Its numbers may be of any size, but no whole number that is read from a
text has more digits than can be written.
-/

namespace LedgerRules.Json

inductive IsPartOf : Json → Json → Prop where
  | self (value : Json) : IsPartOf value value
  | item {part item : Json} {items : List Json} (within : IsPartOf part item)
      (member : item ∈ items) : IsPartOf part (.array items)
  | field {part : Json} {field : String × Json} {fields : Fields} (within : IsPartOf part field.2)
      (member : field ∈ fields) : IsPartOf part (.object fields)

def IsShort : Json → Prop
  | .integer value => isTooLong value = false
  | _ => True

def IsWritable (value : Json) : Prop := ∀ part : Json, part.IsPartOf value → part.IsShort

theorem IsWritable.item {items : List Json} (writable : (array items).IsWritable) :
    ∀ item ∈ items, item.IsWritable :=
  fun _ member part within => writable part (.item within member)

theorem IsWritable.get? {fields : Fields} (writable : (object fields).IsWritable) {name : String}
    {value : Json} (found : fields.get? name = some value) : value.IsWritable := by
  obtain ⟨before, after, rfl, -⟩ := List.lookup_eq_some_iff.mp found
  exact fun part within =>
    writable part (.field within (List.mem_append_right _ List.mem_cons_self))

theorem isWritable_array {items : List Json} (each : ∀ item ∈ items, item.IsWritable) :
    (array items).IsWritable := by
  rintro part (_ | ⟨within, member⟩)
  · trivial
  · exact each _ member part within

theorem isWritable_object {fields : Fields} (each : ∀ field ∈ fields, field.2.IsWritable) :
    (object fields).IsWritable := by
  rintro part (_ | _ | ⟨within, member⟩)
  · trivial
  · exact each _ member part within

theorem isWritable_string (text : String) : (string text).IsWritable := by
  rintro part ⟨⟩
  trivial

theorem isWritable_insert {fields : Fields} {name : String} {value : Json}
    (each : ∀ field ∈ fields, field.2.IsWritable) (own : value.IsWritable) :
    ∀ field ∈ fields.insert name value, field.2.IsWritable := by
  induction fields with
  | nil => exact List.forall_mem_singleton.mpr own
  | cons first rest ih =>
      obtain ⟨firstOwn, later⟩ := List.forall_mem_cons.mp each
      simp only [Fields.insert]
      split
      · exact List.forall_mem_cons.mpr ⟨own, later⟩
      · exact List.forall_mem_cons.mpr ⟨firstOwn, ih later⟩

theorem takeWhole_lt (characters : List Char) : ∀ value ∈ (takeWhole characters).1, value < 10 := by
  unfold takeWhole
  split
  · simp
  · exact takeDigits_lt characters

theorem isWritable_of_readNumber {negative : Bool} {start characters rest : List Char}
    {value : Json} (read : readNumber negative start characters = .ok (value, rest)) :
    value.IsWritable := by
  have small := takeWhole_lt characters
  unfold readNumber at read
  split at read
  · cases read
  · rename_i whole remaining taken
    rw [taken] at small
    dsimp only at read
    split at read
    · split at read
      · cases read
      · rename_i few
        cases read
        rintro part ⟨⟩
        refine isTooLong_of_digits (Nat.le_of_not_lt few) small ?_
        split <;> simp
    · cases read
      rintro part ⟨⟩
      trivial

theorem isWritable_of_readScalar {characters rest : List Char} {value : Json}
    (read : readScalar characters = .ok (value, rest)) : value.IsWritable := by
  unfold readScalar at read
  split at read
  case h_7 => exact isWritable_of_readNumber read
  case h_8 => exact isWritable_of_readNumber read
  all_goals
    cases read
    rintro part ⟨⟩
    trivial

/-- What is read in some steps can be written. -/
structure ReadsWritable (steps : Nat) : Prop where
  value : ∀ {characters value rest}, readValue steps characters = .ok (value, rest) →
    value.IsWritable
  items : ∀ {characters items rest}, readItems steps characters = .ok (items, rest) →
    ∀ item ∈ items, item.IsWritable
  fields : ∀ {before : Fields} {characters fields rest},
    (∀ field ∈ before, field.2.IsWritable) →
    readFields steps before characters = .ok (fields, rest) →
    ∀ field ∈ fields, field.2.IsWritable

namespace ReadsWritable

variable {steps : Nat}

theorem value_succ (reads : ReadsWritable steps) {characters rest : List Char} {value : Json}
    (read : readValue (steps + 1) characters = .ok (value, rest)) : value.IsWritable := by
  unfold readValue at read
  split at read
  · obtain ⟨taken, -, same⟩ := Except.map_eq_ok.mp read
    cases same
    exact isWritable_string _
  · split at read
    · cases read
      exact isWritable_array (by simp)
    · obtain ⟨taken, items, same⟩ := Except.map_eq_ok.mp read
      cases same
      exact isWritable_array (reads.items items)
  · split at read
    · cases read
      exact isWritable_object (by simp)
    · obtain ⟨taken, fields, same⟩ := Except.map_eq_ok.mp read
      cases same
      exact isWritable_object (reads.fields (by simp) fields)
  · exact isWritable_of_readScalar read

theorem items_succ (reads : ReadsWritable steps) {characters rest : List Char}
    {items : List Json} (read : readItems (steps + 1) characters = .ok (items, rest)) :
    ∀ item ∈ items, item.IsWritable := by
  simp only [readItems, Except.bind_eq_ok] at read
  obtain ⟨⟨item, behind⟩, own, read⟩ := read
  split at read
  · cases read
    exact List.forall_mem_singleton.mpr (reads.value own)
  · obtain ⟨⟨others, _⟩, later, read⟩ := Except.bind_eq_ok.mp read
    cases read
    exact List.forall_mem_cons.mpr ⟨reads.value own, reads.items later⟩
  · cases read

theorem fields_succ (reads : ReadsWritable steps) {before : Fields} {characters rest : List Char}
    {fields : Fields} (known : ∀ field ∈ before, field.2.IsWritable)
    (read : readFields (steps + 1) before characters = .ok (fields, rest)) :
    ∀ field ∈ fields, field.2.IsWritable := by
  unfold readFields at read
  split at read
  · obtain ⟨⟨name, behind⟩, -, read⟩ := Except.bind_eq_ok.mp read
    dsimp only at read
    split at read
    · obtain ⟨⟨value, behind⟩, own, read⟩ := Except.bind_eq_ok.mp read
      have more : ∀ field ∈ before.insert name value, field.2.IsWritable :=
        isWritable_insert known (reads.value own)
      dsimp only at read
      split at read
      · cases read
        exact more
      · exact reads.fields more read
      · cases read
    · cases read
  · cases read

end ReadsWritable

theorem readsWritable (steps : Nat) : ReadsWritable steps := by
  induction steps with
  | zero => exact ⟨nofun, nofun, nofun⟩
  | succ steps ih => exact ⟨ih.value_succ, ih.items_succ, ih.fields_succ⟩

theorem isWritable_of_read {text : String} {value : Json} (read : Json.read text = .ok value) :
    value.IsWritable := by
  rw [Json.read, Except.mapError_eq_ok, readCharacters] at read
  split at read
  · cases read
  · obtain ⟨⟨own, behind⟩, taken, read⟩ := Except.bind_eq_ok.mp read
    dsimp only at read
    split at read
    · cases read
      exact (readsWritable _).value taken
    · cases read

end LedgerRules.Json
