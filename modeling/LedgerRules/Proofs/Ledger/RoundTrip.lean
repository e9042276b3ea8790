import LedgerRules.Proofs.Calendar.DateText
import LedgerRules.Proofs.Ledger.Checked
import LedgerRules.Proofs.Ledger.Records

/-!
Writing an entry back and reading it again. An entry that has been read keeps its unknown fields
apart from the known ones, and then nothing is lost on the way but null fields of its linked
transaction, which are not written.
-/

namespace LedgerRules

namespace Json.Fields

def Avoids (fields : Fields) (names : List String) : Prop := ∀ field ∈ fields, field.1 ∉ names

theorem avoids_others (fields : Fields) (known : List String) :
    (fields.others known).Avoids known := by
  intro field member listed
  have other := (List.mem_filter.mp member).2
  simp [listed] at other

theorem get?_eq_none_iff {fields : Fields} {name : String} :
    fields.get? name = none ↔ ∀ field ∈ fields, field.1 ≠ name := by
  rw [get?, List.lookup_eq_none_iff]
  constructor
  · intro absent field member same
    simpa [same] using absent field member
  · intro absent field member
    simpa using Ne.symm (absent field member)

theorem Avoids.get?_eq_none {fields : Fields} {names : List String} (avoids : fields.Avoids names)
    {name : String} (listed : name ∈ names) : fields.get? name = none :=
  get?_eq_none_iff.mpr fun field member same => avoids field member (same ▸ listed)

theorem Avoids.others_eq {fields : Fields} {names : List String} (avoids : fields.Avoids names) :
    fields.others names = fields := by
  apply List.filter_eq_self.mpr
  intro field member
  simpa using avoids field member

theorem get?_append (left right : Fields) (name : String) :
    get? (left ++ right) name = (left.get? name).or (right.get? name) := by
  simp only [get?, List.lookup_append]

theorem get?_cons (field : String × Json) (rest : Fields) (name : String) :
    get? (field :: rest) name = if name = field.1 then some field.2 else rest.get? name := by
  obtain ⟨key, value⟩ := field
  by_cases same : name = key
  · simp [get?, same]
  · simp [get?, List.lookup_cons, same, beq_false_of_ne same]

theorem get?_present (key : String) (value : Option Json) (name : String) :
    (present key value).get? name = if name = key then value else none := by
  cases value with
  | none => simp [present, get?]
  | some value =>
      rw [present, get?_cons]
      rfl

theorem others_append (left right : Fields) (known : List String) :
    others (left ++ right) known = left.others known ++ right.others known := by
  simp only [others, List.filter_append]

theorem others_cons_known {name : String} {known : List String} (listed : name ∈ known)
    (value : Json) (rest : Fields) : others ((name, value) :: rest) known = rest.others known := by
  simp [others, listed]

theorem others_present {name : String} {known : List String} (listed : name ∈ known)
    (value : Option Json) : (present name value).others known = [] := by
  cases value <;> simp [present, others, listed]

end Json.Fields

namespace Field

theorem required_ok {α : Type} {fields : Json.Fields} {name : String} {check : Json → Checked α}
    {result : α} (read : required fields name check = .ok result) :
    ∃ value, fields.get? name = some value ∧ check value = .ok result := by
  cases found : fields.get? name with
  | none => simp [required, found] at read
  | some value =>
      simp only [required, found] at read
      exact ⟨value, rfl, Checked.within_eq_ok.mp read⟩

theorem required_of_get? {α : Type} {fields : Json.Fields} {name : String}
    {check : Json → Checked α} {value : Json} {result : α} (found : fields.get? name = some value)
    (checked : check value = .ok result) : required fields name check = .ok result := by
  simp only [required, found]
  exact Checked.within_eq_ok.mpr checked

theorem absent_ok {α : Type} {fields : Json.Fields} {name : String} {check : Json → Checked α}
    {result : α} (read : absent fields name check = .ok (some result)) :
    ∃ value, fields.get? name = some value ∧ check value = .ok result := by
  cases found : fields.get? name with
  | none => simp [absent, found] at read
  | some value =>
      simp only [absent, found, Checked.within] at read
      refine ⟨value, rfl, ?_⟩
      cases checked : check value with
      | error errors => cases value <;> simp_all [optional, Except.map, Except.mapError]
      | ok other => cases value <;> simp_all [optional, Except.map, Except.mapError]

theorem absent_of_get?_none {α : Type} {fields : Json.Fields} {name : String}
    {check : Json → Checked α} (missing : fields.get? name = none) :
    absent fields name check = .ok none := by
  simp only [absent, missing]

theorem absent_of_get?_map {α : Type} {fields : Json.Fields} {name : String}
    {check : Json → Checked α} {encode : α → Json} {value : Option α} {read : α → α}
    (found : fields.get? name = value.map encode) (filled : ∀ item, (encode item).isNull = false)
    (checked : ∀ item ∈ value, check (encode item) = .ok (read item)) :
    absent fields name check = .ok (value.map read) := by
  cases value with
  | none => exact absent_of_get?_none found
  | some item =>
      have optionalCheck : optional check (encode item) = .ok (some (read item)) := by
        have plain := filled item
        have checkedItem := checked item rfl
        cases encoded : encode item <;> simp_all [optional, Json.isNull, Except.map]
      simp only [Option.map_some] at found
      simp only [absent, found, Checked.within, optionalCheck, Except.mapError, Option.map_some]

end Field

open Json.Fields

namespace Currency

def IsSeparated (currency : Currency) : Prop := currency.unknown.Avoids knownFields

/-- What the fields of a record say of the currency that is read from them. -/
structure IsReadFrom (currency : Currency) (fields : Json.Fields) : Prop where
  code : Field.required fields "code" Field.textOnly = .ok currency.code
  unknown : currency.unknown = fields.others knownFields

theorem isReadFrom_of_check {record : Json} {currency : Currency}
    (read : check record = .ok currency) :
    ∃ fields, record = .object fields ∧ currency.IsReadFrom fields := by
  cases record with
  | object fields =>
      refine ⟨fields, rfl, ?_⟩
      simp only [check, Except.map] at read
      cases code : Field.required fields "code" Field.textOnly with
      | error errors => simp [code] at read
      | ok text =>
          simp only [code, Except.ok.injEq] at read
          subst read
          exact ⟨code, rfl⟩
  | _ => simp [check, Checked.fault] at read

theorem isSeparated_of_check {record : Json} {currency : Currency}
    (read : check record = .ok currency) : currency.IsSeparated := by
  obtain ⟨fields, _, readFrom⟩ := isReadFrom_of_check read
  rw [IsSeparated, readFrom.unknown]
  exact avoids_others fields knownFields

def fields (currency : Currency) : Json.Fields :=
  ("code", .string currency.code) :: currency.unknown

theorem toRecord_eq (currency : Currency) : currency.toRecord = .object currency.fields := rfl

theorem get?_code (currency : Currency) :
    currency.fields.get? "code" = some (.string currency.code) := by
  rw [fields, get?_cons, if_pos rfl]

theorem others_fields {currency : Currency} (separated : currency.IsSeparated) :
    currency.fields.others knownFields = currency.unknown := by
  rw [fields, others_cons_known (by decide : "code" ∈ knownFields), separated.others_eq]

theorem check_toRecord {currency : Currency} (separated : currency.IsSeparated) :
    check currency.toRecord = .ok currency := by
  have read : Field.required currency.fields "code" Field.textOnly = .ok currency.code :=
    Field.required_of_get? currency.get?_code rfl
  simp only [toRecord_eq, check, read, others_fields separated, Except.map]

end Currency

namespace LinkedTransaction

def withoutNulls (transaction : LinkedTransaction) : LinkedTransaction :=
  { transaction with unknown := transaction.unknown.filter fun field => !field.2.isNull }

structure IsSeparated (transaction : LinkedTransaction) : Prop where
  unknown : transaction.unknown.Avoids knownFields
  currency : ∀ currency ∈ transaction.currency, currency.IsSeparated

/-- What the fields of a record say of the linked transaction that is read from them. -/
structure IsReadFrom (transaction : LinkedTransaction) (fields : Json.Fields) : Prop where
  id : Field.absent fields "id" Field.text = .ok transaction.id
  account : Field.absent fields "account" Field.text = .ok transaction.account
  currency : Field.absent fields "currency" Currency.check = .ok transaction.currency
  unknown : transaction.unknown = fields.others knownFields

theorem isReadFrom_of_check {record : Json} {transaction : LinkedTransaction}
    (read : check record = .ok transaction) :
    ∃ fields, record = .object fields ∧ transaction.IsReadFrom fields := by
  cases record with
  | object fields =>
      refine ⟨fields, rfl, ?_⟩
      simp only [check] at read
      split at read
      · rename_i id account currency
        obtain rfl := Except.ok.inj read
        exact ⟨id, account, currency, rfl⟩
      · simp at read
  | _ => simp [check, Checked.fault] at read

theorem isSeparated_of_check {record : Json} {transaction : LinkedTransaction}
    (read : check record = .ok transaction) : transaction.IsSeparated := by
  obtain ⟨fields, _, readFrom⟩ := isReadFrom_of_check read
  refine ⟨readFrom.unknown ▸ avoids_others fields knownFields, ?_⟩
  intro item member
  obtain ⟨value, _, checked⟩ := Field.absent_ok (member ▸ readFrom.currency)
  exact Currency.isSeparated_of_check checked

def fields (transaction : LinkedTransaction) : Json.Fields :=
  present "id" (transaction.id.map .string) ++
    present "account" (transaction.account.map .string) ++
    present "currency" (transaction.currency.map Currency.toRecord) ++
    transaction.withoutNulls.unknown

theorem toRecord_eq (transaction : LinkedTransaction) :
    transaction.toRecord = .object transaction.fields := rfl

/-- What a record gives of a linked transaction that has been written. -/
structure IsWrittenIn (transaction : LinkedTransaction) (fields : Json.Fields) : Prop where
  id : fields.get? "id" = transaction.id.map .string
  account : fields.get? "account" = transaction.account.map .string
  currency : fields.get? "currency" = transaction.currency.map Currency.toRecord
  unknown : fields.others knownFields = transaction.withoutNulls.unknown

theorem isWrittenIn_fields {transaction : LinkedTransaction} (separated : transaction.IsSeparated) :
    transaction.IsWrittenIn transaction.fields := by
  have rest : (transaction.withoutNulls.unknown).Avoids knownFields := fun field member =>
    separated.unknown field (List.mem_filter.mp member).1
  refine ⟨?_, ?_, ?_, ?_⟩
  · simp [fields, get?_append, get?_present, rest.get?_eq_none (by decide : "id" ∈ knownFields)]
  · simp [fields, get?_append, get?_present,
      rest.get?_eq_none (by decide : "account" ∈ knownFields)]
  · simp [fields, get?_append, get?_present,
      rest.get?_eq_none (by decide : "currency" ∈ knownFields)]
  · simp only [fields, others_append, rest.others_eq,
      others_present (by decide : "id" ∈ knownFields),
      others_present (by decide : "account" ∈ knownFields),
      others_present (by decide : "currency" ∈ knownFields), List.nil_append]

theorem check_toRecord {transaction : LinkedTransaction} (separated : transaction.IsSeparated) :
    check transaction.toRecord = .ok transaction.withoutNulls := by
  have written := isWrittenIn_fields separated
  have idRead : Field.absent transaction.fields "id" Field.text =
      .ok (transaction.id.map fun text => text) :=
    Field.absent_of_get?_map written.id (fun _ => rfl) fun _ _ => rfl
  have accountRead : Field.absent transaction.fields "account" Field.text =
      .ok (transaction.account.map fun text => text) :=
    Field.absent_of_get?_map written.account (fun _ => rfl) fun _ _ => rfl
  have currencyRead : Field.absent transaction.fields "currency" Currency.check =
      .ok (transaction.currency.map fun currency => currency) :=
    Field.absent_of_get?_map written.currency (fun _ => rfl) fun item member =>
      Currency.check_toRecord (separated.currency item member)
  simp only [toRecord_eq, check, idRead, accountRead, currencyRead, written.unknown,
    Option.map_id']
  rfl

end LinkedTransaction

namespace Entry

def writtenFields : List String :=
  ["id", "desc", "amount", "currency", "date", "account", "category", "tags", "transaction"]

/-- A record that gives its description under one name at most. -/
def HasOneDescription (record : Json) : Prop :=
  record.get? "desc" = none ∨ record.get? "description" = none

structure IsSeparated (entry : Entry) : Prop where
  unknown : entry.unknown.Avoids ("description" :: writtenFields)
  currency : entry.currency.IsSeparated
  transaction : ∀ transaction ∈ entry.transaction, transaction.IsSeparated

def withoutNulls (entry : Entry) : Entry :=
  { entry with transaction := entry.transaction.map LinkedTransaction.withoutNulls }

/-- The unknown fields stand apart from the written ones, at every level. -/
structure IsApart (entry : Entry) : Prop where
  unknown : entry.unknown.Avoids writtenFields
  currency : entry.currency.IsSeparated
  transaction : ∀ transaction ∈ entry.transaction, transaction.IsSeparated

theorem isSeparated_iff {entry : Entry} :
    entry.IsSeparated ↔ entry.IsApart ∧ entry.unknown.get? "description" = none := by
  constructor
  · intro separated
    refine ⟨⟨?_, separated.currency, separated.transaction⟩, ?_⟩
    · exact fun field member listed =>
        separated.unknown field member (List.mem_cons_of_mem _ listed)
    · exact separated.unknown.get?_eq_none List.mem_cons_self
  · rintro ⟨apart, undescribed⟩
    refine ⟨?_, apart.currency, apart.transaction⟩
    intro field member listed
    rcases List.mem_cons.mp listed with same | written
    · exact get?_eq_none_iff.mp undescribed field member same
    · exact apart.unknown field member written

/-- What the fields of a record say of the entry that is read from them. -/
structure IsReadFrom (entry : Entry) (fields : Json.Fields) : Prop where
  id : Field.required fields "id" Field.text = .ok entry.id
  description : Field.absent fields (descriptionField fields) Field.text = .ok entry.description
  amount : Field.required fields "amount" Field.number = .ok entry.amount
  currency : Field.required fields "currency" Currency.check = .ok entry.currency
  date : Field.required fields "date" Field.date = .ok entry.date
  account : Field.required fields "account" Field.text = .ok entry.account
  category : Field.absent fields "category" Field.text = .ok entry.category
  tags : Field.absent fields "tags" (Field.list Field.text) = .ok entry.tags
  transaction : Field.absent fields "transaction" LinkedTransaction.check = .ok entry.transaction
  unknown : entry.unknown = fields.others (knownFields fields)

theorem isReadFrom_of_ofRecord {record : Json} {entry : Entry}
    (read : ofRecord record = .ok entry) :
    ∃ fields, record = .object fields ∧ entry.IsReadFrom fields := by
  obtain ⟨fields, rfl, checked⟩ := ofRecord_ok read
  refine ⟨fields, rfl, ?_⟩
  simp only [check] at checked
  split at checked
  · rename_i id description amount currency date account category tags transaction
    obtain rfl := Except.ok.inj checked
    exact ⟨id, description, amount, currency, date, account, category, tags, transaction, rfl⟩
  · simp at checked

theorem descriptionField_cases (fields : Json.Fields) :
    descriptionField fields = "desc" ∨
      descriptionField fields = "description" ∧ fields.get? "desc" = none := by
  cases desc : fields.get? "desc" <;> cases description : fields.get? "description" <;>
    simp [descriptionField, desc, description]

theorem others_avoid_written (fields : Json.Fields) :
    (fields.others (knownFields fields)).Avoids writtenFields := by
  have known := avoids_others fields (knownFields fields)
  intro field member listed
  rcases descriptionField_cases fields with name | ⟨name, absent⟩
  · exact known field member (by rw [knownFields, name]; exact listed)
  · have other := get?_eq_none_iff.mp absent field (List.mem_filter.mp member).1
    apply known field member
    simp only [knownFields, name, writtenFields, List.mem_cons, List.not_mem_nil, or_false,
      other, false_or] at listed ⊢
    rcases listed with h | h | h | h | h | h | h | h <;> simp [h]

theorem isApart_of_ofRecord {record : Json} {entry : Entry} (read : ofRecord record = .ok entry) :
    entry.IsApart := by
  obtain ⟨fields, rfl, readFrom⟩ := isReadFrom_of_ofRecord read
  refine ⟨?_, ?_, ?_⟩
  · rw [readFrom.unknown]
    exact others_avoid_written fields
  · obtain ⟨value, _, valid⟩ := Field.required_ok readFrom.currency
    exact Currency.isSeparated_of_check valid
  · intro transaction linked
    have present := readFrom.transaction
    rw [Option.mem_def.mp linked] at present
    obtain ⟨value, _, valid⟩ := Field.absent_ok present
    exact LinkedTransaction.isSeparated_of_check valid

theorem get?_unknown_of_hasOneDescription {fields : Json.Fields}
    (single : HasOneDescription (.object fields)) :
    (fields.others (knownFields fields)).get? "description" = none := by
  rw [get?_eq_none_iff]
  intro field member same
  rcases descriptionField_cases fields with name | ⟨name, _⟩
  · have present : (fields.get? "description").isSome := by
      rw [Option.isSome_iff_ne_none]
      exact fun absent => get?_eq_none_iff.mp absent field (List.mem_filter.mp member).1 same
    rcases single with absent | absent
    · change fields.get? "desc" = none at absent
      simp [descriptionField, absent, present] at name
    · change fields.get? "description" = none at absent
      simp [absent] at present
  · exact avoids_others fields _ field member (by simp [knownFields, name, same])

theorem isSeparated_of_ofRecord {record : Json} {entry : Entry}
    (read : ofRecord record = .ok entry) (single : HasOneDescription record) :
    entry.IsSeparated := by
  refine isSeparated_iff.mpr ⟨isApart_of_ofRecord read, ?_⟩
  obtain ⟨fields, rfl, readFrom⟩ := isReadFrom_of_ofRecord read
  rw [readFrom.unknown]
  exact get?_unknown_of_hasOneDescription single

def fields (entry : Entry) : Json.Fields :=
  ("id", .string entry.id) :: present "desc" (entry.description.map .string) ++
    [("amount", .double entry.amount), ("currency", entry.currency.toRecord),
      ("date", .string entry.date.text), ("account", .string entry.account)] ++
    present "category" (entry.category.map .string) ++
    present "tags" (entry.tags.map fun tags => .array (tags.map .string)) ++
    present "transaction" (entry.transaction.map LinkedTransaction.toRecord) ++ entry.unknown

theorem toRecord_eq (entry : Entry) : entry.toRecord = .object entry.fields := rfl

variable {entry : Entry}

theorem get?_description (separated : entry.IsSeparated) :
    entry.fields.get? "description" = none := by
  simp [fields, get?_cons, get?_append, get?_present,
    separated.unknown.get?_eq_none List.mem_cons_self]

/-- A record that was written gives the description as `desc`, unless there is none and an unknown
field goes by the other name. -/
theorem descriptionField_fields
    (legible : entry.description = none → entry.unknown.get? "description" = none) :
    descriptionField entry.fields = "desc" := by
  cases described : entry.description with
  | none =>
      simp [descriptionField, fields, get?_cons, get?_append, get?_present, described,
        legible described]
  | some text =>
      simp [descriptionField, fields, get?_cons, get?_append, get?_present, described]

/-- What a record gives of an entry that has been written. -/
structure IsWrittenIn (entry : Entry) (fields : Json.Fields) : Prop where
  id : fields.get? "id" = some (.string entry.id)
  description : fields.get? "desc" = entry.description.map .string
  amount : fields.get? "amount" = some (.double entry.amount)
  currency : fields.get? "currency" = some entry.currency.toRecord
  date : fields.get? "date" = some (.string entry.date.text)
  account : fields.get? "account" = some (.string entry.account)
  category : fields.get? "category" = entry.category.map .string
  tags : fields.get? "tags" = entry.tags.map fun tags => .array (tags.map .string)
  transaction : fields.get? "transaction" = entry.transaction.map LinkedTransaction.toRecord
  unknown : fields.others writtenFields = entry.unknown

theorem isWrittenIn_fields (apart : entry.IsApart) : entry.IsWrittenIn entry.fields := by
  have missing {name : String} (listed : name ∈ writtenFields) :=
    apart.unknown.get?_eq_none listed
  have plain {name : String} (listed : name ∈ writtenFields) (value : Json) :
      others [(name, value)] writtenFields = [] := others_cons_known listed value []
  constructor
  case id => simp [fields, get?_cons]
  case description =>
    simp [fields, get?_cons, get?_append, get?_present, missing (by decide : "desc" ∈ _)]
  case amount => simp [fields, get?_cons, get?_append, get?_present]
  case currency => simp [fields, get?_cons, get?_append, get?_present]
  case date => simp [fields, get?_cons, get?_append, get?_present]
  case account => simp [fields, get?_cons, get?_append, get?_present]
  case category =>
    simp [fields, get?_cons, get?_append, get?_present, missing (by decide : "category" ∈ _)]
  case tags =>
    simp [fields, get?_cons, get?_append, get?_present, missing (by decide : "tags" ∈ _)]
  case transaction =>
    simp [fields, get?_cons, get?_append, get?_present, missing (by decide : "transaction" ∈ _)]
  case unknown =>
    simp only [fields, others_append, others_present (by decide : "desc" ∈ writtenFields),
      others_present (by decide : "category" ∈ writtenFields),
      others_present (by decide : "tags" ∈ writtenFields),
      others_present (by decide : "transaction" ∈ writtenFields),
      others_cons_known (by decide : "id" ∈ writtenFields),
      others_cons_known (by decide : "amount" ∈ writtenFields),
      others_cons_known (by decide : "currency" ∈ writtenFields),
      others_cons_known (by decide : "date" ∈ writtenFields),
      plain (by decide : "account" ∈ writtenFields), apart.unknown.others_eq, List.nil_append,
      List.append_nil]

theorem tags_read (tags : List String) :
    Field.list Field.text (.array (tags.map .string)) = .ok tags := by
  have items (index : Nat) : Checked.items Field.text index (tags.map .string) = .ok tags := by
    induction tags generalizing index with
    | nil => rfl
    | cons tag rest ih =>
        simp only [List.map_cons, Checked.items, Field.text, Checked.within, Except.mapError, ih]
  exact items 0

theorem ofRecord_toRecord (apart : entry.IsApart)
    (legible : entry.description = none → entry.unknown.get? "description" = none) :
    ofRecord entry.toRecord = .ok entry.withoutNulls := by
  have written := isWrittenIn_fields apart
  have descriptionRead : Field.absent entry.fields "desc" Field.text =
      .ok (entry.description.map fun text => text) :=
    Field.absent_of_get?_map written.description (fun _ => rfl) fun _ _ => rfl
  have currencyRead : Field.required entry.fields "currency" Currency.check = .ok entry.currency :=
    Field.required_of_get? written.currency (Currency.check_toRecord apart.currency)
  have dateRead : Field.required entry.fields "date" Field.date = .ok entry.date :=
    Field.required_of_get? written.date
      (by simp only [Field.date, Date.ofText_text, Except.mapError])
  have categoryRead : Field.absent entry.fields "category" Field.text =
      .ok (entry.category.map fun text => text) :=
    Field.absent_of_get?_map written.category (fun _ => rfl) fun _ _ => rfl
  have tagsRead : Field.absent entry.fields "tags" (Field.list Field.text) =
      .ok (entry.tags.map fun tags => tags) :=
    Field.absent_of_get?_map written.tags (fun _ => rfl) fun tags _ => tags_read tags
  have transactionRead : Field.absent entry.fields "transaction" LinkedTransaction.check =
      .ok (entry.transaction.map LinkedTransaction.withoutNulls) :=
    Field.absent_of_get?_map written.transaction (fun _ => rfl) fun item member =>
      LinkedTransaction.check_toRecord (apart.transaction item member)
  have unknown : entry.fields.others (knownFields entry.fields) = entry.unknown := by
    rw [knownFields, descriptionField_fields legible]
    exact written.unknown
  simp only [toRecord_eq, ofRecord, readRecord, check, descriptionField_fields legible,
    Field.required_of_get? written.id (rfl : Field.text (.string entry.id) = _), descriptionRead,
    Field.required_of_get? written.amount (rfl : Field.number (.double entry.amount) = _),
    currencyRead, dateRead,
    Field.required_of_get? written.account (rfl : Field.text (.string entry.account) = _),
    categoryRead, tagsRead, transactionRead, unknown, Option.map_id', Except.mapError]
  rfl

end Entry

end LedgerRules
