import LedgerRules.Proofs.Ledger.Rewriting

/-!
What a change does to the record of an entry. A field differs if and only if the difference names
it; a new account also takes the category and the tags away. All other fields stay as they are, the
unknown ones and those of the linked transaction included.
-/

namespace LedgerRules

open Json.Fields

/-! A field that is part of a difference is not yet as the rule wants it. -/

section Differs

variable {context : Context} {entry : Entry}

theorem descriptionChange_some {replacement : Option String} {change : Change String String}
    (wanted : descriptionChange replacement entry = some change) :
    replacement = some change.new ∧ entry.description ≠ some change.new := by
  cases replacement with
  | none => cases wanted
  | some text =>
      simp only [descriptionChange] at wanted
      split at wanted
      · cases wanted
      · rename_i different
        obtain rfl := Option.some.inj wanted
        refine ⟨rfl, ?_⟩
        intro same
        rw [Entry.shownDescription, same] at different
        exact different rfl

theorem categoryChange_some {name : Option String} {change : ReferenceChange}
    (wanted : categoryChange name context entry = .ok (some change)) :
    entry.category ≠ some change.new.id := by
  cases name with
  | none => cases wanted
  | some name =>
      simp only [categoryChange] at wanted
      obtain ⟨target, _, wanted⟩ := Except.bind_eq_ok.mp wanted
      split at wanted
      · cases wanted
      · rename_i different
        obtain rfl := Option.some.inj (Except.pure_eq_ok.mp wanted)
        exact different

theorem tagsChange_some {names : Option (List String)} {change : ReferencesChange}
    (wanted : tagsChange names context entry = .ok (some change)) :
    entry.tags ≠ some change.new.id := by
  cases names with
  | none => cases wanted
  | some names =>
      simp only [tagsChange] at wanted
      obtain ⟨targets, _, wanted⟩ := Except.bind_eq_ok.mp wanted
      split at wanted
      · cases wanted
      · rename_i different
        obtain rfl := Option.some.inj (Except.pure_eq_ok.mp wanted)
        intro same
        rw [same] at different
        exact different (haveSameMembers_self targets)

theorem accountChange_some {name : String} {change : ReferenceChange}
    (wanted : accountChange name context entry = .ok (some change)) :
    entry.transaction.bind (·.account) ≠ some change.new.id := by
  simp only [accountChange] at wanted
  obtain ⟨target, _, wanted⟩ := Except.bind_eq_ok.mp wanted
  split at wanted
  · cases wanted
  · rename_i different
    obtain rfl := Option.some.inj (Except.pure_eq_ok.mp wanted)
    exact fun same => different (.inl same)

end Differs

/-- What a difference that a rule computes says of an entry. -/
structure EntryDiff.IsWantedBy (diff : EntryDiff) (rule : Rule) (entry : Entry) : Prop where
  description : ∀ change ∈ diff.description,
    rule.description = some change.new ∧ entry.description ≠ some change.new
  category : ∀ change ∈ diff.category, entry.category ≠ some change.new.id
  tags : ∀ change ∈ diff.tags, entry.tags ≠ some change.new.id
  account : ∀ change ∈ diff.account, entry.transaction.bind (·.account) ≠ some change.new.id

theorem Rule.isWantedBy_of_diff {rule : Rule} {context : Context} {entry : Entry} {diff : EntryDiff}
    (found : rule.diff context entry = .ok diff) : diff.IsWantedBy rule entry := by
  simp only [Rule.diff, EntryDiff.merge_classified, EntryDiff.merge_transferred] at found
  cases action : rule.action with
  | classify category tags =>
      simp only [action, Except.bind_eq_ok, Except.pure_eq_ok] at found
      obtain ⟨categoryDiff, categoryFound, tagsDiff, tagsFound, rfl⟩ := found
      constructor
      case description => exact fun _ => descriptionChange_some
      case category =>
        rintro change rfl
        exact categoryChange_some categoryFound
      case tags =>
        rintro change rfl
        exact tagsChange_some tagsFound
      case account => simp
  | transfer account =>
      simp only [action, Except.bind_eq_ok, Except.pure_eq_ok] at found
      obtain ⟨accountDiff, accountFound, rfl⟩ := found
      constructor
      case description => exact fun _ => descriptionChange_some
      case category => simp
      case tags => simp
      case account =>
        rintro change rfl
        exact accountChange_some accountFound

namespace LinkedTransaction

/-- The fields of the linked transaction in the record of an entry; where there is none, it has no
fields. -/
def fieldsIn (record : Json.Fields) : Json.Fields :=
  match record.get? "transaction" with
  | some (.object fields) => fields
  | _ => []

/-- The linked transaction is put on an account. It gets a currency only if it has none. -/
structure MovedTo (account : String) (currency : Option Json) (before after : Json.Fields) :
    Prop where
  account : after.get? "account" = some (.string account)
  currency : after.get? "currency" = (before.get? "currency").or currency
  others : after.others ["account", "currency"] = before.others ["account", "currency"]

theorem movedTo_onAccount {transaction : LinkedTransaction} (separated : transaction.IsSeparated)
    (account : String) {currency : Currency} (plain : currency.IsSeparated) :
    MovedTo account (some currency.toRecord) transaction.fields
      (transaction.onAccount account currency).fields := by
  have before := isWrittenIn_fields separated
  have after := isWrittenIn_fields (isSeparated_onAccount separated account plain)
  refine ⟨after.account, ?_, ?_⟩
  · rw [after.currency, before.currency]
    cases own : transaction.currency <;> simp [onAccount, own]
  · simp only [fields, others_append,
      others_present (by decide : "account" ∈ ["account", "currency"]),
      others_present (by decide : "currency" ∈ ["account", "currency"])]
    rfl

end LinkedTransaction

namespace Entry

variable {entry : Entry}

theorem fieldsIn_fields (apart : entry.IsApart) :
    LinkedTransaction.fieldsIn entry.fields =
      (entry.transaction.getD LinkedTransaction.empty).fields := by
  rw [LinkedTransaction.fieldsIn, (isWrittenIn_fields apart).transaction]
  cases entry.transaction <;> rfl

/-- The fields of a record that a change may set or take away. -/
def changeableFields : List String := ["desc", "category", "tags", "transaction"]

theorem others_changeableFields (entry : Entry) :
    entry.fields.others changeableFields =
      [("id", .string entry.id), ("amount", .double entry.amount),
        ("currency", entry.currency.toRecord), ("date", .string entry.date.text),
        ("account", .string entry.account)] ++ entry.unknown.others changeableFields := by
  have kept : others [("amount", .double entry.amount), ("currency", entry.currency.toRecord),
      ("date", .string entry.date.text), ("account", .string entry.account)] changeableFields = _ :=
    List.filter_eq_self.mpr (by simp [changeableFields])
  have first (rest : Json.Fields) :
      others (("id", .string entry.id) :: rest) changeableFields =
        ("id", .string entry.id) :: rest.others changeableFields :=
    List.filter_cons_of_pos (by simp [changeableFields])
  simp only [fields, List.cons_append, first, others_append,
    others_present (by decide : "desc" ∈ changeableFields),
    others_present (by decide : "category" ∈ changeableFields),
    others_present (by decide : "tags" ∈ changeableFields),
    others_present (by decide : "transaction" ∈ changeableFields), kept, List.nil_append,
    List.append_nil]

/-- What a difference makes of the record of an entry. -/
structure UpdatedBy (diff : EntryDiff) (before after : Json.Fields) : Prop where
  description : after.get? "desc" =
    (diff.description.map fun change => .string change.new).or (before.get? "desc")
  category : diff.account = none → after.get? "category" =
    (diff.category.map fun change => .string change.new.id).or (before.get? "category")
  tags : diff.account = none → after.get? "tags" =
    (diff.tags.map fun change => .array (change.new.id.map .string)).or (before.get? "tags")
  transaction : diff.account = none → after.get? "transaction" = before.get? "transaction"
  moved : ∀ change ∈ diff.account,
    after.get? "category" = none ∧ after.get? "tags" = none ∧
      ∃ linked, after.get? "transaction" = some (.object linked) ∧
        LinkedTransaction.MovedTo change.new.id (before.get? "currency")
          (LinkedTransaction.fieldsIn before) linked
  others : after.others changeableFields = before.others changeableFields

theorem updatedBy_apply (apart : entry.IsApart) (diff : EntryDiff) :
    UpdatedBy diff entry.fields (diff.apply entry).fields := by
  have before := isWrittenIn_fields apart
  have after := isWrittenIn_fields (diff.isApart_apply apart)
  constructor
  case description =>
    rw [after.description, before.description, diff.description_apply]
    cases diff.description <;> rfl
  case category =>
    intro classifies
    rw [after.category, before.category, EntryDiff.category_apply classifies]
    cases diff.category <;> rfl
  case tags =>
    intro classifies
    rw [after.tags, before.tags, EntryDiff.tags_apply classifies]
    cases diff.tags <;> rfl
  case transaction =>
    intro classifies
    rw [after.transaction, before.transaction, diff.transaction_apply, classifies]
    rfl
  case moved =>
    intro change moved
    have transaction := diff.transaction_apply entry
    rw [Option.mem_def.mp moved, Option.map_some, Option.some_or] at transaction
    let linked :=
      (entry.transaction.getD LinkedTransaction.empty).onAccount change.new.id entry.currency
    refine ⟨?_, ?_, linked.fields, ?_, ?_⟩
    · rw [after.category, EntryDiff.apply, Option.mem_def.mp moved]
      rfl
    · rw [after.tags, EntryDiff.apply, Option.mem_def.mp moved]
      rfl
    · rw [after.transaction, transaction]
      rfl
    · rw [fieldsIn_fields apart, before.currency]
      apply LinkedTransaction.movedTo_onAccount _ _ apart.currency
      cases linked : entry.transaction with
      | none => exact LinkedTransaction.isSeparated_empty
      | some transaction => exact apart.transaction transaction linked
  case others =>
    rw [others_changeableFields, others_changeableFields, diff.id_apply, diff.amount_apply,
      diff.currency_apply, diff.account_apply, diff.unknown_apply, diff.date_apply]

/-- Where the record of an entry differs after a change. -/
structure DiffersIn (diff : EntryDiff) (before after : Json.Fields) : Prop where
  description : after.get? "desc" ≠ before.get? "desc" ↔ diff.description.isSome
  category : diff.account = none →
    (after.get? "category" ≠ before.get? "category" ↔ diff.category.isSome)
  tags : diff.account = none → (after.get? "tags" ≠ before.get? "tags" ↔ diff.tags.isSome)
  transaction : after.get? "transaction" ≠ before.get? "transaction" ↔ diff.account.isSome

theorem replaced_ne_iff {α β : Type} {encode : α → Json} (injective : Function.Injective encode)
    (change? : Option β) (new : β → α) {old : Option α}
    (different : ∀ change ∈ change?, old ≠ some (new change)) :
    (change?.map fun change => encode (new change)).or (old.map encode) ≠ old.map encode ↔
      change?.isSome := by
  cases change? with
  | none => simp
  | some change =>
      have other := different change rfl
      cases old with
      | none => simp
      | some kept => simpa [injective.eq_iff, eq_comm] using other

theorem differsIn_of_updatedBy (apart : entry.IsApart) {rule : Rule} {diff : EntryDiff}
    {after : Json.Fields} (wanted : diff.IsWantedBy rule entry)
    (updated : UpdatedBy diff entry.fields after) : DiffersIn diff entry.fields after := by
  have before := isWrittenIn_fields apart
  have text : Function.Injective Json.string := fun _ _ => Json.string.inj
  have texts : Function.Injective fun tags : List String => Json.array (tags.map .string) :=
    fun _ _ same => text.list_map (Json.array.inj same)
  constructor
  case description =>
    rw [updated.description, before.description]
    exact replaced_ne_iff text diff.description (·.new) fun change member =>
      (wanted.description change member).2
  case category =>
    intro classifies
    rw [updated.category classifies, before.category]
    exact replaced_ne_iff text diff.category (·.new.id) wanted.category
  case tags =>
    intro classifies
    rw [updated.tags classifies, before.tags]
    exact replaced_ne_iff texts diff.tags (·.new.id) wanted.tags
  case transaction =>
    cases moved : diff.account with
    | none => simp [updated.transaction moved]
    | some change =>
        obtain ⟨_, _, linked, stored, movedTo⟩ := updated.moved change moved
        refine ⟨fun _ => rfl, fun _ same => wanted.account change moved ?_⟩
        rw [stored, before.transaction] at same
        cases linkedBefore : entry.transaction with
        | none => simp [linkedBefore] at same
        | some transaction =>
            have written := LinkedTransaction.isWrittenIn_fields
              (apart.transaction transaction linkedBefore)
            have own := movedTo.account
            simp only [linkedBefore, Option.map_some, Option.some.injEq,
              LinkedTransaction.toRecord_eq, Json.object.injEq] at same
            rw [same, written.account] at own
            simpa using own

/-- What a rule changes in an entry that has been read is all that changes in its record. -/
theorem update_changes_named_fields {record : Json} {rule : Rule} {context : Context}
    {diff : EntryDiff} (read : ofRecord record = .ok entry)
    (found : rule.diff context entry = .ok diff) :
    ∃ before after, entry.toRecord = .object before ∧
      (diff.apply entry).toRecord = .object after ∧ UpdatedBy diff before after ∧
      DiffersIn diff before after ∧
      ∀ change ∈ diff.description, rule.description = some change.new := by
  have apart := isApart_of_ofRecord read
  have wanted := Rule.isWantedBy_of_diff found
  have updated := updatedBy_apply apart diff
  exact ⟨entry.fields, (diff.apply entry).fields, rfl, rfl, updated,
    differsIn_of_updatedBy apart wanted updated, fun change member =>
      (wanted.description change member).1⟩

end Entry

/-! A deposit whose linked transaction has no currency yet but fields of its own. It is renamed and
put on the account of the savings. -/

namespace Deposit

def record : Json :=
  .object
    [("modified", .null), ("id", .string "E1"), ("desc", .string "Move to\nsavings"),
      ("amount", .integer (-100)),
      ("currency", .object [("rate", .integer 1), ("code", .string "EUR")]),
      ("date", .string "2024-05-01"), ("account", .string "A1"), ("category", .string "7"),
      ("tags", .array [.string "1"]),
      ("transaction", .object
        [("id", .string "T1"), ("memo", .string "monthly"), ("currency", .null)])]

def entry : Entry := (Entry.ofRecord record).toOption.getD Savings.entry

def diff : EntryDiff := (Savings.rule.diff Savings.context entry).toOption.getD {}

end Deposit

theorem Entry.deposit_changes_named_fields :
    Entry.ofRecord Deposit.record = .ok Deposit.entry ∧
      Savings.rule.diff Savings.context Deposit.entry = .ok Deposit.diff ∧
      Deposit.diff.fieldNames = ["description", "account"] ∧
      ∃ before after, Deposit.entry.toRecord = .object before ∧
        (Deposit.diff.apply Deposit.entry).toRecord = .object after ∧
        Entry.UpdatedBy Deposit.diff before after ∧ Entry.DiffersIn Deposit.diff before after ∧
        ∀ change ∈ Deposit.diff.description, Savings.rule.description = some change.new := by
  have read : Entry.ofRecord Deposit.record = .ok Deposit.entry :=
    Except.eq_ok_getD (by decide +kernel) Savings.entry
  have found : Savings.rule.diff Savings.context Deposit.entry = .ok Deposit.diff := by
    have ok : (Savings.rule.diff Savings.context Deposit.entry).isOk = true := by decide +kernel
    exact Except.eq_ok_getD ok {}
  exact ⟨read, found, by decide +kernel, Entry.update_changes_named_fields read found⟩

end LedgerRules
