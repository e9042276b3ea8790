import LedgerRules.Proofs.Outcome
import LedgerRules.Rules.Diff

/-!
Fields change independently. Whichever part of a difference is made, the rule afterwards asks for
exactly the rest: a field that has been changed is as the rule wants it, and the rule sees all
others as before, although a new account also takes the category and the tags away.
-/

namespace LedgerRules

inductive EntryField where
  | description
  | category
  | tags
  | account
  deriving DecidableEq, Repr

namespace EntryDiff

def only (diff : EntryDiff) (chosen : EntryField → Bool) : EntryDiff where
  description := if chosen .description then diff.description else none
  category := if chosen .category then diff.category else none
  tags := if chosen .tags then diff.tags else none
  account := if chosen .account then diff.account else none

def without (diff : EntryDiff) (chosen : EntryField → Bool) : EntryDiff :=
  diff.only fun field => !chosen field

theorem only_all (diff : EntryDiff) : (diff.only fun _ => true) = diff := by
  simp [only]

theorem only_none (diff : EntryDiff) : (diff.only fun _ => false) = {} := by
  simp [only]

theorem without_all (diff : EntryDiff) : (diff.without fun _ => true) = {} := only_none diff

variable (diff : EntryDiff) (entry : Entry)

@[simp] theorem amount_apply : (diff.apply entry).amount = entry.amount := by
  obtain ⟨description, category, tags, account⟩ := diff
  cases description <;> cases category <;> cases tags <;> cases account <;> rfl

@[simp] theorem account_apply : (diff.apply entry).account = entry.account := by
  obtain ⟨description, category, tags, account⟩ := diff
  cases description <;> cases category <;> cases tags <;> cases account <;> rfl

@[simp] theorem kind_apply : (diff.apply entry).kind = entry.kind := by
  rw [Entry.kind, Entry.kind, amount_apply]

@[simp] theorem id_apply : (diff.apply entry).id = entry.id := by
  obtain ⟨description, category, tags, account⟩ := diff
  cases description <;> cases category <;> cases tags <;> cases account <;> rfl

@[simp] theorem currency_apply : (diff.apply entry).currency = entry.currency := by
  obtain ⟨description, category, tags, account⟩ := diff
  cases description <;> cases category <;> cases tags <;> cases account <;> rfl

@[simp] theorem date_apply : (diff.apply entry).date = entry.date := by
  obtain ⟨description, category, tags, account⟩ := diff
  cases description <;> cases category <;> cases tags <;> cases account <;> rfl

@[simp] theorem unknown_apply : (diff.apply entry).unknown = entry.unknown := by
  obtain ⟨description, category, tags, account⟩ := diff
  cases description <;> cases category <;> cases tags <;> cases account <;> rfl

theorem description_apply :
    (diff.apply entry).description = (diff.description.map (·.new)).or entry.description := by
  obtain ⟨description, category, tags, account⟩ := diff
  cases description <;> cases category <;> cases tags <;> cases account <;> rfl

theorem transaction_apply :
    (diff.apply entry).transaction =
      (diff.account.map fun change =>
        (entry.transaction.getD LinkedTransaction.empty).onAccount change.new.id
          entry.currency).or entry.transaction := by
  obtain ⟨description, category, tags, account⟩ := diff
  cases description <;> cases category <;> cases tags <;> cases account <;> rfl

theorem linked_apply :
    (diff.apply entry).transaction.bind (·.account) =
      (diff.account.map (·.new.id)).or (entry.transaction.bind (·.account)) := by
  rw [transaction_apply]
  cases diff.account <;> rfl

variable {diff entry}

theorem category_apply (classifies : diff.account = none) :
    (diff.apply entry).category = (diff.category.map (·.new.id)).or entry.category := by
  obtain ⟨description, category, tags, account⟩ := diff
  obtain rfl : account = none := classifies
  cases description <;> cases category <;> cases tags <;> rfl

theorem tags_apply (classifies : diff.account = none) :
    (diff.apply entry).tags = (diff.tags.map (·.new.id)).or entry.tags := by
  obtain ⟨description, category, tags, account⟩ := diff
  obtain rfl : account = none := classifies
  cases description <;> cases category <;> cases tags <;> rfl

end EntryDiff

/-! What a field asks for once it has been changed, or left as it was. -/

section Fields

variable {context : Context} {entry again : Entry} {chosen : Bool}

theorem descriptionChange_rest {replacement : Option String}
    (stored : again.description =
      ((if chosen then descriptionChange replacement entry else none).map (·.new)).or
        entry.description) :
    descriptionChange replacement again =
      if !chosen then descriptionChange replacement entry else none := by
  cases chosen with
  | false =>
      have same : again.description = entry.description := by simpa using stored
      have shown : again.shownDescription = entry.shownDescription := by
        rw [Entry.shownDescription, Entry.shownDescription, same]
      simp [descriptionChange, shown]
  | true =>
      cases replacement with
      | none => rfl
      | some text =>
          by_cases same : Text.singleLine text = entry.shownDescription
          · have kept : again.description = entry.description := by
              simpa [descriptionChange, same] using stored
            have shown : again.shownDescription = entry.shownDescription := by
              rw [Entry.shownDescription, Entry.shownDescription, kept]
            simp [descriptionChange, shown, same]
          · have replaced : again.description = some text := by
              simpa [descriptionChange, same] using stored
            have shown : again.shownDescription = Text.singleLine text := by
              rw [Entry.shownDescription, replaced, Option.getD_some]
            simp [descriptionChange, shown]

theorem categoryChange_again {name : Option String} {change? : Option ReferenceChange}
    (found : categoryChange name context entry = .ok change?) (sameKind : again.kind = entry.kind)
    (stored : again.category = (change?.map (·.new.id)).or entry.category) :
    categoryChange name context again = .ok none := by
  cases name with
  | none => rfl
  | some name =>
      simp only [categoryChange, sameKind] at found ⊢
      obtain ⟨target, resolved, found⟩ := Except.bind_eq_ok.mp found
      refine Except.bind_eq_ok.mpr ⟨target, resolved, ?_⟩
      by_cases same : entry.category = some target
      · simp only [same, if_true, Except.pure_eq_ok] at found
        subst found
        simp [stored, same, Except.pure_eq_ok]
      · simp only [same, if_false, Except.pure_eq_ok] at found
        subst found
        simp [stored, Except.pure_eq_ok]

theorem categoryChange_rest {name : Option String} {change? : Option ReferenceChange}
    (found : categoryChange name context entry = .ok change?) (sameKind : again.kind = entry.kind)
    (stored : again.category =
      ((if chosen then change? else none).map (·.new.id)).or entry.category) :
    categoryChange name context again = .ok (if !chosen then change? else none) := by
  cases chosen with
  | false =>
      have same : again.category = entry.category := by simpa using stored
      simpa [categoryChange, sameKind, same] using found
  | true =>
      have changed : again.category = (change?.map (·.new.id)).or entry.category := by
        simpa using stored
      simpa using categoryChange_again found sameKind changed

theorem haveSameMembers_self (members : List String) : haveSameMembers members members = true := by
  simp [haveSameMembers]

theorem tagsChange_again {names : Option (List String)} {change? : Option ReferencesChange}
    (found : tagsChange names context entry = .ok change?) (sameKind : again.kind = entry.kind)
    (stored : again.tags = (change?.map (·.new.id)).or entry.tags) :
    tagsChange names context again = .ok none := by
  cases names with
  | none => rfl
  | some names =>
      simp only [tagsChange, sameKind] at found ⊢
      obtain ⟨targets, resolved, found⟩ := Except.bind_eq_ok.mp found
      refine Except.bind_eq_ok.mpr ⟨targets, resolved, ?_⟩
      by_cases same : haveSameMembers targets (entry.tags.getD []) = true
      · simp only [same, if_true, Except.pure_eq_ok] at found
        subst found
        simp [stored, same, Except.pure_eq_ok]
      · simp only [same, Bool.false_eq_true, if_false, Except.pure_eq_ok] at found
        subst found
        simp [stored, haveSameMembers_self, Except.pure_eq_ok]

theorem tagsChange_rest {names : Option (List String)} {change? : Option ReferencesChange}
    (found : tagsChange names context entry = .ok change?) (sameKind : again.kind = entry.kind)
    (stored : again.tags = ((if chosen then change? else none).map (·.new.id)).or entry.tags) :
    tagsChange names context again = .ok (if !chosen then change? else none) := by
  cases chosen with
  | false =>
      have same : again.tags = entry.tags := by simpa using stored
      simpa [tagsChange, sameKind, same] using found
  | true =>
      have changed : again.tags = (change?.map (·.new.id)).or entry.tags := by simpa using stored
      simpa using tagsChange_again found sameKind changed

theorem accountChange_again {name : String} {change? : Option ReferenceChange}
    (found : accountChange name context entry = .ok change?)
    (sameAccount : again.account = entry.account)
    (stored : again.transaction.bind (·.account) =
      (change?.map (·.new.id)).or (entry.transaction.bind (·.account))) :
    accountChange name context again = .ok none := by
  simp only [accountChange, sameAccount] at found ⊢
  obtain ⟨target, resolved, found⟩ := Except.bind_eq_ok.mp found
  refine Except.bind_eq_ok.mpr ⟨target, resolved, ?_⟩
  by_cases same : entry.transaction.bind (·.account) = some target ∨ entry.account = target
  · simp only [same, if_true, Except.pure_eq_ok] at found
    subst found
    simp [stored, same, Except.pure_eq_ok]
  · simp only [same, if_false, Except.pure_eq_ok] at found
    subst found
    simp [stored, Except.pure_eq_ok]

theorem accountChange_rest {name : String} {change? : Option ReferenceChange}
    (found : accountChange name context entry = .ok change?)
    (sameAccount : again.account = entry.account)
    (stored : again.transaction.bind (·.account) =
      ((if chosen then change? else none).map (·.new.id)).or
        (entry.transaction.bind (·.account))) :
    accountChange name context again = .ok (if !chosen then change? else none) := by
  cases chosen with
  | false =>
      have same : again.transaction.bind (·.account) = entry.transaction.bind (·.account) := by
        simpa using stored
      simpa [accountChange, sameAccount, same] using found
  | true =>
      have changed : again.transaction.bind (·.account) =
          (change?.map (·.new.id)).or (entry.transaction.bind (·.account)) := by
        simpa using stored
      simpa using accountChange_again found sameAccount changed

end Fields

/-- What a rule asks for once some of the fields have been changed. -/
theorem Rule.diff_rest {rule : Rule} {context : Context} {entry : Entry} {diff : EntryDiff}
    (found : rule.diff context entry = .ok diff) (chosen : EntryField → Bool) :
    rule.diff context ((diff.only chosen).apply entry) = .ok (diff.without chosen) := by
  generalize made : (diff.only chosen).apply entry = again
  have sameKind : again.kind = entry.kind := made ▸ EntryDiff.kind_apply _ entry
  have sameAccount : again.account = entry.account := made ▸ EntryDiff.account_apply _ entry
  have described := made ▸ EntryDiff.description_apply (diff.only chosen) entry
  simp only [Rule.diff, EntryDiff.merge_classified, EntryDiff.merge_transferred] at found ⊢
  cases action : rule.action with
  | classify category tags =>
      simp only [action, Except.bind_eq_ok, Except.pure_eq_ok] at found ⊢
      obtain ⟨categoryDiff, categoryFound, tagsDiff, tagsFound, rfl⟩ := found
      have classifies : (EntryDiff.only
          ⟨descriptionChange rule.description entry, categoryDiff, tagsDiff, none⟩ chosen).account =
          none := ite_self none
      have categoryRest := categoryChange_rest categoryFound sameKind
        (made ▸ EntryDiff.category_apply classifies)
      have tagsRest := tagsChange_rest tagsFound sameKind (made ▸ EntryDiff.tags_apply classifies)
      refine ⟨_, categoryRest, _, tagsRest, ?_⟩
      simp only [descriptionChange_rest described, EntryDiff.without, EntryDiff.only, ite_self]
  | transfer account =>
      simp only [action, Except.bind_eq_ok, Except.pure_eq_ok] at found ⊢
      obtain ⟨accountDiff, accountFound, rfl⟩ := found
      have accountRest := accountChange_rest accountFound sameAccount
        (made ▸ EntryDiff.linked_apply _ entry)
      refine ⟨_, accountRest, ?_⟩
      simp only [descriptionChange_rest described, EntryDiff.without, EntryDiff.only, ite_self]

theorem Rule.diff_made {rule : Rule} {context : Context} {entry : Entry} {diff : EntryDiff}
    (found : rule.diff context entry = .ok diff) :
    rule.diff context (diff.apply entry) = .ok {} := by
  have rest := Rule.diff_rest found fun _ => true
  rwa [EntryDiff.only_all, EntryDiff.without_all] at rest

/-- Any part of a difference can be made on its own; what is left is asked for as before, and
nothing is left of the whole. -/
theorem part_made_leaves_rest {rule : Rule} {context : Context} {entry : Entry} {diff : EntryDiff}
    (found : rule.diff context entry = .ok diff) :
    (∀ chosen, rule.diff context ((diff.only chosen).apply entry) = .ok (diff.without chosen)) ∧
      rule.diff context (diff.apply entry) = .ok {} ∧
      rule.diff context ((diff.only fun _ => false).apply entry) = .ok diff := by
  refine ⟨Rule.diff_rest found, Rule.diff_made found, ?_⟩
  rw [EntryDiff.only_none]
  exact found

/-! A rule that renames an entry and turns it into a transfer, of which only the second is done: the
entry loses its category and its tags, and the new name is still asked for. -/

namespace Savings

def rule : Rule where
  matcher := ⟨"", ⟨.empty, { ignoreCase := true, multiLine := true, unicode := true }⟩, none, none,
    none⟩
  description := some "Savings plan"
  action := .transfer "Savings"
  position := 0

def context : Context := .ofItems [⟨"A2", "Savings", none⟩] [⟨"7", "Dining", some "expense"⟩] []

def entry : Entry where
  id := "E1"
  description := some "Move to\nsavings"
  amount := .ofInt (-100)
  currency := ⟨"EUR", [("rate", .integer 1)]⟩
  date := ⟨2024, 5, 1, by decide⟩
  account := "A1"
  category := some "7"
  tags := some ["1"]
  transaction := none
  unknown := [("modified", .null)]

def diff : EntryDiff where
  description := some ⟨"Move to savings", "Savings plan"⟩
  account := some ⟨⟨none, none⟩, ⟨"A2", "Savings"⟩⟩

def transferred : Entry :=
  { entry with
    category := none
    tags := none
    transaction := some ⟨none, some "A2", some entry.currency, []⟩ }

end Savings

theorem savings_transferred_still_renamed :
    Savings.rule.diff Savings.context Savings.entry = .ok Savings.diff ∧
      Savings.rule.diff Savings.context Savings.transferred =
        .ok { description := some ⟨"Move to savings", "Savings plan"⟩ } := by
  have found : Savings.rule.diff Savings.context Savings.entry = .ok Savings.diff := rfl
  exact ⟨found, (part_made_leaves_rest found).1 (· == .account)⟩

end LedgerRules
