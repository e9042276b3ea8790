import LedgerRules.Proofs.Outcome
import LedgerRules.Proofs.Text.LineBreak
import LedgerRules.Rules.Run

/-!
What rules see of an entry. Its description is seen on a single line only, so that the style of its
line breaks makes no difference: neither to the rule that decides about the entry, nor to what that
rule would change.
-/

namespace LedgerRules

structure Entry.AppearsLike (left right : Entry) : Prop where
  shown : left.shownDescription = right.shownDescription
  amount : left.amount = right.amount
  account : left.account = right.account

namespace Entry.AppearsLike

variable {left right : Entry} (alike : left.AppearsLike right)

include alike

theorem kind : left.kind = right.kind := by
  rw [Entry.kind, Entry.kind, alike.amount]

theorem accepts (matcher : Matcher) (context : Context) :
    matcher.accepts context left = matcher.accepts context right := by
  simp only [Matcher.accepts, alike.kind, alike.shown, alike.account, alike.amount]

theorem firstMatch (rules : List Rule) (context : Context) :
    firstMatch rules context left = firstMatch rules context right := by
  induction rules with
  | nil => rfl
  | cons rule rest ih =>
      simp only [LedgerRules.firstMatch, alike.accepts, ih]

theorem descriptionChange (replacement : Option String) :
    descriptionChange replacement left = descriptionChange replacement right := by
  simp only [LedgerRules.descriptionChange, alike.shown]

end Entry.AppearsLike

/-- Agrees in all that a rule compares with what it wants. -/
structure Entry.DiffersLike (left right : Entry) : Prop extends left.AppearsLike right where
  category : left.category = right.category
  tags : left.tags = right.tags
  linked : left.transaction.bind (·.account) = right.transaction.bind (·.account)

namespace Entry.DiffersLike

variable {left right : Entry} (alike : left.DiffersLike right)

include alike

theorem diff (rule : Rule) (context : Context) :
    rule.diff context left = rule.diff context right := by
  have category (name : Option String) :
      categoryChange name context left = categoryChange name context right := by
    simp only [categoryChange, alike.kind, alike.category]
  have tags (names : Option (List String)) :
      tagsChange names context left = tagsChange names context right := by
    simp only [tagsChange, alike.kind, alike.tags]
  have account (name : String) :
      accountChange name context left = accountChange name context right := by
    simp only [accountChange, alike.account, alike.linked]
  simp only [Rule.diff, alike.descriptionChange, category, tags, account]

/-- The same rule wants the same changes; only the entries that they are made to differ. -/
theorem changeOf? (rules : List Rule) (context : Context) :
    (changeOf? rules context left).map (·.map fun change => (change.rule, change.diff)) =
      (changeOf? rules context right).map (·.map fun change => (change.rule, change.diff)) := by
  simp only [LedgerRules.changeOf?, alike.firstMatch]
  cases LedgerRules.firstMatch rules context right with
  | error error => rfl
  | ok rule? =>
      cases rule? with
      | none => rfl
      | some rule =>
          simp only [bind, Except.bind, alike.diff]
          cases rule.diff context right with
          | error error => rfl
          | ok diff => cases empty : diff.isEmpty <;> simp [empty, pure, Except.pure, Except.map]

end Entry.DiffersLike

/-- Nothing is to be done about a description that is as wanted but for its line breaks. -/
theorem Rule.diff_of_shown {rule : Rule} {text : String} (replaces : rule.description = some text)
    {entry : Entry} (shown : Text.singleLine text = entry.shownDescription) (context : Context) :
    rule.diff context entry = { rule with description := none }.diff context entry := by
  have nothing : descriptionChange rule.description entry = none := by
    rw [replaces, descriptionChange, if_pos shown]
  simp only [Rule.diff, nothing]
  rfl

theorem Rule.description_of_diff {rule : Rule} (keeps : rule.description = none) {entry : Entry}
    {context : Context} {diff : EntryDiff} (found : rule.diff context entry = .ok diff) :
    diff.description = none := by
  simp only [Rule.diff, keeps] at found
  cases action : rule.action with
  | classify category tags =>
      simp only [action, Except.bind_eq_ok, Except.pure_eq_ok] at found
      obtain ⟨_, _, _, _, rfl⟩ := found
      rfl
  | transfer account =>
      simp only [action, Except.bind_eq_ok, Except.pure_eq_ok] at found
      obtain ⟨_, _, rfl⟩ := found
      rfl

/-- A description is shown on a single line, in which all joinings of the same pieces are the same.
So an entry is treated in the same way whatever joins the pieces of its description, and none of
these joinings is replaced by another. -/
theorem line_breaks_make_no_difference :
    (∀ description : Option String,
      let shown := Text.singleLine (description.getD "")
      Text.singleLine shown = shown ∧ Text.IsUnbroken shown.toList) ∧
    (∀ joining : Text.Joining,
      Text.singleLine joining.text = String.ofList (List.intercalate [' '] joining.pieces)) ∧
    ∀ left right : Text.Joining, left.pieces = right.pieces →
      ∀ entry : Entry, entry.description = some left.text →
        let other := { entry with description := some right.text }
        ∀ (rules : List Rule) (context : Context),
          firstMatch rules context other = firstMatch rules context entry ∧
          (∀ rule : Rule, rule.diff context other = rule.diff context entry) ∧
          (changeOf? rules context other).map (·.map fun change => (change.rule, change.diff)) =
            (changeOf? rules context entry).map
              (·.map fun change => (change.rule, change.diff)) ∧
          ∀ rule : Rule, rule.description = some right.text →
            rule.diff context entry = { rule with description := none }.diff context entry ∧
            ∀ diff, rule.diff context entry = .ok diff → diff.description = none := by
  refine ⟨fun description => ⟨Text.singleLine_singleLine _, Text.isUnbroken_singleLine _⟩,
    Text.Joining.singleLine_text, ?_⟩
  intro left right same entry described other rules context
  have oneLine : Text.singleLine right.text = entry.shownDescription := by
    rw [Entry.shownDescription, described, Option.getD_some, left.singleLine_text,
      right.singleLine_text, same]
  have alike : other.DiffersLike entry := ⟨⟨oneLine, rfl, rfl⟩, rfl, rfl, rfl⟩
  refine ⟨alike.firstMatch rules context, fun rule => alike.diff rule context,
    alike.changeOf? rules context, ?_⟩
  intro rule replaces
  have undescribed := Rule.diff_of_shown replaces oneLine context
  refine ⟨undescribed, fun diff found => ?_⟩
  rw [undescribed] at found
  exact Rule.description_of_diff rfl found

/-! A description of three pieces, the second of them empty, and the rule that wants the same pieces
joined otherwise. The pattern is found where a break is shown as a space. -/

namespace SavingsPlan

def broken : Text.Joining where
  first := "Savings".toList
  others := [(.returnAndFeed, []), (.carriageReturn, "plan".toList)]
  unbroken := by decide
  apart := by decide

def spaced : Text.Joining where
  first := "Savings".toList
  others := [(.space, []), (.lineFeed, "plan".toList)]
  unbroken := by decide
  apart := by decide

def rule : Rule where
  matcher := ⟨" ", ⟨.character 0x20, { ignoreCase := true, multiLine := true, unicode := true }⟩,
    none, none, none⟩
  description := some spaced.text
  action := .transfer "Savings"
  position := 0

def context : Context := .ofItems [⟨"A2", "Savings", none⟩] [] []

def entry : Entry where
  id := "E1"
  description := some broken.text
  amount := .ofInt (-100)
  currency := ⟨"EUR", []⟩
  date := ⟨2024, 5, 2, by decide⟩
  account := "A1"
  category := none
  tags := none
  transaction := none
  unknown := []

def diff : EntryDiff := { account := some ⟨⟨none, none⟩, ⟨"A2", "Savings"⟩⟩ }

end SavingsPlan

theorem savingsPlan_line_breaks_make_no_difference :
    let other := { SavingsPlan.entry with description := some SavingsPlan.spaced.text }
    other.shownDescription = "Savings  plan" ∧
      firstMatch [SavingsPlan.rule] SavingsPlan.context other = .ok (some SavingsPlan.rule) ∧
      SavingsPlan.rule.diff SavingsPlan.context other = .ok SavingsPlan.diff ∧
      SavingsPlan.diff.description = none := by
  have same : SavingsPlan.broken.pieces = SavingsPlan.spaced.pieces := rfl
  have found : SavingsPlan.rule.diff SavingsPlan.context SavingsPlan.entry =
      .ok SavingsPlan.diff := rfl
  have first : firstMatch [SavingsPlan.rule] SavingsPlan.context SavingsPlan.entry =
      .ok (some SavingsPlan.rule) := rfl
  obtain ⟨-, shown, treated⟩ := line_breaks_make_no_difference
  obtain ⟨sameRule, sameDiff, -, undescribed⟩ :=
    treated SavingsPlan.broken SavingsPlan.spaced same SavingsPlan.entry rfl [SavingsPlan.rule]
      SavingsPlan.context
  exact ⟨shown SavingsPlan.spaced, sameRule.trans first, (sameDiff SavingsPlan.rule).trans found,
    (undescribed SavingsPlan.rule rfl).2 SavingsPlan.diff found⟩

end LedgerRules
