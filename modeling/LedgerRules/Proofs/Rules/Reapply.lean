import LedgerRules.Proofs.Rules.Appearance
import LedgerRules.Proofs.Rules.Changes
import LedgerRules.Proofs.Rules.Independence

/-!
A change that has been made is not made again: as long as the same rule accepts the changed entry,
every field that it decides about is as the rule wants it. A rule that replaces the description may
hide the entry from itself; then it is for the other rules whether there is more to change.
-/

namespace LedgerRules

structure Entry.LooksLike (left right : Entry) : Prop where
  description : left.description = right.description
  amount : left.amount = right.amount
  account : left.account = right.account

theorem Entry.LooksLike.trans {left middle right : Entry} (first : left.LooksLike middle)
    (second : middle.LooksLike right) : left.LooksLike right :=
  ⟨first.description.trans second.description, first.amount.trans second.amount,
    first.account.trans second.account⟩

theorem Entry.LooksLike.appearsLike {left right : Entry} (alike : left.LooksLike right) :
    left.AppearsLike right where
  shown := by rw [Entry.shownDescription, Entry.shownDescription, alike.description]
  amount := alike.amount
  account := alike.account

theorem Entry.LooksLike.firstMatch {left right : Entry} (alike : left.LooksLike right)
    (rules : List Rule) (context : Context) :
    firstMatch rules context left = firstMatch rules context right :=
  alike.appearsLike.firstMatch rules context

structure Entry.EvaluatesLike (left right : Entry) : Prop extends left.LooksLike right where
  category : left.category = right.category
  tags : left.tags = right.tags
  linked : left.transaction.bind (·.account) = right.transaction.bind (·.account)

/-- A rule sees nothing of an entry but what is compared here. -/
theorem Entry.EvaluatesLike.diff {left right : Entry} (alike : left.EvaluatesLike right)
    (rule : Rule) (context : Context) : rule.diff context left = rule.diff context right :=
  Entry.DiffersLike.diff ⟨alike.appearsLike, alike.category, alike.tags, alike.linked⟩ rule context

theorem EntryDiff.apply_looksLike {diff : EntryDiff} {entry : Entry}
    (undescribed : diff.description = none) : (diff.apply entry).LooksLike entry where
  description := by rw [EntryDiff.description_apply, undescribed]; rfl
  amount := EntryDiff.amount_apply diff entry
  account := EntryDiff.account_apply diff entry

theorem EntryDiff.eq_empty_of_isEmpty {diff : EntryDiff} (empty : diff.isEmpty = true) :
    diff = {} := by
  obtain ⟨description, category, tags, account⟩ := diff
  simp_all [EntryDiff.isEmpty]

/-- The first rule that accepts the changed entry wants nothing more of it, if there is one. The
rule that has changed it never does. -/
def EntryChange.IsSettled (rules : List Rule) (context : Context) (change : EntryChange) : Prop :=
  ∃ rule?, firstMatch rules context change.result = .ok rule? ∧
    ∀ rule ∈ rule?, rule = change.rule ∨ rule.diff context change.result = .ok {}

section Again

variable {rules : List Rule} {context : Context} {entry again : Entry} {change : EntryChange}

theorem changeOf?_eq_none_iff : changeOf? rules context entry = .ok none ↔
    ∃ rule?, firstMatch rules context entry = .ok rule? ∧
      ∀ rule ∈ rule?, rule.diff context entry = .ok {} := by
  constructor
  · intro nothing
    obtain ⟨rule?, selected, nothing⟩ := Except.bind_eq_ok.mp nothing
    refine ⟨rule?, selected, ?_⟩
    rintro rule rfl
    obtain ⟨diff, diffed, nothing⟩ := Except.bind_eq_ok.mp nothing
    cases empty : diff.isEmpty with
    | true => rw [diffed, EntryDiff.eq_empty_of_isEmpty empty]
    | false => simp [empty, Except.pure_eq_ok] at nothing
  · rintro ⟨rule?, selected, content⟩
    refine Except.bind_eq_ok.mpr ⟨rule?, selected, ?_⟩
    cases rule? with
    | none => rfl
    | some rule => exact Except.bind_eq_ok.mpr ⟨{}, content rule rfl, rfl⟩

theorem isSettled_of_content (nothing : changeOf? rules context change.result = .ok none) :
    change.IsSettled rules context := by
  obtain ⟨rule?, selected, content⟩ := changeOf?_eq_none_iff.mp nothing
  exact ⟨rule?, selected, fun rule first => .inr (content rule first)⟩

theorem isSettled_of_undescribed (found : changeOf? rules context entry = .ok (some change))
    (undescribed : change.diff.description = none) : change.IsSettled rules context := by
  obtain ⟨rfl, selected, _⟩ := changeOf?_ok_some found
  have alike : change.result.LooksLike change.entry := EntryDiff.apply_looksLike undescribed
  refine ⟨some change.rule, (alike.firstMatch rules context).trans selected, ?_⟩
  exact fun rule own => .inl (Option.some.inj own).symm

theorem changeOf?_settled (found : changeOf? rules context entry = .ok (some change))
    (settled : change.IsSettled rules context) (made : again.EvaluatesLike change.result) :
    changeOf? rules context again = .ok none := by
  obtain ⟨rfl, _, diffed⟩ := changeOf?_ok_some found
  obtain ⟨rule?, selected, content⟩ := settled
  refine changeOf?_eq_none_iff.mpr ⟨rule?, (made.firstMatch rules context).trans selected, ?_⟩
  intro rule first
  rw [made.diff]
  rcases content rule first with rfl | empty
  · exact Rule.diff_made diffed
  · exact empty

/-- Only another rule wants more, and only after a change of the description. -/
theorem changed_again (found : changeOf? rules context entry = .ok (some change))
    (made : again.EvaluatesLike change.result) {next : EntryChange}
    (more : changeOf? rules context again = .ok (some next)) :
    change.diff.description ≠ none ∧ next.rule ≠ change.rule := by
  have unsettled : ¬ change.IsSettled rules context := by
    intro settled
    rw [changeOf?_settled found settled made] at more
    exact Option.some_ne_none next (Except.ok.inj more).symm
  constructor
  · exact fun undescribed => unsettled (isSettled_of_undescribed found undescribed)
  · intro same
    obtain ⟨_, selected, _⟩ := changeOf?_ok_some more
    rw [made.firstMatch, same] at selected
    exact unsettled ⟨_, selected, fun rule own => .inl (Option.some.inj own).symm⟩

end Again

end LedgerRules
