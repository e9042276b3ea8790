import LedgerRules.Proofs.Outcome
import LedgerRules.Rules.Run

/-!
The changes to a list of entries, entry by entry.
-/

namespace LedgerRules

theorem changeOf?_ok_some {rules : List Rule} {context : Context} {entry : Entry}
    {change : EntryChange} (found : changeOf? rules context entry = .ok (some change)) :
    change.entry = entry ∧ firstMatch rules context entry = .ok (some change.rule) ∧
      change.rule.diff context entry = .ok change.diff := by
  obtain ⟨rule?, selected, found⟩ := Except.bind_eq_ok.mp found
  cases rule? with
  | none => simp [Except.pure_eq_ok] at found
  | some rule =>
      obtain ⟨diff, diffed, found⟩ := Except.bind_eq_ok.mp found
      cases empty : diff.isEmpty with
      | true => simp [empty, Except.pure_eq_ok] at found
      | false =>
          simp only [empty, Bool.false_eq_true, if_false, Except.pure_eq_ok,
            Option.some.injEq] at found
          subst found
          exact ⟨rfl, selected, diffed⟩

theorem changes_cons_ok {rules : List Rule} {context : Context} {entry : Entry}
    {rest : List Entry} {planned : List EntryChange} :
    changes rules context (entry :: rest) = .ok planned ↔
      ∃ change? others, changeOf? rules context entry = .ok change? ∧
        changes rules context rest = .ok others ∧ planned = change?.toList ++ others := by
  simp only [changes, Except.bind_eq_ok, Except.pure_eq_ok]
  constructor
  · rintro ⟨change?, found, others, remaining, rfl⟩
    exact ⟨change?, others, found, remaining, rfl⟩
  · rintro ⟨change?, others, found, remaining, rfl⟩
    exact ⟨change?, found, others, remaining, rfl⟩

/-- The changes are known if each entry can be evaluated. -/
theorem isOk_changes (rules : List Rule) (context : Context) (entries : List Entry) :
    (changes rules context entries).isOk =
      entries.all fun entry => (changeOf? rules context entry).isOk := by
  induction entries with
  | nil => rfl
  | cons entry rest ih =>
      rw [List.all_cons, ← ih, changes]
      cases changeOf? rules context entry <;> cases changes rules context rest <;> rfl

theorem sublist_of_changes_ok {rules : List Rule} {context : Context} {entries : List Entry}
    {planned : List EntryChange} (done : changes rules context entries = .ok planned) :
    (planned.map EntryChange.entry).Sublist entries := by
  induction entries generalizing planned with
  | nil =>
      obtain rfl := Except.ok.inj done
      exact .slnil
  | cons first rest ih =>
      obtain ⟨change?, others, evaluated, remaining, rfl⟩ := changes_cons_ok.mp done
      cases change? with
      | none => exact (ih remaining).cons first
      | some change =>
          obtain ⟨rfl, _⟩ := changeOf?_ok_some evaluated
          exact (ih remaining).cons_cons change.entry

theorem evaluated_of_changes_ok {rules : List Rule} {context : Context} {entries : List Entry}
    {planned : List EntryChange} (done : changes rules context entries = .ok planned) :
    ∀ entry ∈ entries, ∃ change?, changeOf? rules context entry = .ok change? := by
  induction entries generalizing planned with
  | nil => simp
  | cons first rest ih =>
      obtain ⟨change?, others, evaluated, remaining, _⟩ := changes_cons_ok.mp done
      intro entry member
      rcases List.mem_cons.mp member with rfl | member
      · exact ⟨change?, evaluated⟩
      · exact ih remaining entry member

theorem changed_of_mem {rules : List Rule} {context : Context} {entries : List Entry}
    {planned : List EntryChange} (done : changes rules context entries = .ok planned) :
    ∀ change ∈ planned, change.entry ∈ entries ∧
      changeOf? rules context change.entry = .ok (some change) := by
  induction entries generalizing planned with
  | nil =>
      obtain rfl := Except.ok.inj done
      simp
  | cons first rest ih =>
      obtain ⟨change?, others, evaluated, remaining, rfl⟩ := changes_cons_ok.mp done
      intro change member
      rcases List.mem_append.mp member with own | later
      · obtain rfl : change? = some change := by simpa using own
        obtain ⟨rfl, _⟩ := changeOf?_ok_some evaluated
        exact ⟨List.mem_cons_self, evaluated⟩
      · obtain ⟨listed, found⟩ := ih remaining change later
        exact ⟨List.mem_cons_of_mem first listed, found⟩

theorem changes_eq_nil {rules : List Rule} {context : Context} {entries : List Entry}
    (content : ∀ entry ∈ entries, changeOf? rules context entry = .ok none) :
    changes rules context entries = .ok [] := by
  induction entries with
  | nil => rfl
  | cons first rest ih =>
      rw [List.forall_mem_cons] at content
      exact changes_cons_ok.mpr ⟨none, [], content.1, ih content.2, rfl⟩

end LedgerRules
