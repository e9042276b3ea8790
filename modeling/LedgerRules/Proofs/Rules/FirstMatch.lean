import Mathlib.Data.List.Forall2
import Mathlib.Data.List.ReduceOption
import LedgerRules.Proofs.Ledger.Naming
import LedgerRules.Proofs.Rules.Reapply

/-!
Which rule decides about an entry. A rule accepts an entry, rejects it, or fails on it because its
account name does not stand for exactly one account; the account is looked up only where pattern and
kind have let the entry pass. The first rule that does not reject an entry decides about it, and the
rules after one that accepts it do not matter at all.
-/

namespace LedgerRules

def Context.accountsNamed (context : Context) (name : String) : List Reference :=
  context.accounts.items.filter fun item => item.name == name

namespace Matcher

/-- The clauses that come before the account: only past them its name is looked up. -/
structure Reaches (matcher : Matcher) (entry : Entry) : Prop where
  found : matcher.pattern.isFoundIn (Text.singleLine (entry.description.getD "")) = true
  kind : ∀ kind ∈ matcher.kind, (kind = .expense ↔ entry.amount.isNegative = true)

structure Accepts (matcher : Matcher) (context : Context) (entry : Entry) : Prop
    extends matcher.Reaches entry where
  account : ∀ name ∈ matcher.account,
    ∃ account, context.accountsNamed name = [account] ∧ account.id = entry.account
  amount : ∀ filter ∈ matcher.amount,
    filter.comparator.holds entry.amount.absolute filter.magnitude = true

structure Raises (matcher : Matcher) (context : Context) (entry : Entry) (error : ReferenceError) :
    Prop extends matcher.Reaches entry where
  account : ∃ name ∈ matcher.account, (context.accountsNamed name).length ≠ 1 ∧
    error = ⟨.account, name, none,
      if context.accountsNamed name = [] then .notFound else .ambiguous⟩

def Rejects (matcher : Matcher) (context : Context) (entry : Entry) : Prop :=
  ¬ matcher.Accepts context entry ∧ ∀ error, ¬ matcher.Raises context entry error

end Matcher

section Verdict

variable {context : Context}

theorem itemsNamed_account (labelled : context.accounts.label = .account) (name : String) :
    context.accounts.itemsNamed name none = context.accountsNamed name := by
  rw [Catalog.itemsNamed, Context.accountsNamed]
  apply List.filter_congr
  intro item _
  simp [labelled, CatalogLabel.isKeyedByKind, beq_eq_decide]

theorem resolve_account_ok_iff (labelled : context.accounts.label = .account) {name id : String} :
    context.accounts.resolve name none = .ok id ↔
      ∃ account, context.accountsNamed name = [account] ∧ account.id = id := by
  rw [Catalog.resolve_eq_ok_iff, Catalog.StandsFor, itemsNamed_account labelled]

theorem resolve_account_error_iff (labelled : context.accounts.label = .account) {name : String}
    {error : ReferenceError} :
    context.accounts.resolve name none = .error error ↔
      (context.accountsNamed name).length ≠ 1 ∧ error = ⟨.account, name, none,
        if context.accountsNamed name = [] then .notFound else .ambiguous⟩ := by
  have keyless : context.accounts.resolutionError name none = ⟨.account, name, none,
      if context.accountsNamed name = [] then .notFound else .ambiguous⟩ := by
    simp [Catalog.resolutionError, labelled, itemsNamed_account labelled]
  rw [Catalog.resolve_eq_error_iff, keyless]
  simp only [Catalog.StandsFor, itemsNamed_account labelled]
  cases context.accountsNamed name with
  | nil => simp
  | cons account rest => cases rest <;> simp

variable {matcher : Matcher} {entry : Entry}

theorem reaches_iff : matcher.Reaches entry ↔
    matcher.pattern.isFoundIn entry.shownDescription = true ∧
      matcher.kind.all (· == entry.kind) = true := by
  have agrees (kind : EntryKind) :
      kind = entry.kind ↔ (kind = .expense ↔ entry.amount.isNegative = true) := by
    cases kind <;> cases negative : entry.amount.isNegative <;> simp [Entry.kind, negative]
  have kinds : matcher.kind.all (· == entry.kind) = true ↔
      ∀ kind ∈ matcher.kind, (kind = .expense ↔ entry.amount.isNegative = true) := by
    simp only [← agrees]
    cases matcher.kind <;> simp
  rw [kinds]
  constructor
  · intro reaches
    exact ⟨reaches.found, reaches.kind⟩
  · rintro ⟨found, kind⟩
    exact ⟨found, kind⟩

theorem accepts_of_not_reaches (missed : ¬ matcher.Reaches entry) :
    matcher.accepts context entry = .ok false := by
  rw [reaches_iff, not_and_or] at missed
  rcases missed with unfound | other
  · simp [Matcher.accepts, unfound, pure, Except.pure]
  · cases found : matcher.pattern.isFoundIn entry.shownDescription <;>
      simp [Matcher.accepts, found, other, pure, Except.pure]

theorem accepts_of_reaches (reaches : matcher.Reaches entry) :
    matcher.accepts context entry =
      match matcher.account with
      | none => .ok (matcher.amount.all (·.accepts entry.amount))
      | some name =>
          (context.accounts.resolve name none).map fun id =>
            decide (id = entry.account) && matcher.amount.all (·.accepts entry.amount) := by
  obtain ⟨found, kind⟩ := reaches_iff.mp reaches
  simp only [Matcher.accepts, found, kind, Bool.not_true, Bool.false_eq_true, if_false]
  cases matcher.account with
  | none => rfl
  | some name =>
      dsimp only
      cases context.accounts.resolve name none with
      | error error => rfl
      | ok id =>
          by_cases same : id = entry.account <;>
            simp [same, bind, Except.bind, pure, Except.pure, Except.map]

theorem accepts_iff (labelled : context.accounts.label = .account) :
    matcher.accepts context entry = .ok true ↔ matcher.Accepts context entry := by
  have amounts : matcher.amount.all (·.accepts entry.amount) = true ↔
      ∀ filter ∈ matcher.amount,
        filter.comparator.holds entry.amount.absolute filter.magnitude = true := by
    cases matcher.amount <;> simp [AmountFilter.accepts]
  by_cases reaches : matcher.Reaches entry
  · have clauses : matcher.Accepts context entry ↔
        (∀ name ∈ matcher.account, context.accounts.resolve name none = .ok entry.account) ∧
          matcher.amount.all (·.accepts entry.amount) = true := by
      simp only [resolve_account_ok_iff labelled, amounts]
      exact ⟨fun accepts => ⟨accepts.account, accepts.amount⟩,
        fun ⟨account, amount⟩ => ⟨reaches, account, amount⟩⟩
    rw [accepts_of_reaches reaches, clauses]
    cases matcher.account with
    | none => simp
    | some name =>
        simp only [Option.mem_some_iff, forall_eq']
        cases context.accounts.resolve name none <;> simp [Except.map]
  · rw [accepts_of_not_reaches reaches]
    simp only [Except.ok.injEq, Bool.false_eq_true, false_iff]
    exact fun accepts => reaches accepts.toReaches

theorem raises_iff (labelled : context.accounts.label = .account) {error : ReferenceError} :
    matcher.accepts context entry = .error error ↔ matcher.Raises context entry error := by
  by_cases reaches : matcher.Reaches entry
  · have clauses : matcher.Raises context entry error ↔
        ∃ name ∈ matcher.account, context.accounts.resolve name none = .error error := by
      simp only [resolve_account_error_iff labelled]
      exact ⟨fun raises => raises.account, fun account => ⟨reaches, account⟩⟩
    rw [accepts_of_reaches reaches, clauses]
    cases matcher.account with
    | none => simp
    | some name =>
        simp only [Option.mem_some_iff, exists_eq_left']
        cases context.accounts.resolve name none <;> simp [Except.map]
  · rw [accepts_of_not_reaches reaches]
    simp only [reduceCtorEq, false_iff]
    exact fun raises => reaches raises.toReaches

theorem rejects_iff (labelled : context.accounts.label = .account) :
    matcher.accepts context entry = .ok false ↔ matcher.Rejects context entry := by
  simp only [Matcher.Rejects, ← accepts_iff labelled, ← raises_iff labelled]
  cases matcher.accepts context entry with
  | error error => simp
  | ok accepted => cases accepted <;> simp

end Verdict

/-- All rules before this one reject the entry. -/
def Reached (rules : List Rule) (context : Context) (entry : Entry) (rule : Rule) : Prop :=
  ∃ before after, rules = before ++ rule :: after ∧
    ∀ earlier ∈ before, earlier.matcher.Rejects context entry

/-- What becomes of an entry: the first rule that does not reject it decides. -/
inductive Decided (rules : List Rule) (context : Context) (entry : Entry) :
    Except ReferenceError (Option EntryChange) → Prop where
  | unmatched (rejected : ∀ rule ∈ rules, rule.matcher.Rejects context entry) :
      Decided rules context entry (.ok none)
  | raised {rule : Rule} {error : ReferenceError} (reached : Reached rules context entry rule)
      (raises : rule.matcher.Raises context entry error) :
      Decided rules context entry (.error error)
  | unresolved {rule : Rule} {error : ReferenceError} (reached : Reached rules context entry rule)
      (accepts : rule.matcher.Accepts context entry)
      (failed : rule.diff context entry = .error error) :
      Decided rules context entry (.error error)
  | compliant {rule : Rule} (reached : Reached rules context entry rule)
      (accepts : rule.matcher.Accepts context entry)
      (nothing : rule.diff context entry = .ok {}) : Decided rules context entry (.ok none)
  | changed {rule : Rule} {diff : EntryDiff} (reached : Reached rules context entry rule)
      (accepts : rule.matcher.Accepts context entry)
      (found : rule.diff context entry = .ok diff) (filled : diff ≠ {}) :
      Decided rules context entry (.ok (some ⟨entry, rule, diff⟩))

section Decided

variable {context : Context} {entry : Entry} {rules : List Rule} {rule : Rule}

theorem firstMatch_append (labelled : context.accounts.label = .account) {before : List Rule}
    (rejected : ∀ rule ∈ before, rule.matcher.Rejects context entry) (rest : List Rule) :
    firstMatch (before ++ rest) context entry = firstMatch rest context entry := by
  induction before with
  | nil => rfl
  | cons rule before ih =>
      rw [List.forall_mem_cons] at rejected
      rw [List.cons_append, firstMatch, (rejects_iff labelled).mpr rejected.1]
      exact ih rejected.2

theorem firstMatch_cons_of_accepts (labelled : context.accounts.label = .account)
    (accepts : rule.matcher.Accepts context entry) (rest : List Rule) :
    firstMatch (rule :: rest) context entry = .ok (some rule) := by
  rw [firstMatch, (accepts_iff labelled).mpr accepts]
  rfl

namespace Reached

theorem firstMatch_of_accepts (reached : Reached rules context entry rule)
    (labelled : context.accounts.label = .account)
    (accepts : rule.matcher.Accepts context entry) :
    firstMatch rules context entry = .ok (some rule) := by
  obtain ⟨before, after, rfl, rejected⟩ := reached
  rw [firstMatch_append labelled rejected, firstMatch_cons_of_accepts labelled accepts]

theorem firstMatch_of_raises (reached : Reached rules context entry rule)
    (labelled : context.accounts.label = .account) {error : ReferenceError}
    (raises : rule.matcher.Raises context entry error) :
    firstMatch rules context entry = .error error := by
  obtain ⟨before, after, rfl, rejected⟩ := reached
  rw [firstMatch_append labelled rejected, firstMatch, (raises_iff labelled).mpr raises]
  rfl

theorem self (rest : List Rule) : Reached (rule :: rest) context entry rule :=
  ⟨[], rest, rfl, by simp⟩

theorem cons (reached : Reached rules context entry rule) {first : Rule}
    (rejected : first.matcher.Rejects context entry) :
    Reached (first :: rules) context entry rule := by
  obtain ⟨before, after, rfl, others⟩ := reached
  exact ⟨first :: before, after, rfl, List.forall_mem_cons.mpr ⟨rejected, others⟩⟩

end Reached

/-- The rules end, or one of them is the first that does not reject the entry. -/
theorem rejects_or_reached (labelled : context.accounts.label = .account) (rules : List Rule) :
    (∀ rule ∈ rules, rule.matcher.Rejects context entry) ∨
      ∃ rule, Reached rules context entry rule ∧
        (rule.matcher.Accepts context entry ∨
          ∃ error, rule.matcher.Raises context entry error) := by
  induction rules with
  | nil => simp
  | cons rule rest ih =>
      cases verdict : rule.matcher.accepts context entry with
      | error error => exact .inr ⟨rule, .self rest, .inr ⟨error, (raises_iff labelled).mp verdict⟩⟩
      | ok accepted =>
          cases accepted with
          | true => exact .inr ⟨rule, .self rest, .inl ((accepts_iff labelled).mp verdict)⟩
          | false =>
              have own := (rejects_iff labelled).mp verdict
              rcases ih with all | ⟨first, reached, decides⟩
              · exact .inl (List.forall_mem_cons.mpr ⟨own, all⟩)
              · exact .inr ⟨first, reached.cons own, decides⟩

theorem changeOf?_of_decided (labelled : context.accounts.label = .account)
    {result : Except ReferenceError (Option EntryChange)}
    (decided : Decided rules context entry result) : changeOf? rules context entry = result := by
  cases decided with
  | unmatched rejected =>
      have unmatched := firstMatch_append labelled rejected []
      rw [List.append_nil] at unmatched
      rw [changeOf?, unmatched]
      rfl
  | raised reached raises =>
      rw [changeOf?, reached.firstMatch_of_raises labelled raises]
      rfl
  | unresolved reached accepts failed =>
      rw [changeOf?, reached.firstMatch_of_accepts labelled accepts]
      simp [failed, bind, Except.bind]
  | compliant reached accepts nothing =>
      rw [changeOf?, reached.firstMatch_of_accepts labelled accepts]
      simp [nothing, bind, Except.bind, EntryDiff.isEmpty, pure, Except.pure]
  | changed reached accepts found filled =>
      rw [changeOf?, reached.firstMatch_of_accepts labelled accepts]
      have full := mt EntryDiff.eq_empty_of_isEmpty filled
      simp [found, full, bind, Except.bind, pure, Except.pure]

theorem decided_changeOf? (labelled : context.accounts.label = .account) (rules : List Rule) :
    Decided rules context entry (changeOf? rules context entry) := by
  suffices decided : ∃ result, Decided rules context entry result by
    obtain ⟨result, decided⟩ := decided
    exact changeOf?_of_decided labelled decided ▸ decided
  rcases rejects_or_reached labelled rules with
    all | ⟨rule, reached, accepts | ⟨error, raises⟩⟩
  · exact ⟨_, .unmatched all⟩
  · cases diffed : rule.diff context entry with
    | error error => exact ⟨_, .unresolved reached accepts diffed⟩
    | ok diff =>
        by_cases filled : diff = {}
        · exact ⟨_, .compliant reached accepts (filled ▸ diffed)⟩
        · exact ⟨_, .changed reached accepts diffed filled⟩
  · exact ⟨_, .raised reached raises⟩

theorem changeOf?_eq_iff (labelled : context.accounts.label = .account)
    {result : Except ReferenceError (Option EntryChange)} :
    changeOf? rules context entry = result ↔ Decided rules context entry result :=
  ⟨fun same => same ▸ decided_changeOf? labelled rules, changeOf?_of_decided labelled⟩

/-- Past a rule that accepts the entry no rule is tried, whatever comes before it. -/
theorem firstMatch_ignores_later (labelled : context.accounts.label = .account)
    (accepts : rule.matcher.Accepts context entry) (before after other : List Rule) :
    firstMatch (before ++ rule :: after) context entry =
      firstMatch (before ++ rule :: other) context entry := by
  induction before with
  | nil =>
      exact (firstMatch_cons_of_accepts labelled accepts after).trans
        (firstMatch_cons_of_accepts labelled accepts other).symm
  | cons first before ih => simp only [List.cons_append, firstMatch, ih]

end Decided

section Run

variable {rules : List Rule} {context : Context} {entries : List Entry}

theorem changes_eq : changes rules context entries =
    (entries.mapM (changeOf? rules context)).map List.reduceOption := by
  induction entries with
  | nil => rfl
  | cons entry rest ih =>
      rw [changes, ih, List.mapM_cons]
      cases changeOf? rules context entry with
      | error error => rfl
      | ok outcome =>
          cases rest.mapM (changeOf? rules context) with
          | error error => rfl
          | ok others => cases outcome <;> rfl

theorem changes_ok_iff {planned : List EntryChange} :
    changes rules context entries = .ok planned ↔
      ∃ outcomes : List (Option EntryChange),
        List.Forall₂ (fun entry outcome => changeOf? rules context entry = .ok outcome)
          entries outcomes ∧ planned = outcomes.reduceOption := by
  rw [changes_eq, Except.map_eq_ok]
  simp only [Except.mapM_eq_ok, eq_comm (a := planned)]

theorem changes_error_iff {error : ReferenceError} :
    changes rules context entries = .error error ↔
      ∃ done entry rest, entries = done ++ entry :: rest ∧
        (∀ earlier ∈ done, ∃ outcome, changeOf? rules context earlier = .ok outcome) ∧
        changeOf? rules context entry = .error error := by
  rw [changes_eq, Except.map_eq_error, Except.mapM_eq_error]

end Run

/-- Each entry is decided by the first rule that does not reject it. A run returns the changes of
the entries in their order, or the error of the first entry that has one; the rules after a rule
that accepts an entry do not matter to it. -/
theorem first_match_decides (rules : List Rule) (accounts categories tags : List Reference) :
    let context := Context.ofItems accounts categories tags
    (∀ (matcher : Matcher) (entry : Entry),
        (matcher.accepts context entry = .ok true ↔ matcher.Accepts context entry) ∧
        (∀ error, matcher.accepts context entry = .error error ↔
          matcher.Raises context entry error) ∧
        (matcher.accepts context entry = .ok false ↔ matcher.Rejects context entry)) ∧
      (∀ entry result, changeOf? rules context entry = result ↔
        Decided rules context entry result) ∧
      (∀ entries planned, changes rules context entries = .ok planned ↔
        ∃ outcomes : List (Option EntryChange),
          List.Forall₂ (fun entry outcome => Decided rules context entry (.ok outcome))
            entries outcomes ∧ planned = outcomes.reduceOption) ∧
      (∀ entries error, changes rules context entries = .error error ↔
        ∃ done entry rest, entries = done ++ entry :: rest ∧
          (∀ earlier ∈ done, ∃ outcome, Decided rules context earlier (.ok outcome)) ∧
          Decided rules context entry (.error error)) ∧
      ∀ (before after other : List Rule) (rule : Rule) (entry : Entry),
        rule.matcher.Accepts context entry →
        changeOf? (before ++ rule :: after) context entry =
          changeOf? (before ++ rule :: other) context entry := by
  intro context
  have labelled : context.accounts.label = .account := rfl
  refine ⟨fun matcher entry =>
    ⟨accepts_iff labelled, fun _ => raises_iff labelled, rejects_iff labelled⟩,
    fun entry result => changeOf?_eq_iff labelled, ?_, ?_, ?_⟩
  · intro entries planned
    simp only [← changeOf?_eq_iff labelled]
    exact changes_ok_iff
  · intro entries error
    simp only [← changeOf?_eq_iff labelled]
    exact changes_error_iff
  · intro before after other rule entry accepts
    rw [changeOf?, firstMatch_ignores_later labelled accepts before after other, changeOf?]

end LedgerRules
