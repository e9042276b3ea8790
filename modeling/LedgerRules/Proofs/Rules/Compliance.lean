import LedgerRules.Proofs.Ledger.Naming
import LedgerRules.Rules.Diff

/-!
What a rule finds in an entry that is not as the rule wants it. All names that the rule gives are
looked up first, in a fixed order, and the first one that cannot be resolved is the error; otherwise
exactly the fields that differ are in the difference.
-/

namespace LedgerRules

/-- A name that is looked up in a catalog. -/
structure Lookup where
  catalog : Catalog
  name : String
  kind : Option String

namespace Lookup

def resolve (lookup : Lookup) : Except ReferenceError String :=
  lookup.catalog.resolve lookup.name lookup.kind

def StandsFor (lookup : Lookup) (id : String) : Prop :=
  lookup.catalog.StandsFor lookup.name lookup.kind id

def error (lookup : Lookup) : ReferenceError :=
  lookup.catalog.resolutionError lookup.name lookup.kind

/-- The error of the first name that stands for no item or for several. -/
def FirstFails (lookups : List Lookup) (error : ReferenceError) : Prop :=
  ∃ before lookup after, lookups = before ++ lookup :: after ∧
    (∀ earlier ∈ before, ∃ id, earlier.StandsFor id) ∧ (∀ id, ¬lookup.StandsFor id) ∧
    error = lookup.error

theorem resolve_eq_ok_iff {lookup : Lookup} {id : String} :
    lookup.resolve = .ok id ↔ lookup.StandsFor id :=
  Catalog.resolve_eq_ok_iff

theorem mapM_resolve_eq_error_iff {lookups : List Lookup} {error : ReferenceError} :
    lookups.mapM resolve = .error error ↔ FirstFails lookups error := by
  simp only [Except.mapM_eq_error, resolve, Catalog.resolve_eq_ok_iff, Catalog.resolve_eq_error_iff]
  rfl

theorem mapM_resolve_eq_ok_iff {lookups : List Lookup} {ids : List String} :
    lookups.mapM resolve = .ok ids ↔ List.Forall₂ StandsFor lookups ids := by
  simp only [Except.mapM_eq_ok, resolve, Catalog.resolve_eq_ok_iff]
  rfl

end Lookup

namespace Entry

def categoryLookup (entry : Entry) (context : Context) (name : String) : Lookup :=
  ⟨context.categories, name, some entry.kind.text⟩

def tagLookup (entry : Entry) (context : Context) (name : String) : Lookup :=
  ⟨context.tags, name, some entry.kind.text⟩

end Entry

def Context.accountLookup (context : Context) (name : String) : Lookup :=
  ⟨context.accounts, name, none⟩

/-- The names that a rule gives, in the order in which they are looked up. -/
def Rule.lookups (rule : Rule) (context : Context) (entry : Entry) : List Lookup :=
  match rule.action with
  | .classify category tags =>
      category.toList.map (entry.categoryLookup context) ++
        (tags.getD []).map (entry.tagLookup context)
  | .transfer account => [context.accountLookup account]

/-- A difference holds a change of a field if and only if the rule wants the field otherwise. The
old side is what the entry has, under the names that the catalog shows for it; the new side is what
the names of the rule stand for. -/
structure EntryDiff.IsExact (diff : EntryDiff) (rule : Rule) (context : Context) (entry : Entry) :
    Prop where
  description : ∀ change, diff.description = some change ↔
    ∃ text, rule.description = some text ∧
      Text.singleLine text ≠ Text.singleLine (entry.description.getD "") ∧
      change = ⟨Text.singleLine (entry.description.getD ""), text⟩
  category : ∀ change, diff.category = some change ↔
    ∃ name tags id shown, rule.action = .classify (some name) tags ∧
      (entry.categoryLookup context name).StandsFor id ∧ entry.category ≠ some id ∧
      Option.Rel context.categories.Shows entry.category shown ∧
      change = ⟨⟨entry.category, shown⟩, ⟨id, name⟩⟩
  tags : ∀ change, diff.tags = some change ↔
    ∃ category names ids shown, rule.action = .classify category (some names) ∧
      List.Forall₂ Lookup.StandsFor (names.map (entry.tagLookup context)) ids ∧
      {id | id ∈ ids} ≠ {id | id ∈ entry.tags.getD []} ∧
      List.Forall₂ context.tags.Shows (entry.tags.getD []) shown ∧
      change = ⟨⟨entry.tags.getD [], shown⟩, ⟨ids, names⟩⟩
  account : ∀ change, diff.account = some change ↔
    ∃ name id shown, rule.action = .transfer name ∧
      (context.accountLookup name).StandsFor id ∧
      entry.transaction.bind (·.account) ≠ some id ∧ entry.account ≠ id ∧
      Option.Rel context.accounts.Shows (entry.transaction.bind (·.account)) shown ∧
      change = ⟨⟨entry.transaction.bind (·.account), shown⟩, ⟨id, name⟩⟩

theorem EntryDiff.IsExact.unique {diff other : EntryDiff} {rule : Rule} {context : Context}
    {entry : Entry} (first : diff.IsExact rule context entry)
    (second : other.IsExact rule context entry) : diff = other := by
  obtain ⟨description, category, tags, account⟩ := diff
  obtain ⟨descriptionToo, categoryToo, tagsToo, accountToo⟩ := other
  congr 1
  · exact Option.ext fun change => (first.description change).trans (second.description change).symm
  · exact Option.ext fun change => (first.category change).trans (second.category change).symm
  · exact Option.ext fun change => (first.tags change).trans (second.tags change).symm
  · exact Option.ext fun change => (first.account change).trans (second.account change).symm

/-! One field at a time. -/

section Fields

variable {context : Context} {entry : Entry}

theorem descriptionChange_eq_some_iff {replacement : Option String}
    {change : Change String String} :
    descriptionChange replacement entry = some change ↔
      ∃ text, replacement = some text ∧
        Text.singleLine text ≠ Text.singleLine (entry.description.getD "") ∧
        change = ⟨Text.singleLine (entry.description.getD ""), text⟩ := by
  cases replacement with
  | none => simp [descriptionChange]
  | some text =>
      by_cases same : Text.singleLine text = Text.singleLine (entry.description.getD "")
      · simp [descriptionChange, Entry.shownDescription, same]
      · simp [descriptionChange, Entry.shownDescription, same, eq_comm]

theorem categoryChange_eq (name : String) :
    categoryChange (some name) context entry =
      (entry.categoryLookup context name).resolve.map fun id =>
        if entry.category = some id then none
        else some ⟨oldSide context.categories entry.category, ⟨id, name⟩⟩ := by
  simp only [categoryChange, Entry.categoryLookup, Lookup.resolve]
  cases context.categories.resolve name (some entry.kind.text) with
  | error error => rfl
  | ok id =>
      by_cases same : entry.category = some id
      · simp [same, bind, Except.bind, pure, Except.pure, Except.map]
      · simp [same, bind, Except.bind, pure, Except.pure, Except.map]

theorem tagsChange_eq (names : List String) :
    tagsChange (some names) context entry =
      ((names.map (entry.tagLookup context)).mapM Lookup.resolve).map fun ids =>
        if haveSameMembers ids (entry.tags.getD []) then none
        else some ⟨⟨entry.tags.getD [], (entry.tags.getD []).map context.tags.nameOf⟩,
          ⟨ids, names⟩⟩ := by
  have each : Lookup.resolve ∘ entry.tagLookup context =
      fun name => context.tags.resolve name (some entry.kind.text) := rfl
  simp only [tagsChange, List.mapM_map, each]
  cases names.mapM fun name => context.tags.resolve name (some entry.kind.text) with
  | error error => rfl
  | ok ids =>
      by_cases same : haveSameMembers ids (entry.tags.getD []) = true
      · simp [same, bind, Except.bind, pure, Except.pure, Except.map]
      · simp [same, bind, Except.bind, pure, Except.pure, Except.map]

theorem accountChange_eq (name : String) :
    accountChange name context entry =
      (context.accountLookup name).resolve.map fun id =>
        if entry.transaction.bind (·.account) = some id ∨ entry.account = id then none
        else some ⟨oldSide context.accounts (entry.transaction.bind (·.account)), ⟨id, name⟩⟩ := by
  simp only [accountChange, Context.accountLookup, Lookup.resolve]
  cases context.accounts.resolve name none with
  | error error => rfl
  | ok id =>
      by_cases same : entry.transaction.bind (·.account) = some id ∨ entry.account = id
      · simp [same, bind, Except.bind, pure, Except.pure, Except.map]
      · simp [same, bind, Except.bind, pure, Except.pure, Except.map]

theorem categoryChange_eq_error_iff {category : Option String} {error : ReferenceError} :
    categoryChange category context entry = .error error ↔
      Lookup.FirstFails (category.toList.map (entry.categoryLookup context)) error := by
  rw [← Lookup.mapM_resolve_eq_error_iff]
  cases category with
  | none => simp [categoryChange, pure, Except.pure]
  | some name =>
      rw [categoryChange_eq, Except.map_eq_error]
      simp [Except.bind_eq_error, pure, Except.pure]

theorem tagsChange_eq_error_iff {tags : Option (List String)} {error : ReferenceError} :
    tagsChange tags context entry = .error error ↔
      Lookup.FirstFails ((tags.getD []).map (entry.tagLookup context)) error := by
  rw [← Lookup.mapM_resolve_eq_error_iff]
  cases tags with
  | none => simp [tagsChange, pure, Except.pure]
  | some names => rw [tagsChange_eq, Except.map_eq_error, Option.getD_some]

theorem accountChange_eq_error_iff {name : String} {error : ReferenceError} :
    accountChange name context entry = .error error ↔
      Lookup.FirstFails [context.accountLookup name] error := by
  rw [← Lookup.mapM_resolve_eq_error_iff, accountChange_eq, Except.map_eq_error]
  simp [Except.bind_eq_error, pure, Except.pure]

theorem oldSide_eq_iff {catalog : Catalog} {id : Option String} {side : Side (Option String)} :
    oldSide catalog id = side ↔
      ∃ shown, Option.Rel catalog.Shows id shown ∧ ⟨id, shown⟩ = side := by
  have shows (shown : Option String) :
      Option.Rel catalog.Shows id shown ↔ id.map catalog.nameOf = shown := by
    cases id <;> cases shown <;> simp [Catalog.nameOf_eq_iff]
  simp [shows, oldSide]

theorem categoryChange_eq_some_iff {category : Option String} {found : Option ReferenceChange}
    (ok : categoryChange category context entry = .ok found) {change : ReferenceChange} :
    found = some change ↔
      ∃ name id shown, category = some name ∧
        (entry.categoryLookup context name).StandsFor id ∧ entry.category ≠ some id ∧
        Option.Rel context.categories.Shows entry.category shown ∧
        change = ⟨⟨entry.category, shown⟩, ⟨id, name⟩⟩ := by
  cases category with
  | none =>
      obtain rfl : none = found := by simpa [categoryChange, pure, Except.pure] using ok
      simp
  | some name =>
      rw [categoryChange_eq, Except.map_eq_ok] at ok
      obtain ⟨id, resolved, rfl⟩ := ok
      have stands (other : String) :
          (entry.categoryLookup context name).StandsFor other ↔ other = id := by
        rw [← Lookup.resolve_eq_ok_iff, resolved]
        simp [eq_comm]
      by_cases same : entry.category = some id
      · simp [stands, same]
      · simp only [same, if_false, Option.some.injEq]
        constructor
        · rintro rfl
          obtain ⟨shown, shows, side⟩ := oldSide_eq_iff.mp (rfl : oldSide _ entry.category = _)
          exact ⟨name, id, shown, rfl, (stands id).mpr rfl, same, shows, by rw [side]⟩
        · rintro ⟨_, other, shown, rfl, others, _, shows, rfl⟩
          rw [oldSide_eq_iff.mpr ⟨shown, shows, rfl⟩, (stands other).mp others]

theorem haveSameMembers_iff {left right : List String} :
    haveSameMembers left right = true ↔ {id | id ∈ left} = {id | id ∈ right} := by
  simp only [haveSameMembers, Bool.and_eq_true, List.all_eq_true, List.contains_iff_mem]
  constructor
  · rintro ⟨forth, back⟩
    exact Set.ext fun id => ⟨forth id, back id⟩
  · intro same
    exact ⟨fun id => (Set.ext_iff.mp same id).mp, fun id => (Set.ext_iff.mp same id).mpr⟩

theorem tagsChange_eq_some_iff {tags : Option (List String)} {found : Option ReferencesChange}
    (ok : tagsChange tags context entry = .ok found) {change : ReferencesChange} :
    found = some change ↔
      ∃ names ids shown, tags = some names ∧
        List.Forall₂ Lookup.StandsFor (names.map (entry.tagLookup context)) ids ∧
        {id | id ∈ ids} ≠ {id | id ∈ entry.tags.getD []} ∧
        List.Forall₂ context.tags.Shows (entry.tags.getD []) shown ∧
        change = ⟨⟨entry.tags.getD [], shown⟩, ⟨ids, names⟩⟩ := by
  cases tags with
  | none =>
      obtain rfl : none = found := by simpa [tagsChange, pure, Except.pure] using ok
      simp
  | some names =>
      rw [tagsChange_eq, Except.map_eq_ok] at ok
      obtain ⟨ids, resolved, rfl⟩ := ok
      have stand (others : List String) :
          List.Forall₂ Lookup.StandsFor (names.map (entry.tagLookup context)) others ↔
            others = ids := by
        rw [← Lookup.mapM_resolve_eq_ok_iff, resolved]
        simp [eq_comm]
      have shows (shown : List String) :
          List.Forall₂ context.tags.Shows (entry.tags.getD []) shown ↔
            (entry.tags.getD []).map context.tags.nameOf = shown := by
        have each : context.tags.Shows = fun id shown => context.tags.nameOf id = shown := by
          funext id shown
          exact propext Catalog.nameOf_eq_iff.symm
        rw [each, ← List.forall₂_map_left_iff (R := Eq), List.forall₂_eq_eq_eq]
      by_cases same : haveSameMembers ids (entry.tags.getD []) = true
      · rw [if_pos same]
        constructor
        · rintro ⟨⟩
        · rintro ⟨_, others, _, ⟨⟩, found, differ, _⟩
          rw [(stand others).mp found] at differ
          exact absurd (haveSameMembers_iff.mp same) differ
      · rw [if_neg same, Option.some.injEq]
        rw [haveSameMembers_iff] at same
        constructor
        · rintro rfl
          exact ⟨names, ids, _, rfl, (stand ids).mpr rfl, same, (shows _).mpr rfl, rfl⟩
        · rintro ⟨_, others, shown, ⟨⟩, found, _, listed, rfl⟩
          rw [(stand others).mp found, (shows shown).mp listed]

theorem accountChange_eq_some_iff {name : String} {found : Option ReferenceChange}
    (ok : accountChange name context entry = .ok found) {change : ReferenceChange} :
    found = some change ↔
      ∃ id shown, (context.accountLookup name).StandsFor id ∧
        entry.transaction.bind (·.account) ≠ some id ∧ entry.account ≠ id ∧
        Option.Rel context.accounts.Shows (entry.transaction.bind (·.account)) shown ∧
        change = ⟨⟨entry.transaction.bind (·.account), shown⟩, ⟨id, name⟩⟩ := by
  rw [accountChange_eq, Except.map_eq_ok] at ok
  obtain ⟨id, resolved, rfl⟩ := ok
  have stands (other : String) : (context.accountLookup name).StandsFor other ↔ other = id := by
    rw [← Lookup.resolve_eq_ok_iff, resolved]
    simp [eq_comm]
  by_cases same : entry.transaction.bind (·.account) = some id ∨ entry.account = id
  · simp only [same, if_true, stands]
    constructor
    · rintro ⟨⟩
    · rintro ⟨_, _, rfl, linked, own, _⟩
      exact absurd same (not_or.mpr ⟨linked, own⟩)
  · simp only [same, if_false, Option.some.injEq]
    rw [not_or] at same
    constructor
    · rintro rfl
      obtain ⟨shown, shows, side⟩ :=
        oldSide_eq_iff.mp (rfl : oldSide context.accounts (entry.transaction.bind (·.account)) = _)
      exact ⟨id, shown, (stands id).mpr rfl, same.1, same.2, shows, by rw [side]⟩
    · rintro ⟨other, shown, others, _, _, shows, rfl⟩
      rw [oldSide_eq_iff.mpr ⟨shown, shows, rfl⟩, (stands other).mp others]

end Fields

section Rules

variable {rule : Rule} {context : Context} {entry : Entry}

theorem Lookup.firstFails_append {front back : List Lookup} {error : ReferenceError} :
    FirstFails (front ++ back) error ↔
      FirstFails front error ∨
        (∀ other, ¬FirstFails front other) ∧ FirstFails back error := by
  simp only [← mapM_resolve_eq_error_iff, List.mapM_append, Except.bind_eq_error]
  cases front.mapM resolve with
  | error error => simp
  | ok ids => cases back.mapM resolve <;> simp [pure, Except.pure]

theorem Lookup.all_standFor_iff {lookups : List Lookup} :
    (∀ lookup ∈ lookups, ∃ id, lookup.StandsFor id) ↔ ∀ error, ¬FirstFails lookups error := by
  constructor
  · rintro all error ⟨before, lookup, after, rfl, _, fails, _⟩
    obtain ⟨id, stands⟩ := all lookup (by simp)
    exact fails id stands
  · intro none lookup member
    have each := Except.isOk_mapM resolve lookups
    cases resolved : lookups.mapM resolve with
    | error error => exact absurd (mapM_resolve_eq_error_iff.mp resolved) (none error)
    | ok ids =>
        rw [resolved] at each
        have read := List.all_eq_true.mp each.symm lookup member
        cases own : lookup.resolve with
        | error error => simp [own, Except.isOk, Except.toBool] at read
        | ok id => exact ⟨id, resolve_eq_ok_iff.mp own⟩

theorem Rule.diff_eq_error_iff {error : ReferenceError} :
    rule.diff context entry = .error error ↔
      Lookup.FirstFails (rule.lookups context entry) error := by
  cases action : rule.action with
  | classify category tags =>
      simp only [Rule.diff, Rule.lookups, action, Lookup.firstFails_append, Except.bind_eq_error,
        ← categoryChange_eq_error_iff, ← tagsChange_eq_error_iff]
      cases categoryChange category context entry <;> simp [pure, Except.pure]
  | transfer account =>
      have changed : accountChange account context entry = .error error ↔ _ :=
        accountChange_eq_error_iff
      rw [Rule.lookups, action, ← changed]
      simp [Rule.diff, action, Except.bind_eq_error, pure, Except.pure]

theorem Rule.isExact_of_diff {diff : EntryDiff} (ok : rule.diff context entry = .ok diff) :
    diff.IsExact rule context entry := by
  cases action : rule.action with
  | classify category tags =>
      simp only [Rule.diff, action, EntryDiff.merge_classified, Except.bind_eq_ok,
        Except.pure_eq_ok] at ok
      obtain ⟨categoryFound, categoryOk, tagsFound, tagsOk, rfl⟩ := ok
      constructor
      · exact fun change => descriptionChange_eq_some_iff
      · intro change
        rw [categoryChange_eq_some_iff categoryOk]
        simp [action]
      · intro change
        rw [tagsChange_eq_some_iff tagsOk]
        simp [action]
      · simp [action]
  | transfer account =>
      simp only [Rule.diff, action, EntryDiff.merge_transferred, Except.bind_eq_ok,
        Except.pure_eq_ok] at ok
      obtain ⟨accountFound, accountOk, rfl⟩ := ok
      constructor
      · exact fun change => descriptionChange_eq_some_iff
      · simp [action]
      · simp [action]
      · intro change
        rw [accountChange_eq_some_iff accountOk]
        simp [action]

theorem Rule.diff_eq_ok_iff {diff : EntryDiff} :
    rule.diff context entry = .ok diff ↔
      (∀ lookup ∈ rule.lookups context entry, ∃ id, lookup.StandsFor id) ∧
        diff.IsExact rule context entry := by
  rw [Lookup.all_standFor_iff]
  simp only [← Rule.diff_eq_error_iff]
  constructor
  · intro ok
    exact ⟨by simp [ok], isExact_of_diff ok⟩
  · rintro ⟨resolved, exact⟩
    cases found : rule.diff context entry with
    | error error => exact absurd found (resolved error)
    | ok other => rw [(isExact_of_diff found).unique exact]

/-- Which ids the names stand for does not depend on their order, nor on repetitions. -/
theorem Lookup.mem_iff {lookups : List Lookup} {ids : List String}
    (stand : List.Forall₂ StandsFor lookups ids) {id : String} :
    id ∈ ids ↔ ∃ lookup ∈ lookups, lookup.StandsFor id := by
  induction stand with
  | nil => simp
  | @cons lookup own lookups ids stands _ ih =>
      have alone : id = own ↔ lookup.StandsFor id :=
        ⟨fun same => same ▸ stands, fun other => Catalog.StandsFor.unique other stands⟩
      simp [ih, alone]

theorem tagsChange_isSome_iff {names : List String} {found : Option ReferencesChange}
    (ok : tagsChange (some names) context entry = .ok found) :
    found.isSome = true ↔
      {id | ∃ name ∈ names, (entry.tagLookup context name).StandsFor id} ≠
        {id | id ∈ entry.tags.getD []} := by
  rw [tagsChange_eq, Except.map_eq_ok] at ok
  obtain ⟨ids, resolved, rfl⟩ := ok
  have wanted : {id | ∃ name ∈ names, (entry.tagLookup context name).StandsFor id} =
      {id | id ∈ ids} := by
    ext id
    simp [Lookup.mem_iff (Lookup.mapM_resolve_eq_ok_iff.mp resolved)]
  rw [wanted, ne_eq, ← haveSameMembers_iff]
  by_cases same : haveSameMembers ids (entry.tags.getD []) = true <;> simp [same]

theorem Rule.tagsChange_of_diff {category : Option String} {tags : Option (List String)}
    {diff : EntryDiff} (action : rule.action = .classify category tags)
    (ok : rule.diff context entry = .ok diff) :
    tagsChange tags context entry = .ok diff.tags := by
  simp only [Rule.diff, action, EntryDiff.merge_classified, Except.bind_eq_ok,
    Except.pure_eq_ok] at ok
  obtain ⟨_, _, tagsFound, tagsOk, rfl⟩ := ok
  exact tagsOk

/-- The order of the tags, in the rule and in the entry, and tags that are there several times have
no influence on whether the tags are changed. -/
theorem Rule.isSome_tags_congr {category : Option String} {names namesToo : List String}
    {tagsToo : Option (List String)} {diff : EntryDiff}
    (action : rule.action = .classify category (some names))
    (sameNames : ∀ name, name ∈ namesToo ↔ name ∈ names)
    (sameTags : ∀ id, id ∈ tagsToo.getD [] ↔ id ∈ entry.tags.getD [])
    (ok : rule.diff context entry = .ok diff) :
    ∃ diffToo, Rule.diff { rule with action := .classify category (some namesToo) } context
        { entry with tags := tagsToo } = .ok diffToo ∧
      diffToo.tags.isSome = diff.tags.isSome := by
  have resolved := (Rule.diff_eq_ok_iff.mp ok).1
  have resolvedToo : ∀ error, Rule.diff { rule with action := .classify category (some namesToo) }
      context { entry with tags := tagsToo } ≠ .error error := by
    simp only [ne_eq, Rule.diff_eq_error_iff, ← Lookup.all_standFor_iff]
    intro lookup member
    apply resolved
    -- Only the kind of an entry counts for its lookups, not its tags.
    have listed : lookup ∈ Rule.lookups
        { rule with action := .classify category (some namesToo) } context entry := member
    simpa [Rule.lookups, action, sameNames] using listed
  cases okToo : Rule.diff { rule with action := .classify category (some namesToo) } context
      { entry with tags := tagsToo } with
  | error error => exact absurd okToo (resolvedToo error)
  | ok diffToo =>
      refine ⟨diffToo, rfl, ?_⟩
      rw [Bool.eq_iff_iff, tagsChange_isSome_iff (Rule.tagsChange_of_diff action ok),
        tagsChange_isSome_iff (Rule.tagsChange_of_diff rfl okToo)]
      simp only [sameNames, sameTags]
      rfl

end Rules

/-- A difference is what of the rule the entry does not comply with yet, in every field. -/
theorem Rule.diff_exact (rule : Rule) (context : Context) (entry : Entry) :
    (∀ error, rule.diff context entry = .error error ↔
      Lookup.FirstFails (rule.lookups context entry) error) ∧
    (∀ diff, rule.diff context entry = .ok diff ↔
      (∀ lookup ∈ rule.lookups context entry, ∃ id, lookup.StandsFor id) ∧
        diff.IsExact rule context entry) ∧
    (∀ diff category names namesToo tagsToo, rule.diff context entry = .ok diff →
      rule.action = .classify category (some names) →
      (∀ name, name ∈ namesToo ↔ name ∈ names) →
      (∀ id, id ∈ tagsToo.getD [] ↔ id ∈ entry.tags.getD []) →
      ∃ diffToo, Rule.diff { rule with action := .classify category (some namesToo) } context
          { entry with tags := tagsToo } = .ok diffToo ∧
        diffToo.tags.isSome = diff.tags.isSome) := by
  refine ⟨fun _ => diff_eq_error_iff, fun _ => diff_eq_ok_iff, ?_⟩
  intro diff category names namesToo tagsToo ok action sameNames sameTags
  exact isSome_tags_congr action sameNames sameTags ok

end LedgerRules
