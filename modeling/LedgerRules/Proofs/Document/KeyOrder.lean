import LedgerRules.Proofs.Document.Alike
import LedgerRules.Proofs.Document.Scalar

/-!
The canonical text tells a document up to the order of its keys. Documents of nothing, truth values,
numbers, texts, lists and mappings by text have one canonical text if and only if they are the same
once the keys of their mappings, at any depth, are brought into one order.
-/

namespace LedgerRules

namespace Document

/-- The entries of a mapping whose keys are texts. -/
def named (fields : List (String × Document)) : Entries := fields.map (Prod.map .string id)

inductive IsBasic : Document → Prop where
  | scalar {value : Scalar} (basic : value.IsBasic) : IsBasic (.scalar value)
  | list {items : List Document} (basic : ∀ item ∈ items, IsBasic item) : IsBasic (.list items)
  | mapping {fields : List (String × Document)} (distinct : (fields.map (·.1)).Nodup)
      (basic : ∀ field ∈ fields, IsBasic field.2) : IsBasic (.mapping (named fields))

/-- Equality of documents but for the order in which the keys of mappings are given. -/
inductive SameUpToKeyOrder : Document → Document → Prop where
  | scalar (value : Scalar) : SameUpToKeyOrder (.scalar value) (.scalar value)
  | list {items others : List Document} (same : List.Forall₂ SameUpToKeyOrder items others) :
      SameUpToKeyOrder (.list items) (.list others)
  | mapping {entries ordered others : Entries} (reordered : entries.Perm ordered)
      (keys : ordered.map (·.1) = others.map (·.1))
      (values : List.Forall₂ SameUpToKeyOrder (ordered.map (·.2)) (others.map (·.2))) :
      SameUpToKeyOrder (.mapping entries) (.mapping others)

/-! Mappings. -/

def sortFields {α : Type} (fields : List (String × α)) : List (String × α) :=
  fields.mergeSort fun left right => !decide (right.1 < left.1)

theorem orderedEntries_named (fields : List (String × Document)) :
    orderedEntries (named fields) = .ok (named (sortFields fields)) := by
  have comparable : areComparable ((named fields).map (·.1)) = true := by
    cases fields with
    | nil => rfl
    | cons first rest =>
      cases rest with
      | nil => rfl
      | cons second others => simp [areComparable, named, Scalar.keyKind]
  have sorted : sortEntries (named fields) = named (sortFields fields) :=
    (List.map_mergeSort (f := Prod.map Scalar.string id) fun _ _ _ _ => rfl).symm
  rw [orderedEntries, if_pos comparable, sorted]
  rfl

/-- What a field becomes in the shape of its mapping. -/
def IsPart (field : String × Document) (part : String × Shape) : Prop :=
  field.1 = part.1 ∧ field.2.shape = .ok part.2

theorem shape_named_iff {fields : List (String × Document)} {found : Shape} :
    (Document.mapping (named fields)).shape = .ok found ↔
      ∃ parts, found = .object parts ∧ List.Forall₂ IsPart (sortFields fields) parts := by
  have each (field : String × Document) (part : String × Shape) :
      fieldShape (Prod.map id shape (Prod.map Scalar.string id field)) = .ok part ↔
        IsPart field part := by
    have name : keyText (.string field.1) = .ok field.1 := rfl
    simp only [fieldShape, Prod.map, id, name, IsPart, Except.bind_eq_ok, Except.pure_eq_ok,
      Except.ok.injEq, exists_eq_left']
    constructor
    · rintro ⟨value, shaped, rfl⟩
      exact ⟨rfl, shaped⟩
    · rintro ⟨same, shaped⟩
      exact ⟨part.2, shaped, Prod.ext same rfl⟩
  have ordered : orderedEntries ((named fields).map (Prod.map id shape)) =
      .ok ((named (sortFields fields)).map (Prod.map id shape)) := by
    rw [orderedEntries_map, orderedEntries_named]
    rfl
  rw [shape, objectShape, entryShapes_eq, ordered]
  simp only [Except.bind_eq_ok, Except.pure_eq_ok, Except.ok.injEq, exists_eq_left', named,
    Except.mapM_eq_ok, List.forall₂_map_left_iff, each]
  constructor
  · rintro ⟨parts, shaped, rfl⟩
    exact ⟨parts, rfl, shaped⟩
  · rintro ⟨parts, rfl, shaped⟩
    exact ⟨parts, shaped, rfl⟩

/-! Two documents side by side. -/

theorem IsBasic.exists_shape {document : Document} (basic : document.IsBasic) :
    ∃ shape, document.shape = .ok shape := by
  have all {α β : Type} {relation : α → β → Prop} {items : List α}
      (each : ∀ item ∈ items, ∃ found, relation item found) :
      ∃ found, List.Forall₂ relation items found := by
    induction items with
    | nil => exact ⟨[], .nil⟩
    | cons item rest ih =>
        obtain ⟨⟨first, own⟩, others⟩ := List.forall_mem_cons.mp each
        obtain ⟨found, later⟩ := ih others
        exact ⟨first :: found, .cons own later⟩
  induction basic with
  | scalar basic => exact ⟨_, rfl⟩
  | list basic ih =>
      obtain ⟨shapes, each⟩ := all ih
      exact ⟨_, shape_list_iff.mpr ⟨shapes, rfl, each⟩⟩
  | @mapping fields distinct basic ih =>
      have parts : ∀ field ∈ sortFields fields, ∃ part, IsPart field part := by
        intro field member
        obtain ⟨shape, shaped⟩ := ih field ((List.mergeSort_perm fields _).mem_iff.mp member)
        exact ⟨(field.1, shape), rfl, shaped⟩
      obtain ⟨parts, each⟩ := all parts
      exact ⟨_, shape_named_iff.mpr ⟨parts, rfl, each⟩⟩

theorem forall₂_of_common {α β γ : Type} {first : α → γ → Prop} {second : β → γ → Prop}
    {left : List α} {right : List β} {middle : List γ} (leftMiddle : List.Forall₂ first left middle)
    (rightMiddle : List.Forall₂ second right middle) :
    List.Forall₂ (fun item other => ∃ between, first item between ∧ second other between)
      left right := by
  induction leftMiddle generalizing right with
  | nil =>
      cases rightMiddle
      exact .nil
  | cons own _ ih =>
      cases rightMiddle with
      | cons ownToo later => exact .cons ⟨_, own, ownToo⟩ (ih later)

theorem forall₂_imp_of_mem {α β : Type} {first second : α → β → Prop} {left : List α}
    {right : List β} (each : List.Forall₂ first left right)
    (next : ∀ item ∈ left, ∀ other ∈ right, first item other → second item other) :
    List.Forall₂ second left right := by
  induction each with
  | nil => exact .nil
  | cons own _ ih =>
      refine .cons (next _ List.mem_cons_self _ List.mem_cons_self own) (ih ?_)
      exact fun item member other memberToo =>
        next item (List.mem_cons_of_mem _ member) other (List.mem_cons_of_mem _ memberToo)

theorem forall₂_pair_iff {α β γ : Type} {relation : β → γ → Prop} {left : List (α × β)}
    {right : List (α × γ)} :
    List.Forall₂ (fun item other => item.1 = other.1 ∧ relation item.2 other.2) left right ↔
      left.map (·.1) = right.map (·.1) ∧
        List.Forall₂ relation (left.map (·.2)) (right.map (·.2)) := by
  induction left generalizing right with
  | nil => cases right <;> simp
  | cons first rest ih =>
      cases right with
      | nil => simp
      | cons firstToo restToo =>
          simp only [List.forall₂_cons, List.map_cons, List.cons.injEq, ih]
          tauto

theorem IsBasic.plain {document : Document} (basic : document.IsBasic) : document.IsPlain := by
  induction basic with
  | scalar basic =>
      refine .scalar fun content same => ?_
      subst same
      cases basic
  | list _ ih => exact .list ih
  | @mapping fields distinct basic ih =>
      have keys : (named fields).Pairwise fun left right => left.1.isSameKey right.1 = false := by
        rw [named, List.pairwise_map]
        refine (List.pairwise_map.mp distinct).imp ?_
        intro left right apart
        simpa [Prod.map, Scalar.isSameKey, Scalar.wholeNumber?] using apart
      refine .mapping keys ?_
      intro entry member
      obtain ⟨field, listed, rfl⟩ := List.mem_map.mp member
      exact ih field listed

theorem IsBasic.alike {document other : Document} (basic : document.IsBasic)
    (otherBasic : other.IsBasic) {found : Shape} (shaped : document.shape = .ok found)
    (shapedToo : other.shape = .ok found) : Alike document other :=
  ⟨basic.plain, otherBasic.plain, found, shaped, shapedToo⟩

theorem SameUpToKeyOrder.of_alike {document other : Document} (basic : document.IsBasic)
    (otherBasic : other.IsBasic) (alike : Alike document other) :
    document.SameUpToKeyOrder other := by
  have kinds := alike.kind_eq
  induction basic generalizing other with
  | scalar basic =>
      cases otherBasic with
      | scalar otherBasic =>
          obtain rfl := Scalar.shape_injective basic otherBasic alike.scalars
          exact .scalar _
      | _ => cases kinds
  | list basic ih =>
      cases otherBasic with
      | list otherBasic =>
          refine .list (forall₂_imp_of_mem alike.items fun item member other memberToo same => ?_)
          exact ih item member (otherBasic other memberToo) same same.kind_eq
      | _ => cases kinds
  | @mapping fields distinct basic ih =>
      cases otherBasic with
      | @mapping fieldsToo distinctToo otherBasic =>
          obtain ⟨found, shaped, shapedToo⟩ := alike.same
          obtain ⟨parts, rfl, each⟩ := shape_named_iff.mp shaped
          obtain ⟨_, ⟨⟩, eachToo⟩ := shape_named_iff.mp shapedToo
          have sorted := List.mergeSort_perm fields fun left right => !decide (right.1 < left.1)
          have sortedToo :=
            List.mergeSort_perm fieldsToo fun left right => !decide (right.1 < left.1)
          have agree : List.Forall₂ (fun field other =>
              field.1 = other.1 ∧ field.2.SameUpToKeyOrder other.2)
              (sortFields fields) (sortFields fieldsToo) := by
            refine forall₂_imp_of_mem (forall₂_of_common each eachToo) ?_
            rintro field member other memberToo ⟨part, ⟨name, own⟩, nameToo, ownToo⟩
            have value := basic field (sorted.mem_iff.mp member)
            have valueToo := otherBasic other (sortedToo.mem_iff.mp memberToo)
            have same := value.alike valueToo own ownToo
            exact ⟨name.trans nameToo.symm,
              ih field (sorted.mem_iff.mp member) valueToo same same.kind_eq⟩
          -- The order in which the other document has its keys is carried over to this one.
          obtain ⟨ordered, reordered, paired⟩ : ∃ ordered, (sortFields fields).Perm ordered ∧
              List.Forall₂ (fun field other =>
                field.1 = other.1 ∧ field.2.SameUpToKeyOrder other.2) ordered fieldsToo := by
            have moved : Relation.Comp (List.Forall₂ _) List.Perm (sortFields fields) fieldsToo :=
              ⟨_, agree, sortedToo⟩
            rwa [List.forall₂_comp_perm_eq_perm_comp_forall₂] at moved
          obtain ⟨keys, values⟩ := forall₂_pair_iff.mp paired
          have names : (named ordered).map (·.1) = (named fieldsToo).map (·.1) := by
            have written := congrArg (List.map Scalar.string) keys
            simpa [named, Function.comp_def] using written
          refine .mapping ((sorted.symm.trans reordered).map _) names ?_
          simpa [named, Function.comp_def] using values
      | _ => cases kinds

theorem sortFields_pairwise {fields : List (String × Document)}
    (distinct : (fields.map (·.1)).Nodup) :
    (sortFields fields).Pairwise fun left right => left.1 ≤ right.1 ∧ left.1 ≠ right.1 := by
  have atMost (left right : String × Document) :
      (!decide (right.1 < left.1)) = true ↔ left.1 ≤ right.1 := by
    rw [Bool.not_eq_true', decide_eq_false_iff_not, String.not_lt]
  have ascending : (sortFields fields).Pairwise fun left right => left.1 ≤ right.1 := by
    refine (List.pairwise_mergeSort ?_ ?_ fields).imp fun ordered => (atMost _ _).mp ordered
    · intro first second third
      rw [atMost, atMost, atMost]
      exact String.le_trans
    · intro left right
      rw [Bool.or_eq_true, atMost, atMost]
      exact String.le_total left.1 right.1
  have keys : ((sortFields fields).map (·.1)).Nodup :=
    ((List.mergeSort_perm fields _).map (·.1)).nodup_iff.mpr distinct
  exact ascending.and (List.pairwise_map.mp keys)

theorem parts_pairwise {fields : List (String × Document)} (distinct : (fields.map (·.1)).Nodup)
    {parts : List (String × Shape)} (each : List.Forall₂ IsPart (sortFields fields) parts) :
    parts.Pairwise fun left right => left.1 ≤ right.1 ∧ left.1 ≠ right.1 := by
  have names : (sortFields fields).map (·.1) = parts.map (·.1) := by
    rw [← List.forall₂_eq_eq_eq, List.forall₂_map_left_iff, List.forall₂_map_right_iff]
    exact each.imp fun _ _ part => part.1
  have sorted := List.pairwise_map (f := Prod.fst) (R := fun left right : String =>
    left ≤ right ∧ left ≠ right).mpr (sortFields_pairwise distinct)
  rw [names] at sorted
  exact List.pairwise_map.mp sorted

theorem rightUnique_isPart : Relator.RightUnique IsPart := by
  rintro field part other ⟨name, shaped⟩ ⟨nameToo, shapedToo⟩
  exact Prod.ext (name.symm.trans nameToo) (Except.ok.inj (shaped.symm.trans shapedToo))

/-- The parts of a mapping do not depend on the order of its fields. -/
theorem parts_unique {fields fieldsToo : List (String × Document)}
    (distinct : (fields.map (·.1)).Nodup) (distinctToo : (fieldsToo.map (·.1)).Nodup)
    {ordered : List (String × Document)} (reordered : fields.Perm ordered)
    (agree : List.Forall₂ (fun field other => field.1 = other.1 ∧ field.2.shape = other.2.shape)
      ordered fieldsToo) {parts partsToo : List (String × Shape)}
    (each : List.Forall₂ IsPart (sortFields fields) parts)
    (eachToo : List.Forall₂ IsPart (sortFields fieldsToo) partsToo) : parts = partsToo := by
  have sorted := List.mergeSort_perm fields fun left right => !decide (right.1 < left.1)
  have sortedToo := List.mergeSort_perm fieldsToo fun left right => !decide (right.1 < left.1)
  obtain ⟨moved, own, movedPerm⟩ := List.perm_comp_forall₂ sortedToo.symm eachToo
  have before : List.Forall₂ IsPart ordered moved := by
    refine (forall₂_of_common agree (List.Forall₂.flip (R := flip IsPart) own)).imp ?_
    rintro field part ⟨other, ⟨name, shape⟩, nameToo, shaped⟩
    exact ⟨name.trans nameToo, shape.trans shaped⟩
  have permuted : parts.Perm partsToo :=
    (List.rel_perm_imp rightUnique_isPart each before (sorted.trans reordered)).trans movedPerm
  refine List.Perm.eq_of_pairwise ?_ (parts_pairwise distinct each)
    (parts_pairwise distinctToo eachToo) permuted
  intro left right _ _ forth back
  exact absurd (String.le_antisymm forth.1 back.1) forth.2

theorem exists_of_named_perm {fields : List (String × Document)} {entries : Entries}
    (reordered : (named fields).Perm entries) :
    ∃ ordered, fields.Perm ordered ∧ entries = named ordered := by
  have moved : Relation.Comp
      (List.Forall₂ fun field entry => Prod.map Scalar.string id field = entry)
      List.Perm fields entries :=
    ⟨named fields, by simp [named, List.forall₂_map_right_iff, List.forall₂_same], reordered⟩
  rw [List.forall₂_comp_perm_eq_perm_comp_forall₂] at moved
  obtain ⟨ordered, perm, each⟩ := moved
  rw [← List.forall₂_map_left_iff (R := Eq), List.forall₂_eq_eq_eq] at each
  exact ⟨ordered, perm, each.symm⟩

theorem SameUpToKeyOrder.shape_eq {document other : Document}
    (same : document.SameUpToKeyOrder other) (basic : document.IsBasic)
    (otherBasic : other.IsBasic) : document.shape = other.shape := by
  induction basic generalizing other with
  | scalar basic =>
      cases same
      rfl
  | @list items basic ih =>
      cases same with
      | @list _ others paired =>
          have otherItems : ∀ item ∈ others, item.IsBasic := by
            cases otherBasic with
            | list basic => exact basic
          have agree : List.Forall₂ (fun item other => item.shape = other.shape) items others :=
            forall₂_imp_of_mem paired fun item member other memberToo same =>
              ih item member same (otherItems other memberToo)
          have shapes : items.map shape = others.map shape := by
            rwa [← List.forall₂_eq_eq_eq, List.forall₂_map_left_iff, List.forall₂_map_right_iff]
          rw [shape, shape, itemShapes_eq, itemShapes_eq, shapes]
  | @mapping fields distinct basic ih =>
      cases same with
      | @mapping _ _ _ reordered keys values =>
          cases otherBasic with
          | @mapping fieldsToo distinctToo otherFields =>
              obtain ⟨ordered, permuted, rfl⟩ := exists_of_named_perm reordered
              have names : ordered.map (·.1) = fieldsToo.map (·.1) := by
                apply List.map_injective_iff.mpr fun _ _ => Scalar.string.inj
                simpa [named, Function.comp_def] using keys
              have paired := forall₂_pair_iff.mpr
                ⟨names, by simpa [named, Function.comp_def] using values⟩
              have agree : List.Forall₂ (fun field other =>
                  field.1 = other.1 ∧ field.2.shape = other.2.shape) ordered fieldsToo := by
                refine forall₂_imp_of_mem paired ?_
                rintro field member other memberToo ⟨name, same⟩
                exact ⟨name,
                  ih field (permuted.mem_iff.mpr member) same (otherFields other memberToo)⟩
              obtain ⟨found, shaped⟩ := (IsBasic.mapping distinct basic).exists_shape
              obtain ⟨foundToo, shapedToo⟩ := (IsBasic.mapping distinctToo otherFields).exists_shape
              obtain ⟨parts, rfl, each⟩ := shape_named_iff.mp shaped
              obtain ⟨partsToo, rfl, eachToo⟩ := shape_named_iff.mp shapedToo
              rw [shaped, shapedToo,
                parts_unique distinct distinctToo permuted agree each eachToo]

/-- Documents have one canonical text if and only if they are the same up to the order of keys. So
the order of keys never changes the fingerprint, and anything else does, as long as the digest tells
the two texts apart. -/
theorem fingerprint_tells_up_to_key_order {document other : Document} (basic : document.IsBasic)
    (otherBasic : other.IsBasic) :
    ∃ text textToo, document.canonicalText = .ok text ∧ other.canonicalText = .ok textToo ∧
      (text = textToo ↔ document.SameUpToKeyOrder other) ∧
      (document.SameUpToKeyOrder other → document.fingerprint = other.fingerprint) ∧
      ((Sha256.hexDigest (Utf8.encode text) = Sha256.hexDigest (Utf8.encode textToo) →
          text = textToo) →
        ¬document.SameUpToKeyOrder other → document.fingerprint ≠ other.fingerprint) := by
  obtain ⟨found, shaped⟩ := basic.exists_shape
  obtain ⟨foundToo, shapedToo⟩ := otherBasic.exists_shape
  have written : document.canonicalText = .ok found.print := by
    rw [canonicalText_eq, shaped]
    rfl
  have writtenToo : other.canonicalText = .ok foundToo.print := by
    rw [canonicalText_eq, shapedToo]
    rfl
  have texts : found.print = foundToo.print ↔ document.SameUpToKeyOrder other := by
    constructor
    · intro same
      rw [← Shape.print_injective same] at shapedToo
      exact .of_alike basic otherBasic (basic.alike otherBasic shaped shapedToo)
    · intro same
      have shapes := same.shape_eq basic otherBasic
      rw [shaped, shapedToo, Except.ok.injEq] at shapes
      rw [shapes]
  rw [fingerprint_of_canonicalText written, fingerprint_of_canonicalText writtenToo]
  refine ⟨found.print, foundToo.print, written, writtenToo, texts, ?_, ?_⟩
  · intro same
    rw [texts.mpr same]
  · intro apart edited equal
    exact edited (texts.mp (apart (Except.ok.inj equal)))

namespace Menu

def pair (first second : String × Document) : Document := .mapping (named [first, second])

def prices (first second : Scalar) : Document := .list [.scalar first, .scalar second]

def card : Document :=
  pair ("prices", prices (.integer 1) (.double (.ofInt 1)))
    ("open", pair ("noon", .scalar (.bool true)) ("note", .scalar .null))

def reordered : Document :=
  pair ("open", pair ("note", .scalar .null) ("noon", .scalar (.bool true)))
    ("prices", prices (.integer 1) (.double (.ofInt 1)))

theorem basic_pair {name nameToo : String} {value valueToo : Document} (apart : name ≠ nameToo)
    (basic : value.IsBasic) (basicToo : valueToo.IsBasic) :
    (pair (name, value) (nameToo, valueToo)).IsBasic :=
  .mapping (by simpa using apart) (by simpa using ⟨basic, basicToo⟩)

theorem basic_prices {first second : Scalar} (basic : first.IsBasic) (basicToo : second.IsBasic) :
    (prices first second).IsBasic :=
  .list (by simpa using ⟨.scalar basic, .scalar basicToo⟩)

theorem basic_card : card.IsBasic :=
  basic_pair (by decide) (basic_prices (.integer 1) (.double _))
    (basic_pair (by decide) (.scalar (.bool true)) (.scalar .null))

theorem basic_reordered : reordered.IsBasic :=
  basic_pair (by decide) (basic_pair (by decide) (.scalar .null) (.scalar (.bool true)))
    (basic_prices (.integer 1) (.double _))

theorem same_swapped {name nameToo : String} {value valueToo other otherToo : Document}
    (same : value.SameUpToKeyOrder other) (sameToo : valueToo.SameUpToKeyOrder otherToo) :
    (pair (name, value) (nameToo, valueToo)).SameUpToKeyOrder
      (pair (nameToo, otherToo) (name, other)) :=
  .mapping (.swap _ _ _) rfl (.cons sameToo (.cons same .nil))

theorem card_same_reordered : card.SameUpToKeyOrder reordered :=
  same_swapped (.list (.cons (.scalar _) (.cons (.scalar _) .nil)))
    (same_swapped (.scalar _) (.scalar _))

theorem prices_not_same :
    ¬(prices (.integer 1) (.double (.ofInt 1))).SameUpToKeyOrder
      (prices (.double (.ofInt 1)) (.integer 1)) := by
  intro same
  cases same with
  | list paired =>
      cases paired with
      | cons first _ => cases first

end Menu

open Menu in
theorem card_told_up_to_key_order :
    card.fingerprint = reordered.fingerprint ∧
      (prices (.integer 1) (.double (.ofInt 1))).canonicalText ≠
        (prices (.double (.ofInt 1)) (.integer 1)).canonicalText := by
  constructor
  · obtain ⟨_, _, _, _, _, same, _⟩ :=
      fingerprint_tells_up_to_key_order basic_card basic_reordered
    exact same card_same_reordered
  · obtain ⟨text, textToo, written, writtenToo, same, _⟩ :=
      fingerprint_tells_up_to_key_order (basic_prices (.integer 1) (.double (.ofInt 1)))
        (basic_prices (.double (.ofInt 1)) (.integer 1))
    rw [written, writtenToo]
    intro equal
    exact prices_not_same (same.mp (Except.ok.inj equal))

end Document

end LedgerRules
