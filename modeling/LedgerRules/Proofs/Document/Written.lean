import LedgerRules.Proofs.Document.Alike

/-!
What a machine writes of a document. It is the canonical text, unless the machine refuses to write
it, for a whole number that has too many digits or for its stack.
-/

namespace LedgerRules.Document

open CanonicalError (integerTooLong)

/-- A result that is the plain one, or is refused for the digits of a number. -/
def IsLimited {α : Type} (written plain : Except CanonicalError α) : Prop :=
  written = plain ∨ written = .error integerTooLong

section IsLimited

variable {α β : Type} {written plain : Except CanonicalError α}

theorem IsLimited.bind (isLimited : IsLimited written plain)
    {next nextPlain : α → Except CanonicalError β}
    (later : ∀ value, IsLimited (next value) (nextPlain value)) :
    IsLimited (written >>= next) (plain >>= nextPlain) := by
  rcases isLimited with rfl | rfl
  · cases written with
    | error error => exact .inl rfl
    | ok value => exact later value
  · exact .inr rfl

theorem isLimited_limited (isLimited : IsLimited written plain) (value : Scalar) :
    IsLimited (limited value written) plain := by
  unfold limited
  split
  · split
    · exact .inr rfl
    · exact isLimited
  · exact isLimited

theorem isLimited_foldr (members : List Scalar) (isLimited : IsLimited written plain) :
    IsLimited (members.foldr limited written) plain := by
  induction members with
  | nil => exact isLimited
  | cons member rest ih => exact isLimited_limited ih member

theorem isLimited_mapM {items : List α} {write writePlain : α → Except CanonicalError β}
    (each : ∀ item ∈ items, IsLimited (write item) (writePlain item)) :
    IsLimited (items.mapM write) (items.mapM writePlain) := by
  induction items with
  | nil => exact .inl rfl
  | cons item rest ih =>
      obtain ⟨own, others⟩ := List.forall_mem_cons.mp each
      rw [List.mapM_cons, List.mapM_cons]
      exact own.bind fun value => (ih others).bind fun values => .inl rfl

end IsLimited

abbrev Texts := Except CanonicalError String × Except CanonicalError String

theorem isLimited_listText {texts : List Texts} (each : ∀ text ∈ texts, IsLimited text.1 text.2) :
    IsLimited (listText (texts.map Prod.fst)) (listText (texts.map Prod.snd)) := by
  simp only [listText, List.mapM_map]
  exact (isLimited_mapM each).bind fun _ => .inl rfl

theorem isLimited_objectText {fields : List (Scalar × Texts)}
    (each : ∀ field ∈ fields, IsLimited field.2.1 field.2.2) :
    IsLimited (objectText (fields.map (Prod.map id Prod.fst)))
      (objectText (fields.map (Prod.map id Prod.snd))) := by
  simp only [objectText, orderedEntries_map]
  cases sorted : orderedEntries fields with
  | error error => exact .inl rfl
  | ok ordered =>
      have permuted := orderedEntries_perm sorted
      change IsLimited (List.mapM fieldText _ >>= _) (List.mapM fieldText _ >>= _)
      rw [List.mapM_map, List.mapM_map]
      refine IsLimited.bind (isLimited_mapM fun field member => ?_) fun _ => .inl rfl
      refine IsLimited.bind (.inl rfl) fun name => ?_
      exact (each field (permuted.mem_iff.mp member)).bind fun _ => .inl rfl

mutual

theorem isLimited_writtenText : (document : Document) →
    IsLimited document.writtenText document.canonicalText
  | .scalar value => isLimited_limited (.inl rfl) value
  | .list items => by
      obtain ⟨texts, written, plain, each⟩ := isLimited_items items
      rw [writtenText, canonicalText, written, plain]
      exact isLimited_listText each
  | .tuple items => by
      obtain ⟨texts, written, plain, each⟩ := isLimited_items items
      rw [writtenText, canonicalText, written, plain]
      exact isLimited_listText each
  | .mapping entries => by
      obtain ⟨fields, written, plain, each⟩ := isLimited_entries entries
      rw [writtenText, canonicalText, written, plain]
      exact isLimited_objectText each
  | .set members => isLimited_foldr members (.inl rfl)

theorem isLimited_items : (items : List Document) → ∃ texts : List Texts,
    writtenItems items = texts.map Prod.fst ∧ itemTexts items = texts.map Prod.snd ∧
      ∀ text ∈ texts, IsLimited text.1 text.2
  | [] => ⟨[], rfl, rfl, nofun⟩
  | item :: rest => by
      obtain ⟨texts, written, plain, each⟩ := isLimited_items rest
      refine ⟨(item.writtenText, item.canonicalText) :: texts, ?_, ?_, ?_⟩
      · rw [writtenItems, written, List.map_cons]
      · rw [itemTexts, plain, List.map_cons]
      · exact List.forall_mem_cons.mpr ⟨isLimited_writtenText item, each⟩

theorem isLimited_entries : (entries : Entries) → ∃ fields : List (Scalar × Texts),
    writtenEntries entries = fields.map (Prod.map id Prod.fst) ∧
      entryTexts entries = fields.map (Prod.map id Prod.snd) ∧
      ∀ field ∈ fields, IsLimited field.2.1 field.2.2
  | [] => ⟨[], rfl, rfl, nofun⟩
  | (key, value) :: rest => by
      obtain ⟨fields, written, plain, each⟩ := isLimited_entries rest
      refine ⟨(key, (limited key value.writtenText, value.canonicalText)) :: fields, ?_, ?_, ?_⟩
      · rw [writtenEntries, written]
        rfl
      · rw [entryTexts, plain]
        rfl
      · exact List.forall_mem_cons.mpr ⟨isLimited_limited (isLimited_writtenText value) key, each⟩

end

/-- A fingerprint that a machine gives is that of the document. -/
theorem fingerprint_of_written {platform : Platform} {document : Document} {fingerprint : String}
    (written : document.writtenFingerprint platform = .ok fingerprint) :
    document.fingerprint = .ok fingerprint := by
  rw [writtenFingerprint] at written
  split at written
  · cases written
  · obtain ⟨text, own, same⟩ := Except.bind_eq_ok.mp written
    rcases isLimited_writtenText document with plain | refused
    · rw [fingerprint_of_canonicalText (plain ▸ own)]
      exact same
    · rw [refused] at own
      cases own

end LedgerRules.Document
