import LedgerRules.Proofs.Rules.Alike
import LedgerRules.Proofs.Sync.StateFile

/-!
What a kept cursor says of the rules. The fingerprint beside the cursor is that of a text, and of
that text there is one list of rules at most.
-/

namespace LedgerRules

open Document

/-- Two plain documents with one canonical text give the same rules if both give any. So a cursor
that was reached under the rules of one document is kept under the other only if their rules are the
same, unless the digests of two canonical texts collide. -/
theorem same_text_same_rules {platform : Platform} {document other : Document}
    {text textToo : String} {rules rulesToo : List Rule} (plain : document.IsPlain)
    (otherPlain : other.IsPlain)
    (written : document.canonicalText = .ok text) (writtenToo : other.canonicalText = .ok textToo)
    (compiled : compileRules platform document = .ok rules)
    (compiledToo : compileRules platform other = .ok rulesToo) :
    (text = textToo → rules = rulesToo) ∧
      ∀ (stored : SyncState) (fingerprint fingerprintToo cursor : String),
        document.fingerprint = .ok fingerprint → other.fingerprint = .ok fingerprintToo →
        (Sha256.hexDigest (Utf8.encode text) = Sha256.hexDigest (Utf8.encode textToo) →
          text = textToo) →
        stored.rulesHash = some fingerprint →
        (stored.resolve fingerprintToo).since = some cursor → rules = rulesToo := by
  have same_rules : text = textToo → rules = rulesToo := by
    rintro rfl
    exact compileRules_eq ⟨plain, otherPlain, shape_of_canonicalText written writtenToo⟩ compiled
      compiledToo
  refine ⟨same_rules, ?_⟩
  intro stored fingerprint fingerprintToo cursor marked markedToo distinguished earned kept
  apply same_rules
  apply distinguished
  rw [fingerprint_of_canonicalText written] at marked
  rw [fingerprint_of_canonicalText writtenToo] at markedToo
  rcases stored.resolve_cases fingerprintToo with ⟨same, _⟩ | lost
  · rw [Except.ok.inj marked, Except.ok.inj markedToo]
    exact Option.some.inj (earned.symm.trans same)
  · rw [lost] at kept
    cases kept

/-! One list of rules with its keys in two orders, below a date that is once a text. -/

namespace Reordered

def listOf (entries : Entries) : Document := .list [.mapping entries]

def pattern : Scalar × Document := (.string "match", .scalar (.string "Coffee"))

def category : Scalar × Document := (.string "category", .scalar (.string "Food"))

def document : Document :=
  .mapping [(.string "rules", listOf [pattern, category]),
    (.string "since", .scalar (.date ⟨2024, 6, 1, by decide⟩))]

def other : Document :=
  .mapping [(.string "since", .scalar (.string "2024-06-01")),
    (.string "rules", listOf [category, pattern])]

def text : String :=
  "\x7b\"rules\":[\x7b\"category\":\"Food\",\"match\":\"Coffee\"\x7d],\"since\":\"2024-06-01\"\x7d"

theorem document_text : document.canonicalText = .ok text := by
  have outer (rules since : Except CanonicalError String) :=
    orderedEntries_pair (show "rules" < "since" by decide) rules since
  have inner (category pattern : Except CanonicalError String) :=
    orderedEntries_swapped (show "category" < "match" by decide) category pattern
  simp only [document, listOf, pattern, category, canonicalText, itemTexts, entryTexts, objectText,
    outer, inner]
  rfl

theorem other_text : other.canonicalText = .ok text := by
  have outer (rules since : Except CanonicalError String) :=
    orderedEntries_swapped (show "rules" < "since" by decide) rules since
  have inner (category pattern : Except CanonicalError String) :=
    orderedEntries_pair (show "category" < "match" by decide) category pattern
  simp only [other, listOf, pattern, category, canonicalText, itemTexts, entryTexts, objectText,
    outer, inner]
  rfl

def rules : List Rule := (compileRules .plain document).toOption.getD []

def rulesToo : List Rule := (compileRules .plain other).toOption.getD []

theorem compiled : compileRules .plain document = .ok rules :=
  Except.eq_ok_getD (by decide +kernel) []

theorem compiledToo : compileRules .plain other = .ok rulesToo :=
  Except.eq_ok_getD (by decide +kernel) []

theorem plain_pair {first second : Scalar × Document}
    (distinct : first.1.isSameKey second.1 = false) (plain : first.2.IsPlain)
    (plainToo : second.2.IsPlain) : (Document.mapping [first, second]).IsPlain := by
  refine .mapping (by simpa using distinct) ?_
  simp [plain, plainToo]

theorem plain_text (content : String) : (Document.scalar (.string content)).IsPlain :=
  .scalar fun _ same => by cases same

theorem plain_list {entries : Entries} (plain : (Document.mapping entries).IsPlain) :
    (listOf entries).IsPlain := .list (by simpa using plain)

theorem plain_document : document.IsPlain :=
  plain_pair (by decide) (plain_list (plain_pair (by decide) (plain_text _) (plain_text _)))
    (.scalar fun _ same => by cases same)

theorem plain_other : other.IsPlain :=
  plain_pair (by decide) (plain_text _)
    (plain_list (plain_pair (by decide) (plain_text _) (plain_text _)))

end Reordered

theorem reordered_same_rules :
    ∃ fingerprint, Reordered.document ≠ Reordered.other ∧
      Reordered.document.fingerprint = .ok fingerprint ∧
      Reordered.other.fingerprint = .ok fingerprint ∧
      compileRules .plain Reordered.document = .ok Reordered.rules ∧
      compileRules .plain Reordered.other = .ok Reordered.rulesToo ∧
      (SyncState.resolve ⟨some "June", some fingerprint⟩ fingerprint).since = some "June" ∧
      Reordered.rules = Reordered.rulesToo := by
  have known := fingerprint_of_canonicalText Reordered.document_text
  have knownToo := fingerprint_of_canonicalText Reordered.other_text
  have kept : (SyncState.resolve
      ⟨some "June", some (Sha256.hexDigest (Utf8.encode Reordered.text))⟩
      (Sha256.hexDigest (Utf8.encode Reordered.text))).since = some "June" := by
    rw [SyncState.resolve, if_pos rfl]
  have apart : Reordered.document ≠ Reordered.other := by simp [Reordered.document, Reordered.other]
  refine ⟨_, apart, known, knownToo, Reordered.compiled, Reordered.compiledToo, kept, ?_⟩
  exact (same_text_same_rules Reordered.plain_document Reordered.plain_other
    Reordered.document_text Reordered.other_text Reordered.compiled Reordered.compiledToo).2 _ _ _ _
      known knownToo (fun _ => rfl) rfl kept

end LedgerRules
