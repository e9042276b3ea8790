import LedgerRules.Proofs.Document.Canonical
import LedgerRules.Proofs.Sync.Completed
import LedgerRules.Proofs.Sync.Coverage
import LedgerRules.Proofs.Sync.Shelf

/-!
Runs that are retried until one of them completes. The refused change and those after it are left
for the next run, which asks the same query since the state has not been saved; together the runs
send what a single run sends, and leave behind what it leaves.
-/

namespace LedgerRules

open Effect Sync

variable {σ τ : Type}

/-- Runs over the same files, all but the last of them aborted by the service. -/
inductive Retried (service : LedgerService σ) (options : SyncOptions) :
    (aborted : Nat) → World σ → World σ → Prop where
  | completed {before after : World σ} {report : SyncReport}
      (done : outcome (runSync service options) before = (.ok report, after)) :
      Retried service options 0 before after
  | aborted {attempts : Nat} {before middle after : World σ} {error : ServiceError}
      (failed : outcome (runSync service options) before = (.error (.service error), middle))
      (rest : Retried service options attempts middle after) :
      Retried service options (attempts + 1) before after

section Retries

variable {service : LedgerService σ} {query : EntryQuery} {catalog : RecordKind → List Json}
  {watermark : Option String} {options : SyncOptions} {files : Files}

theorem pending_of_completed (opening : Opening options files)
    (shelf : Shelf service opening.query catalog watermark) {before after : World σ}
    (same : before.files = files) {report : SyncReport}
    (done : outcome (runSync service options) before = (.ok report, after))
    (distinct : ((shelf.records before.service).map Json.storedId).Nodup)
    (single : ∀ record ∈ shelf.records before.service, Entry.HasOneDescription record) :
    ∃ context,
      Pending opening.rules.rules context (shelf.records before.service) report.changes ∧
      (shelf.records before.service ≠ [] →
        Context.ofRecords (catalog .account) (catalog .category) (catalog .tag) = .ok context) := by
  subst same
  obtain ⟨completed⟩ := Completed.of_done done
  obtain ⟨own, fetched, entries, answered, read, _, settled⟩ := completed
  obtain rfl := own.eq_of_same opening
  obtain rfl := Except.ok.inj ((shelf.listed_entries before.service).symm.trans answered)
  rcases settled with ⟨empty, unchanged, _⟩ | ⟨_, ⟨context, looked, evaluated⟩, _⟩
  · have bare : shelf.records before.service = [] := (Entry.ofRecords_eq_nil_iff read).mp empty
    rw [bare, unchanged]
    exact ⟨.ofItems [] [] [], .nil, absurd rfl⟩
  · rw [own.context_of_listed shelf.listed_catalog] at looked
    refine ⟨context, pending_of_changes read evaluated distinct single, ?_⟩
    intro _
    exact Except.mapError_eq_ok.mp looked

/-- The first run of several makes some of the changes, and the others find the rest. -/
theorem Retried.made {opening : Opening options files} {attempts : Nat} {before after : World σ}
    (retried : Retried service options attempts before after)
    (shelf : Shelf service opening.query catalog watermark) (live : options.isDryRun = false)
    (same : before.files = files)
    {context : Context} {planned : List EntryChange}
    (pending : Pending opening.rules.rules context (shelf.records before.service) planned)
    (readable : shelf.records before.service ≠ [] →
      Context.ofRecords (catalog .account) (catalog .category) (catalog .tag) = .ok context)
    (undescribed : ∀ change ∈ planned, change.diff.description = none) :
    Made shelf planned before after ∧
      Filed options.stateFile (opening.state.advance watermark)
        (shelf.records before.service) files after.files ∧
      after.entryQueries = before.entryQueries ++ List.replicate (attempts + 1) opening.query := by
  -- On the runs. What a run leaves on the shelf is pending again, with the changes it did not make.
  induction retried generalizing planned with
  | @completed before after report done =>
      have attempt := runSync_attempt opening shelf live same pending readable
      subst same
      have asked := entryQueries_runSync service opening
      rw [done] at attempt asked
      cases attempt with
      | completed made filed => exact ⟨made, filed, asked⟩
  | @aborted attempts before middle after error failed rest ih =>
      have attempt := runSync_attempt opening shelf live same pending readable
      subst same
      have asked := entryQueries_runSync service opening
      rw [failed] at attempt asked
      cases attempt with
      | @aborted done later _ _ split made unsaved =>
          subst split
          have left := pending.after fun change member =>
            undescribed change (List.mem_append_left _ member)
          have unfiled : shelf.records middle.service = [] ↔ shelf.records before.service = [] := by
            rw [made.records, storeAll_eq_nil]
          rw [← made.records] at left
          obtain ⟨madeLater, filed, askedLater⟩ := ih unsaved left
            (fun filled => readable (unfiled.not.mp filled))
            fun change member => undescribed change (List.mem_append_right _ member)
          refine ⟨made.trans madeLater, ?_, ?_⟩
          · simpa only [Filed, unfiled] using filed
          · rw [askedLater, asked, List.append_assoc, List.singleton_append,
              ← List.replicate_succ]

/-- However often the service refuses a change, the runs up to the first that completes make the
changes of an undisturbed run, each of them once and in the same order. -/
theorem retried_updates_once {calm : LedgerService τ} (opening : Opening options files)
    (live : options.isDryRun = false) (shelf : Shelf service opening.query catalog watermark)
    (calmShelf : Shelf calm opening.query catalog watermark) {start : σ} {calmStart : τ}
    (same : calmShelf.records calmStart = shelf.records start)
    (distinct : ((shelf.records start).map Json.storedId).Nodup)
    (single : ∀ record ∈ shelf.records start, Entry.HasOneDescription record)
    {report : SyncReport} {calmAfter : World τ}
    (undisturbed : outcome (runSync calm options) ⟨calmStart, files, []⟩ = (.ok report, calmAfter))
    (undescribed : ∀ change ∈ report.changes, change.diff.description = none)
    {attempts : Nat} {after : World σ}
    (retried : Retried service options attempts ⟨start, files, []⟩ after) :
    after.entryQueries = List.replicate (attempts + 1) opening.query ∧
      after.replacements = calmAfter.replacements ∧
      after.replacements = report.changes.map EntryChange.replacement ∧
      (after.replacements.map Prod.fst).Nodup ∧
      shelf.records after.service = calmShelf.records calmAfter.service ∧
      after.files = calmAfter.files := by
  obtain ⟨context, pending, readable⟩ :=
    pending_of_completed opening calmShelf rfl undisturbed (same ▸ distinct) (same ▸ single)
  obtain ⟨calmMade, calmFiled, _⟩ :=
    (Retried.completed undisturbed).made calmShelf live rfl pending readable undescribed
  simp only [same] at pending readable
  obtain ⟨made, filed, asked⟩ := retried.made shelf live rfl pending readable undescribed
  have sent : after.replacements = report.changes.map EntryChange.replacement :=
    made.replacements
  refine ⟨asked, sent.trans calmMade.replacements.symm, sent, ?_, ?_, ?_⟩
  · rw [sent, List.map_map]
    exact pending.distinct
  · rw [made.records, calmMade.records]
    exact congrArg (storeAll report.changes) same.symm
  · exact filed.unique (same ▸ calmFiled)

end Retries

/-! Reading a fixed rules file. -/

theorem loadRules_of_document {files : Files} {path : Path} {content : Bytes} {text : String}
    {document : Document} {rules : List Rule} {fingerprint : String}
    (found : files.find path = .ok (.file content)) (decoded : rulesText content = .ok text)
    (written : Yaml.read text = .ok document) (compiled : compileRules .plain document = .ok rules)
    (known : document.writtenFingerprint .plain = .ok fingerprint) :
    RuleSet.load .plain files path = .ok ⟨rules, fingerprint⟩ := by
  rw [loadRules_of_find found decoded rfl written, RuleSet.ofDocument, compiled, known]
  rfl

/-! A ledger with two entries for the same category, and a service that refuses the second call. -/

namespace TwoLunches

def record (id : String) : Json :=
  .object
    [("id", .string id), ("desc", .string "Lunch"), ("amount", .integer (-5)),
      ("currency", .object [("code", .string "EUR")]), ("date", .string "2024-01-10"),
      ("account", .string "cash")]

def records : List Json := [record "monday", record "tuesday"]

def catalog : RecordKind → List Json
  | .category => [(⟨"food", "Food", some "expense"⟩ : Reference).toRecord]
  | _ => []

def service (refuses : Nat → Bool) : LedgerService (Nat × List Json) where
  fetchAll kind _ state :=
    match kind with
    | .entry => ⟨.ok ⟨state.2, some "seen"⟩, [], state⟩
    | kind => ⟨.ok ⟨catalog kind, none⟩, [], state⟩
  replaceEntry id record state :=
    if refuses state.1 then
      ⟨.error (.transport ⟨"entries", 422, "Unprocessable Entity", none⟩), [],
        (state.1 + 1, state.2)⟩
    else ⟨.ok (), [], (state.1 + 1, replaceRecord id record state.2)⟩

def shelf (refuses : Nat → Bool) (query : EntryQuery) :
    Shelf (service refuses) query catalog (some "seen") where
  records := Prod.snd
  listed_entries _ := rfl
  listed_catalog kind other _ := ⟨none, by cases kind <;> first | exact absurd rfl other | rfl⟩
  kept kind _ _ := by cases kind <;> rfl
  stored id record state done := by
    simp only [service] at done ⊢
    split
    · rename_i refused
      simp [refused] at done
    · rfl
  refused id record state error failed := by
    simp only [service] at failed ⊢
    split
    · rfl
    · rename_i accepted
      simp [accepted] at failed

def text : String := "[\x7b'category': 'Food', 'match': 'Lunch'\x7d]"

def document : Document :=
  .list [.mapping
    [(.string "category", .scalar (.string "Food")), (.string "match", .scalar (.string "Lunch"))]]

def rules : RuleSet where
  rules := (compileRules .plain document).toOption.getD []
  fingerprint := (document.writtenFingerprint .plain).toOption.getD ""

def context : Context := .ofItems [] [⟨"food", "Food", some "expense"⟩] []

def entries : List Entry := (Entry.ofRecords records).toOption.getD []

def planned : List EntryChange := (changes rules.rules context entries).toOption.getD []

def options : SyncOptions :=
  ⟨"rules.yaml", "state.json", ⟨2024, 1, 1, TwoMonths.january_begins⟩,
    ⟨2024, 1, 31, TwoMonths.january_ends⟩, false, false, .plain⟩

def files : Files := ⟨[(⟨false, ["rules.yaml"]⟩, .file (Utf8.encode text))]⟩

theorem document_fingerprint :
    ∃ fingerprint, document.writtenFingerprint .plain = .ok fingerprint := by
  have ordered (category pattern : Except CanonicalError String) :=
    Document.orderedEntries_pair (show "category" < "match" by decide) category pattern
  simp only [document, Document.writtenFingerprint, Document.writtenText, Document.writtenItems,
    Document.writtenEntries, Document.limited, Document.objectText, ordered]
  exact ⟨_, rfl⟩

set_option maxRecDepth 100000 in
theorem load_rules : options.rulesIn files = .ok rules := by
  have path : Platform.plain.path? "rules.yaml" = some ⟨false, ["rules.yaml"]⟩ := by decide
  have decoded : rulesText (Utf8.encode text) = .ok text := by cbv
  have written : Yaml.read text = .ok document := by cbv
  have compiled : compileRules .plain document = .ok rules.rules :=
    Except.eq_ok_getD (by decide +kernel) []
  obtain ⟨fingerprint, known⟩ := document_fingerprint
  have same : rules = ⟨rules.rules, fingerprint⟩ := by
    simp only [rules, known, Except.toOption, Option.getD_some]
  rw [SyncOptions.rulesIn_of_known path, same]
  exact loadRules_of_document rfl decoded written compiled known

def opening : Opening options files where
  rules := rules
  stored := {}
  rules_loaded := load_rules
  state_loaded := by
    have path : options.stateFile = ⟨false, ["state.json"]⟩ := by decide
    exact SyncOptions.stateIn_of_absent (by decide) (by rw [path]; rfl)

theorem records_distinct : (records.map Json.storedId).Nodup := by decide +kernel

theorem records_described : ∀ record ∈ records, Entry.HasOneDescription record := by
  simp only [records, List.forall_mem_cons]
  exact ⟨.inr rfl, .inr rfl, by simp⟩

theorem pending : Pending rules.rules context records planned := by
  have read : Entry.ofRecords records = .ok entries := Except.eq_ok_getD (by decide +kernel) []
  have evaluated : changes rules.rules context entries = .ok planned :=
    Except.eq_ok_getD (by decide +kernel) []
  exact pending_of_changes read evaluated records_distinct records_described

theorem planned_undescribed : ∀ change ∈ planned, change.diff.description = none := by
  have all : planned.all (·.diff.description.isNone) = true := by decide +kernel
  simpa using all

theorem service_of_asked {refuses : Nat → Bool} {before after : Nat × List Json}
    (asked : Asked (service refuses) before after) : after = before := by
  induction asked with
  | refl => rfl
  | tail _ once ih =>
      cases once with
      | fetched kind query state => cases kind <;> exact ih

theorem count_update {refuses : Nat → Bool} (change : EntryChange) (state : Nat × List Json) :
    ((service refuses).update change state).state.1 = state.1 + 1 := by
  simp only [LedgerService.update, service]
  split <;> rfl

theorem update_accepted {refuses : Nat → Bool} {change : EntryChange} {state : Nat × List Json} :
    ((service refuses).update change state).result = .ok () ↔ refuses state.1 = false := by
  simp only [LedgerService.update, service]
  split <;> simp_all

theorem exists_accepted {refuses : Nat → Bool} (planned : List EntryChange)
    (state : Nat × List Json) (accepts : ∀ count, state.1 ≤ count → refuses count = false) :
    ∃ after, Accepted (service refuses) planned state after := by
  induction planned generalizing state with
  | nil => exact ⟨state, .nil⟩
  | cons change rest ih =>
      have own : ((service refuses).update change state).result = .ok () :=
        update_accepted.mpr (accepts state.1 (Nat.le_refl _))
      obtain ⟨after, later⟩ := ih ((service refuses).update change state).state
        fun count bound => by
          rw [count_update] at bound
          exact accepts count (Nat.le_of_succ_le bound)
      exact ⟨after, .cons own later⟩

theorem replace_state (content : Bytes) : ∃ after,
    outcome (Files.replace options.stateFile content) files = (.ok (), after) := by
  have path : options.stateFile = ⟨false, ["state.json"]⟩ := by decide
  rw [path]
  exact ⟨_, rfl⟩

theorem run_accepted {refuses : Nat → Bool} {seen : Nat × List Json} (events : List Event)
    {planned : List EntryChange} (pending : Pending rules.rules context seen.2 planned)
    (accepts : ∀ count, seen.1 ≤ count → refuses count = false) :
    ∃ report after,
      outcome (runSync (service refuses) options) ⟨seen, files, events⟩ = (.ok report, after) ∧
        report.changes = planned := by
  let before : World (Nat × List Json) := ⟨seen, files, events⟩
  let own : Opening options before.files := opening
  obtain ⟨plan, rfl, _⟩ := pending.exists_plan (shelf refuses own.query) fun _ => rfl
  obtain ⟨report, after, carried⟩ := plan.isCarriedOut rfl
    (fun state asked => exists_accepted _ state (service_of_asked asked ▸ accepts))
    fun _ => replace_state _
  exact ⟨report, after, carried.done, carried.changes⟩

theorem not_accepted {first second : EntryChange} {before after : Nat × List Json}
    (unused : before.1 = 0) : ¬ Accepted (service (· == 1)) [first, second] before after := by
  rintro (_ | ⟨own, _ | ⟨next, _⟩⟩)
  have refused := update_accepted.mp next
  simp [count_update, unused] at refused

theorem run_refused {planned : List EntryChange}
    (pending : Pending rules.rules context records planned) (two : planned.length = 2) :
    ∃ error middle,
      outcome (runSync (service (· == 1)) options) ⟨(0, records), files, []⟩ =
        (.error (.service error), middle) ∧ middle.service.1 = 2 := by
  obtain ⟨first, second, rfl⟩ := List.length_eq_two.mp two
  let before : World (Nat × List Json) := ⟨(0, records), files, []⟩
  let own : Opening options before.files := opening
  obtain ⟨plan, changes, _⟩ := pending.exists_plan (shelf (· == 1) own.query) fun _ => rfl
  rcases plan.run_cases rfl with
    ⟨report, after, carried⟩ | ⟨_, ready, error, after, prepared, stopped, ending⟩
  · obtain ⟨ready, prepared, accepted, _⟩ := carried.made
    rw [changes, service_of_asked prepared.asked] at accepted
    exact absurd accepted (not_accepted rfl)
  have unused : ready.service.1 = 0 := congrArg Prod.fst (service_of_asked prepared.asked)
  cases ending with
  | @refused _ _ change error last _ _ _ _ failed ended =>
      have reached : last.1 = 1 := by
        by_contra other
        have accepted : ((service (· == 1)).update change last).result = .ok () :=
          update_accepted.mpr (beq_false_of_ne other)
        simp [accepted] at failed
      exact ⟨error, after, stopped, by rw [ended, count_update, reached]⟩
  | unsaved _ accepted =>
      rw [changes] at accepted
      exact absurd accepted (not_accepted unused)

theorem retried : ∃ after,
    Retried (service (· == 1)) options 1 ⟨(0, records), files, []⟩ after := by
  obtain ⟨error, middle, failed, counted⟩ := run_refused pending (by decide +kernel)
  let start : World (Nat × List Json) := ⟨(0, records), files, []⟩
  have attempt := runSync_attempt opening (shelf (· == 1) opening.query) rfl
    (show start.files = files from rfl) pending fun _ => rfl
  rw [failed] at attempt
  cases attempt with
  | @aborted done rest _ _ split made unsaved =>
      obtain ⟨seen, stored, events⟩ := middle
      obtain rfl : stored = files := unsaved
      have kept : seen.2 = storeAll done records := made.records
      have left : Pending rules.rules context seen.2 rest := by
        rw [kept]
        exact (split ▸ pending).after fun change member =>
          planned_undescribed change (split ▸ List.mem_append_left _ member)
      have accepts : ∀ count, seen.1 ≤ count → (count == 1) = false := by
        intro count bound
        rw [show seen.1 = 2 from counted] at bound
        simp only [beq_eq_false_iff_ne]
        omega
      obtain ⟨report, after, done, _⟩ := run_accepted events left accepts
      exact ⟨after, .aborted failed (.completed done)⟩

end TwoLunches

theorem twoLunches_updated_once : ∃ (calmAfter after : World (Nat × List Json)),
    Retried (TwoLunches.service (· == 1)) TwoLunches.options 1
        ⟨(0, TwoLunches.records), TwoLunches.files, []⟩ after ∧
      (∃ report, outcome (runSync (TwoLunches.service fun _ => false) TwoLunches.options)
        ⟨(0, TwoLunches.records), TwoLunches.files, []⟩ = (.ok report, calmAfter)) ∧
      after.entryQueries = List.replicate 2 TwoLunches.opening.query ∧
      after.replacements = calmAfter.replacements ∧ after.replacements.length = 2 ∧
      (after.replacements.map Prod.fst).Nodup ∧
      after.service.2 = calmAfter.service.2 ∧ after.files = calmAfter.files := by
  open TwoLunches in
  obtain ⟨after, retried⟩ := retried
  let start : Nat × List Json := (0, records)
  have pendingThere : Pending rules.rules context start.2 planned := pending
  obtain ⟨report, calmAfter, calm, same⟩ := run_accepted [] pendingThere fun _ _ => rfl
  have alike : (shelf (fun _ => false) opening.query).records start =
      (shelf (· == 1) opening.query).records start := rfl
  obtain ⟨asked, sent, changed, others⟩ :=
    retried_updates_once opening rfl _ _ alike records_distinct records_described calm
      (same ▸ planned_undescribed) retried
  refine ⟨calmAfter, after, retried, ⟨report, calm⟩, asked, sent, ?_, others⟩
  rw [changed, List.length_map, same]
  decide +kernel

end LedgerRules
