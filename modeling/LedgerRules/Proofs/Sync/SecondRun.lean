import LedgerRules.Proofs.Sync.Reread
import LedgerRules.Proofs.Sync.Retry

/-!
A second run over all entries with the same rules. Entries are judged by their current description,
so the second run finds more to change only where the first has replaced a description and another
rule comes first now.
-/

namespace LedgerRules

open Effect Sync

variable {σ : Type}

def SyncOptions.full (options : SyncOptions) : SyncOptions := { options with isFull := true }

section Again

variable {service : LedgerService σ} {catalog : RecordKind → List Json} {options : SyncOptions}
  {before after : World σ}

/-- What a second run over all entries reads after some changes have been made, and in which context
both runs evaluate. -/
structure Rereading (service : LedgerService σ) (opening : Opening options before.files)
    (made : List EntryChange) (after : World σ) where
  next : Opening options.full after.files
  rules_eq : next.rules = opening.rules
  fetched : FetchResult
  entries : List Entry
  answered : (service.fetchAll .entry (some next.query) after.service).result = .ok fetched
  read : Entry.ofRecords fetched.records = .ok entries
  former : List Entry
  context : Context
  evaluated : changes opening.rules.rules context former = .ok made
  looked : former ≠ [] → opening.context service = .ok context
  lookedAgain : entries ≠ [] → next.context service = .ok context
  needs : ∀ entry ∈ entries, changeOf? opening.rules.rules context entry = .ok none ∨
    ∃ change ∈ made, entry = change.result.withoutNulls
  savable : entries ≠ [] → ∀ content, ∃ last,
    outcome (Files.replace options.stateFile content) after.files = (.ok (), last)

theorem exists_rereading (opening : Opening options before.files)
    (archive : Archive service catalog) (live : options.isDryRun = false)
    (listed : archive.Lists opening.query before.service)
    (distinct : ((archive.records before.service).map Json.storedId).Nodup) {report : SyncReport}
    (done : outcome (runSync service options) before = (.ok report, after))
    (legible : ∀ change ∈ report.changes, change.result.IsLegible)
    (sameRules : options.rulesIn after.files = .ok opening.rules)
    (listedAgain : archive.Lists ⟨options.first, options.last, none⟩ after.service) :
    Nonempty (Rereading service opening report.changes after) := by
  obtain ⟨plan, carried⟩ := Plan.of_done opening live done
  obtain ⟨watermark, answered⟩ := listed
  have fetched := Except.ok.inj (plan.answered.symm.trans answered)
  have read := plan.read
  have filed := carried.filed
  have records := archive.records_of_carriedOut carried
  obtain ⟨context, evaluated, looked⟩ := plan.exists_context
  rw [fetched] at read filed
  rw [← carried.changes] at evaluated records
  obtain ⟨entries, readAgain, needs⟩ := reread_of_changes read evaluated distinct legible
  rw [← records] at readAgain
  obtain ⟨stored, loaded⟩ := filed.exists_stateIn opening
  obtain ⟨mark, answeredAgain⟩ := listedAgain
  let next : Opening options.full after.files := ⟨opening.rules, stored, sameRules, loaded⟩
  have filled (present : entries ≠ []) : archive.records before.service ≠ [] := by
    rwa [ne_eq, Entry.ofRecords_eq_nil_iff readAgain, records, storeAll_eq_nil] at present
  have lookedAgain (present : entries ≠ []) : next.context service = .ok context := by
    rw [next.context_of_listed archive.listed_catalog,
      ← opening.context_of_listed archive.listed_catalog]
    exact looked ((Entry.ofRecords_eq_nil_iff read).not.mpr (filled present))
  exact ⟨⟨next, rfl, ⟨_, mark⟩, entries, answeredAgain, readAgain, plan.entries, context, evaluated,
    looked, lookedAgain, needs, fun present => filed.replace_again (filled present)⟩⟩

namespace Rereading

variable {opening : Opening options before.files} {made : List EntryChange}
  (rereading : Rereading service opening made after)

include rereading

theorem idle_run (live : options.isDryRun = false)
    (settled : ∀ context, opening.context service = .ok context → ∀ change ∈ made,
      change.diff.description ≠ none → change.IsSettled opening.rules.rules context) :
    ∃ report last, outcome (runSync service options.full) after = (.ok report, last) ∧
      report.changes = [] ∧ report.applied = 0 ∧ Asked service after.service last.service ∧
      last.replacements = after.replacements ∧ last.echoes = after.echoes := by
  have enough : ∀ change ∈ made, change.diff.description ≠ none →
      change.IsSettled opening.rules.rules rereading.context := by
    intro change member
    have present : rereading.former ≠ [] :=
      List.ne_nil_of_mem (changed_of_mem rereading.evaluated change member).1
    exact settled _ (rereading.looked present) change member
  have nothing := changes_reread_of_settled rereading.evaluated rereading.needs enough
  rw [← rereading.rules_eq] at nothing
  let plan : Plan service rereading.next :=
    .ofEntries rereading.answered rereading.read rereading.lookedAgain nothing
  obtain ⟨report, last, carried⟩ := plan.isCarriedOut live (fun state _ => ⟨state, .nil⟩)
    fun present => rereading.savable present _
  obtain ⟨ready, prepared, accepted, told⟩ := carried.made
  refine ⟨report, last, carried.done, carried.changes, carried.applied, ?_, ?_, ?_⟩
  · rw [accepted.eq_of_nil]
    exact prepared.asked
  · exact (told.replacements.trans (List.append_nil _)).trans prepared.replacements
  · exact (told.echoes.trans (List.append_nil _)).trans prepared.echoes

theorem follows_renaming (live : options.isDryRun = false) {report : SyncReport} {last : World σ}
    (done : outcome (runSync service options.full) after = (.ok report, last)) :
    ∀ change ∈ report.changes, ∃ former ∈ made, change.entry = former.result.withoutNulls ∧
      former.diff.description ≠ none ∧ change.rule ≠ former.rule := by
  obtain ⟨plan, carried⟩ := Plan.of_done rereading.next live done
  have fetched := Except.ok.inj (rereading.answered.symm.trans plan.answered)
  have entries : plan.entries = rereading.entries :=
    Except.ok.inj (plan.read.symm.trans (fetched ▸ rereading.read))
  rw [carried.changes]
  rcases plan.evaluated with ⟨_, none_planned⟩ | ⟨present, context, looked, evaluated⟩
  · simp [none_planned]
  · rw [entries] at present evaluated
    obtain rfl : rereading.context = context :=
      Except.ok.inj ((rereading.lookedAgain present).symm.trans looked)
    rw [rereading.rules_eq] at evaluated
    exact changes_reread rereading.evaluated rereading.needs evaluated

end Rereading

/-- After a live run the same rules are applied once more, to all entries as they are stored now. An
entry is changed again only if the first run has replaced its description, and by another rule than
then; without such a rule the second run completes and tells the service nothing. -/
theorem changed_again_only_when_renamed (opening : Opening options before.files)
    (archive : Archive service catalog) (live : options.isDryRun = false)
    (listed : archive.Lists opening.query before.service)
    (distinct : ((archive.records before.service).map Json.storedId).Nodup) {report : SyncReport}
    (done : outcome (runSync service options) before = (.ok report, after))
    (legible : ∀ change ∈ report.changes, change.result.IsLegible)
    (sameRules : options.rulesIn after.files = .ok opening.rules)
    (listedAgain : archive.Lists ⟨options.first, options.last, none⟩ after.service) :
    ((∀ context, opening.context service = .ok context → ∀ change ∈ report.changes,
        change.diff.description ≠ none → change.IsSettled opening.rules.rules context) →
      ∃ again last, outcome (runSync service options.full) after = (.ok again, last) ∧
        again.changes = [] ∧ again.applied = 0 ∧ Asked service after.service last.service ∧
        last.replacements = after.replacements ∧ last.echoes = after.echoes) ∧
    ∀ again last, outcome (runSync service options.full) after = (.ok again, last) →
      ∀ change ∈ again.changes, ∃ former ∈ report.changes,
        change.entry = former.result.withoutNulls ∧ former.diff.description ≠ none ∧
        change.rule ≠ former.rule := by
  obtain ⟨rereading⟩ := exists_rereading opening archive live listed distinct done legible sameRules
    listedAgain
  constructor
  · exact rereading.idle_run live
  · exact fun again last doneAgain => rereading.follows_renaming live doneAgain

end Again

/-! Coffee is renamed to lunch by one rule, and lunch is filed under a category by the next. -/

namespace Coffee

def record (filed : Bool) : Json :=
  .object
    ([("id", .string "monday"), ("desc", .string "Coffee"), ("amount", .integer (-5)),
      ("currency", .object [("code", .string "EUR")]), ("date", .string "2024-01-10"),
      ("account", .string "cash")] ++ if filed then [("category", .string "food")] else [])

abbrev service : LedgerService (Nat × List Json) := TwoLunches.service fun _ => false

def text : String :=
  "[\x7b'description': 'Lunch', 'match': 'Coffee'\x7d, " ++
    "\x7b'category': 'Food', 'match': 'Lunch'\x7d]"

def document : Document :=
  .list
    [.mapping [(.string "description", .scalar (.string "Lunch")),
      (.string "match", .scalar (.string "Coffee"))],
    .mapping [(.string "category", .scalar (.string "Food")),
      (.string "match", .scalar (.string "Lunch"))]]

def rules : RuleSet where
  rules := (compileRules .plain document).toOption.getD []
  fingerprint := (document.writtenFingerprint .plain).toOption.getD ""

def context : Context := TwoLunches.context

def options : SyncOptions := TwoLunches.options

def files : Files := ⟨[(⟨false, ["rules.yaml"]⟩, .file (Utf8.encode text))]⟩

def start (filed : Bool) : World (Nat × List Json) := ⟨(0, [record filed]), files, []⟩

def entries (filed : Bool) : List Entry := (Entry.ofRecords [record filed]).toOption.getD []

def planned (filed : Bool) : List EntryChange :=
  (changes rules.rules context (entries filed)).toOption.getD []

theorem document_fingerprint :
    ∃ fingerprint, document.writtenFingerprint .plain = .ok fingerprint := by
  have renamed (description pattern : Except CanonicalError String) :=
    Document.orderedEntries_pair (show "description" < "match" by decide) description pattern
  have filed (category pattern : Except CanonicalError String) :=
    Document.orderedEntries_pair (show "category" < "match" by decide) category pattern
  simp only [document, Document.writtenFingerprint, Document.writtenText, Document.writtenItems,
    Document.writtenEntries, Document.limited, Document.objectText, renamed, filed]
  exact ⟨_, rfl⟩

set_option maxRecDepth 100000 in
theorem load_rules {files : Files}
    (found : files.find ⟨false, ["rules.yaml"]⟩ = .ok (.file (Utf8.encode text))) :
    options.rulesIn files = .ok rules := by
  have path : Platform.plain.path? options.rulesPath = some ⟨false, ["rules.yaml"]⟩ := by decide
  have decoded : rulesText (Utf8.encode text) = .ok text := by cbv
  have written : Yaml.read text = .ok document := by cbv
  have compiled : compileRules .plain document = .ok rules.rules :=
    Except.eq_ok_getD (by decide +kernel) []
  obtain ⟨fingerprint, known⟩ := document_fingerprint
  have same : rules = ⟨rules.rules, fingerprint⟩ := by
    simp only [rules, known, Except.toOption, Option.getD_some]
  rw [SyncOptions.rulesIn_of_known path, same]
  exact loadRules_of_document found decoded written compiled known

theorem statePath_eq : options.stateFile = ⟨false, ["state.json"]⟩ := by decide

def opening (filed : Bool) : Opening options (start filed).files where
  rules := rules
  stored := {}
  rules_loaded := load_rules rfl
  state_loaded := SyncOptions.stateIn_of_absent (by decide) (by rw [statePath_eq]; rfl)

def archive : Archive service TwoLunches.catalog :=
  (TwoLunches.shelf (fun _ => false) (opening false).query).archive

theorem planned_ok (filed : Bool) :
    Entry.ofRecords [record filed] = .ok (entries filed) ∧
      changes rules.rules context (entries filed) = .ok (planned filed) := by
  have readable : ∀ filed, (Entry.ofRecords [record filed]).isOk = true := by decide +kernel
  have evaluable : ∀ filed, (changes rules.rules context (entries filed)).isOk = true := by
    decide +kernel
  exact ⟨Except.eq_ok_getD (readable filed) [], Except.eq_ok_getD (evaluable filed) []⟩

theorem context_eq {options : SyncOptions} {before : World (Nat × List Json)}
    (opening : Opening options before.files) : opening.context service = .ok context := by
  rw [opening.context_of_listed archive.listed_catalog]
  rfl

theorem replace_state (content : Bytes) :
    ∃ after, outcome (Files.replace options.stateFile content) files = (.ok (), after) ∧
      after.find ⟨false, ["rules.yaml"]⟩ = .ok (.file (Utf8.encode text)) := by
  rw [statePath_eq]
  exact ⟨_, rfl, rfl⟩

theorem accepts (planned : List EntryChange) (state : Nat × List Json) :
    ∃ after, Accepted service planned state after :=
  TwoLunches.exists_accepted planned state fun _ _ => rfl

def plan (filed : Bool) : Plan service (opening filed) :=
  have answered : (service.fetchAll .entry (some (opening filed).query)
    (start filed).service).result = .ok ⟨[record filed], some "seen"⟩ := rfl
  have evaluated : changes (opening filed).rules.rules context (entries filed) =
    .ok (planned filed) := (planned_ok filed).2
  Plan.ofEntries answered (planned_ok filed).1 (fun _ => context_eq (opening filed)) evaluated

theorem plan_changes (filed : Bool) : (plan filed).changes = planned filed := by
  simp only [plan, Plan.ofEntries]

theorem plan_fetched (filed : Bool) : (plan filed).fetched.records ≠ [] := List.cons_ne_nil _ _

theorem exists_first_run (filed : Bool) : ∃ report after, (plan filed).IsCarriedOut report after :=
  (plan filed).isCarriedOut rfl (fun state _ => accepts _ state) fun _ =>
    let ⟨after, saved, _⟩ := replace_state _
    ⟨after, saved⟩

theorem rules_loaded {filed : Bool} {report : SyncReport} {after : World (Nat × List Json)}
    (carried : (plan filed).IsCarriedOut report after) :
    options.rulesIn after.files = .ok rules := by
  have stored := carried.filed
  obtain ⟨replaced, saved, kept⟩ := replace_state
    ((opening filed).state.advance (plan filed).fetched.watermark).encode
  rw [Filed, if_neg (plan_fetched filed)] at stored
  have same : after.files = replaced := (Prod.mk.inj (stored.symm.trans saved)).2
  exact load_rules (same ▸ kept)

theorem records_distinct (filed : Bool) :
    ((archive.records (start filed).service).map Json.storedId).Nodup := List.nodup_singleton _

theorem lists (query : EntryQuery) (state : Nat × List Json) : archive.Lists query state :=
  ⟨some "seen", rfl⟩

def answer : FetchResult := ⟨storeAll (planned false) [record false], some "seen"⟩

def reread : List Entry := (Entry.ofRecords answer.records).toOption.getD []

def more : List EntryChange := (changes rules.rules context reread).toOption.getD []

theorem reread_ok : Entry.ofRecords answer.records = .ok reread ∧
    changes rules.rules context reread = .ok more := by
  have readable : (Entry.ofRecords answer.records).isOk = true := by decide +kernel
  have evaluable : (changes rules.rules context reread).isOk = true := by decide +kernel
  exact ⟨Except.eq_ok_getD readable [], Except.eq_ok_getD evaluable []⟩

theorem exists_second_run {report : SyncReport} {after : World (Nat × List Json)}
    (carried : (plan false).IsCarriedOut report after) :
    ∃ again last, outcome (runSync service options.full) after = (.ok again, last) ∧
      again.changes = more ∧
      last.replacements = after.replacements ++ more.map EntryChange.replacement := by
  obtain ⟨stored, loaded⟩ := carried.filed.exists_stateIn (opening false)
  let next : Opening options.full after.files := ⟨rules, stored, rules_loaded carried, loaded⟩
  have records := archive.records_of_carriedOut carried
  rw [plan_changes] at records
  have answered :
      (service.fetchAll .entry (some next.query) after.service).result = .ok answer := by
    change Except.ok (FetchResult.mk (archive.records after.service) (some "seen")) = _
    rw [records]
    rfl
  have evaluated : changes next.rules.rules context reread = .ok more := reread_ok.2
  let again : Plan service next :=
    .ofEntries answered reread_ok.1 (fun _ => context_eq next) evaluated
  have planned_more : again.changes = more := by simp only [again, Plan.ofEntries]
  obtain ⟨report, last, carriedAgain⟩ := again.isCarriedOut rfl (fun state _ => accepts _ state)
    fun _ => carried.filed.replace_again (plan_fetched false) _
  obtain ⟨ready, prepared, _, told⟩ := carriedAgain.made
  refine ⟨report, last, carriedAgain.done, carriedAgain.changes.trans planned_more, ?_⟩
  rw [told.replacements, prepared.replacements, planned_more]

end Coffee

/-- The renamed entry is lunch now, and a second run files it. -/
theorem coffee_is_changed_again : ∃ report after again last,
    ((Coffee.archive.records (Coffee.start false).service).map Json.storedId).Nodup ∧
      Coffee.archive.Lists (Coffee.opening false).query (Coffee.start false).service ∧
      outcome (runSync Coffee.service Coffee.options) (Coffee.start false) = (.ok report, after) ∧
      Coffee.options.rulesIn after.files = .ok Coffee.rules ∧
      Coffee.archive.Lists ⟨Coffee.options.first, Coffee.options.last, none⟩ after.service ∧
      outcome (runSync Coffee.service Coffee.options.full) after = (.ok again, last) ∧
      again.changes ≠ [] ∧ last.replacements ≠ after.replacements := by
  open Coffee in
  obtain ⟨report, after, carried⟩ := exists_first_run false
  obtain ⟨again, last, done, changed, told⟩ := exists_second_run carried
  have some_more : more ≠ [] := by
    have one : more.length = 1 := by decide +kernel
    exact List.ne_nil_of_length_pos (by omega)
  refine ⟨report, after, again, last, records_distinct false, lists _ _, carried.done,
    rules_loaded carried, lists _ _, done, changed ▸ some_more, ?_⟩
  rw [told, ne_eq, List.append_right_eq_self, List.map_eq_nil_iff]
  exact some_more

/-- Lunch that is filed already needs nothing more once it has its name. -/
theorem filed_coffee_is_left_alone : ∃ report after again last,
    outcome (runSync Coffee.service Coffee.options) (Coffee.start true) = (.ok report, after) ∧
      report.changes.length = 1 ∧
      outcome (runSync Coffee.service Coffee.options.full) after = (.ok again, last) ∧
      again.changes = [] ∧ again.applied = 0 ∧ last.replacements = after.replacements := by
  open Coffee in
  obtain ⟨report, after, carried⟩ := exists_first_run true
  have changes : report.changes = planned true := carried.changes.trans (plan_changes true)
  have described : ∀ change ∈ planned true, change.result.description.isSome = true := by
    have all : (planned true).all (·.result.description.isSome) = true := by decide +kernel
    simpa using all
  have content : ∀ change ∈ planned true,
      (changeOf? rules.rules context change.result).toOption.any Option.isNone = true := by
    have all : (planned true).all (fun change =>
        (changeOf? rules.rules context change.result).toOption.any Option.isNone) = true := by
      decide +kernel
    simpa using all
  have legible : ∀ change ∈ report.changes, change.result.IsLegible := by
    intro change member missing
    have present := described change (changes ▸ member)
    simp [missing] at present
  obtain ⟨idle, _⟩ := changed_again_only_when_renamed (opening true) archive rfl (lists _ _)
    (records_distinct true) carried.done legible (rules_loaded carried) (lists _ _)
  have settled : ∀ other, (opening true).context service = .ok other →
      ∀ change ∈ report.changes, change.diff.description ≠ none →
        change.IsSettled rules.rules other := by
    intro other looked change member _
    obtain rfl : context = other := Except.ok.inj ((context_eq _).symm.trans looked)
    have nothing := content change (changes ▸ member)
    apply isSettled_of_content
    cases found : changeOf? rules.rules context change.result with
    | error error => simp [found, Except.toOption] at nothing
    | ok change? => simp_all [Except.toOption]
  obtain ⟨again, last, done, unchanged, unapplied, _, told, _⟩ := idle settled
  refine ⟨report, after, again, last, carried.done, ?_, done, unchanged, unapplied, told⟩
  rw [changes]
  decide +kernel

end LedgerRules
