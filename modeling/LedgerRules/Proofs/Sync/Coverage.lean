import Mathlib.Data.Nat.Basic
import LedgerRules.Proofs.Ledger.Records
import LedgerRules.Proofs.Ledger.Stamps
import LedgerRules.Proofs.Rules.Changes
import LedgerRules.Proofs.Sync.Planned
import LedgerRules.Proofs.Sync.Provenance

/-!
What incremental runs see of a ledger that keeps changing. Every version of an entry is evaluated
by the first run after it that moves the cursor, as long as the range of that run has the entry's
day in it; a run with another range moves the cursor past the version, and only a run that asks for
everything sees it after that.
-/

namespace LedgerRules

open Effect Sync

section Coverage

variable {σ : Type} {service : LedgerService σ} {Stamp : Type} [LinearOrder Stamp]

namespace StampedLedger

/-- The call has fetched a version that its range covers, and its rules have been applied to it. -/
def Evaluates (ledger : StampedLedger service Stamp) (call : Call σ) (version : Version Stamp) :
    Prop :=
  version ∈ ledger.versions call.start ∧
    version.date.isWithin call.options.first call.options.last ∧
    ∃ (opening : Opening call.options call.before.files) (fetched : FetchResult) (entry : Entry)
      (context : Context) (change? : Option EntryChange),
      (call.service.fetchAll .entry (some opening.query) call.start).result = .ok fetched ∧
      version.record ∈ fetched.records ∧ Entry.ofRecord version.record = .ok entry ∧
      opening.context call.service = .ok context ∧
      changeOf? opening.rules.rules context entry = .ok change?

def Unreached (ledger : StampedLedger service Stamp) (since : Option String)
    (version : Version Stamp) : Prop :=
  since = none ∨ ∃ mark, since = some (ledger.cursor mark) ∧ mark < version.stamp

/-- The call has moved the cursor past a version that its range does not cover. -/
def PassesBy (ledger : StampedLedger service Stamp) (call : Call σ) (version : Version Stamp) :
    Prop :=
  HasSaved call.options call.ending.1 ∧ version ∈ ledger.versions call.start ∧
    ¬ version.date.isWithin call.options.first call.options.last ∧
    ∃ opening : Opening call.options call.files, ledger.Unreached opening.state.since version

end StampedLedger

def StoredState (files : Files) (path : Path) (property : SyncState → Prop) : Prop :=
  ∀ content stored, files.node? path = some (.file content) →
    SyncState.decode path content = .ok stored → property stored

theorem StoredState.of_load {files : Files} {path : Path} {property : SyncState → Prop}
    (known : StoredState files path property) (empty : property {}) {stored : SyncState}
    (loaded : SyncState.load files path = .ok stored) : property stored := by
  rcases load_ok loaded with rfl | ⟨content, present, decoded⟩
  · exact empty
  · exact known content stored present decoded

/-- Edits and completed live runs in any order, the last run first. The rules stay the same, and
the stored state belongs to the runs; at first it has no cursor for the rules. -/
inductive Interleaving (ledger : StampedLedger service Stamp) (rules : RuleSet) (path : Path) :
    List (Call σ) → σ → Files → Prop where
  | start {state : σ} {files : Files}
      (fresh : StoredState files path fun stored =>
        (stored.resolve rules.fingerprint).since = none) :
      Interleaving ledger rules path [] state files
  | between {calls : List (Call σ)} {state later : σ} {files laterFiles : Files}
      (past : Interleaving ledger rules path calls state files)
      (edits : Edits (ledger.versions state) (ledger.versions later))
      (undisturbed : laterFiles.node? path = files.node? path) :
      Interleaving ledger rules path calls later laterFiles
  | run {calls : List (Call σ)} {state : σ} {files : Files} {options : SyncOptions}
      {report : SyncReport} {after : World σ}
      (past : Interleaving ledger rules path calls state files)
      (shared : options.stateFile = path) (live : options.isDryRun = false)
      (unchanged : options.rulesIn files = .ok rules)
      (done : (Call.mk service options state files).ending = (.ok report, after)) :
      Interleaving ledger rules path (⟨service, options, state, files⟩ :: calls)
        after.service after.files

namespace StampedLedger

variable (ledger : StampedLedger service Stamp)

/-- Everything up to a mark has been evaluated or passed by. -/
structure Behind (calls : List (Call σ)) (state : σ) (mark : Stamp) : Prop where
  reached : ∃ version ∈ ledger.versions state, mark ≤ version.stamp
  settled : ∀ version ∈ ledger.versions state, version.stamp ≤ mark →
    (∃ call ∈ calls, ledger.Evaluates call version) ∨ ∃ call ∈ calls, ledger.PassesBy call version

/-- The cursor of a state, if the rules leave one, is a mark that everything is behind of. -/
def IsBehind (rules : RuleSet) (calls : List (Call σ)) (state : σ) (stored : SyncState) : Prop :=
  ∀ cursor, (stored.resolve rules.fingerprint).since = some cursor →
    ∃ mark, cursor = ledger.cursor mark ∧ ledger.Behind calls state mark

variable {ledger}

theorem isBehind_of_load {rules : RuleSet} {calls : List (Call σ)} {state : σ} {files : Files}
    {path : Path} (known : StoredState files path (ledger.IsBehind rules calls state))
    {stored : SyncState} (loaded : SyncState.load files path = .ok stored) :
    ledger.IsBehind rules calls state stored := by
  apply known.of_load _ loaded
  intro cursor held
  exact absurd held (by simp [SyncState.resolve])

theorem IsBehind.unreached_or_settled {rules : RuleSet} {calls : List (Call σ)} {state : σ}
    {stored : SyncState} (behind : ledger.IsBehind rules calls state stored)
    {version : Version Stamp} (member : version ∈ ledger.versions state) :
    ledger.Unreached (stored.resolve rules.fingerprint).since version ∨
      (∃ call ∈ calls, ledger.Evaluates call version) ∨
      ∃ call ∈ calls, ledger.PassesBy call version := by
  cases held : (stored.resolve rules.fingerprint).since with
  | none => exact .inl (.inl rfl)
  | some cursor =>
      obtain ⟨mark, rfl, behindMark⟩ := behind cursor held
      rcases lt_or_ge mark version.stamp with larger | below
      · exact .inl (.inr ⟨mark, rfl, larger⟩)
      · exact .inr (behindMark.settled version member below)

theorem Behind.succeeds {calls : List (Call σ)} {state later : σ} {mark : Stamp}
    (behind : ledger.Behind calls state mark)
    (succeeds : Succeeds (ledger.versions state) (ledger.versions later)) :
    ledger.Behind calls later mark := by
  obtain ⟨newest, present, bound⟩ := behind.reached
  refine ⟨?_, ?_⟩
  · obtain ⟨version, member, further⟩ := succeeds.reaches newest present
    exact ⟨version, member, le_trans bound further⟩
  · intro version member below
    rcases succeeds.old_or_larger version member with old | larger
    · exact behind.settled version old below
    · exact absurd below (not_le_of_gt (lt_of_le_of_lt bound (larger newest present)))

theorem Behind.cons {calls : List (Call σ)} {state : σ} {mark : Stamp}
    (behind : ledger.Behind calls state mark) (call : Call σ) :
    ledger.Behind (call :: calls) state mark := by
  refine ⟨behind.reached, fun version member below => ?_⟩
  rcases behind.settled version member below with
    ⟨other, present, evaluates⟩ | ⟨other, present, passes⟩
  · exact .inl ⟨other, List.mem_cons_of_mem _ present, evaluates⟩
  · exact .inr ⟨other, List.mem_cons_of_mem _ present, passes⟩

variable (ledger)

theorem succeeds_runSync (options : SyncOptions) (before : World σ) :
    Succeeds (ledger.versions before.service)
      (ledger.versions (outcome (runSync service options) before).2.service) := by
  let older : World σ → World σ → Prop := fun before after =>
    Succeeds (ledger.versions before.service) (ledger.versions after.service)
  have preorder : IsPreorder (World σ) older :=
    { refl := fun _ => refl_of Succeeds _, trans := fun _ _ _ => trans_of Succeeds }
  have kept : Kept service (fun _ => True) older :=
    ⟨fun _ _ _ => refl_of Succeeds _,
      fun world kind query => (ledger.edits_fetchAll kind query world.service).succeeds⟩
  have replaced : KeptByReplacing service older := fun world id record =>
    (ledger.edits_replaceEntry id record world.service).succeeds
  exact keeps_runSync kept replaced (fun _ _ => refl_of Succeeds _) options before

variable {ledger} {options : SyncOptions} {state : σ} {files : Files} {report : SyncReport}
  {after : World σ}

theorem evaluates_of_unreached
    (completed : Completed service options ⟨state, files, []⟩ report after)
    {version : Version Stamp} (member : version ∈ ledger.versions state)
    (within : version.date.isWithin options.first options.last)
    (unreached : ledger.Unreached completed.opening.query.since version) :
    ledger.Evaluates ⟨service, options, state, files⟩ version := by
  have fetched : version.record ∈ completed.fetched.records := by
    rcases unreached with all | ⟨mark, since, larger⟩
    · exact (ledger.fetched_all completed.answered all _).mpr ⟨version, member, within, rfl⟩
    · exact (ledger.fetched_since completed.answered since _).mpr
        ⟨version, member, within, larger, rfl⟩
  obtain ⟨entry, present, read⟩ := Entry.read_of_mem completed.entries_read _ fetched
  rcases completed.settled with ⟨empty, _⟩ | ⟨_, ⟨context, catalogs, planned⟩, _⟩
  · rw [empty] at present
    exact absurd present (by simp)
  · obtain ⟨change?, evaluated⟩ := evaluated_of_changes_ok planned entry present
    exact ⟨member, within, completed.opening, completed.fetched, entry, context, change?,
      completed.answered, fetched, read, catalogs, evaluated⟩

theorem Unreached.query {opening : Opening options files} {version : Version Stamp}
    (unreached : ledger.Unreached opening.state.since version) :
    ledger.Unreached opening.query.since version := by
  cases full : options.isFull with
  | true => exact .inl (opening.since_query_of_full full)
  | false =>
      rw [opening.since_query_of_not_full full]
      exact unreached

theorem exists_watermark {rules : RuleSet} {calls : List (Call σ)}
    (completed : Completed service options ⟨state, files, []⟩ report after)
    (unchanged : completed.opening.rules = rules)
    (behind : ledger.IsBehind rules calls state completed.opening.stored)
    (filled : completed.entries ≠ []) :
    ∃ newest ∈ ledger.versions state,
      (∀ version ∈ ledger.versions state, version.stamp ≤ newest.stamp) ∧
      completed.fetched.watermark = some (ledger.cursor newest.stamp) := by
  have some_version : ledger.versions state ≠ [] := by
    obtain ⟨record, present⟩ : ∃ record, record ∈ completed.fetched.records := by
      apply List.exists_mem_of_ne_nil
      intro empty
      have read := completed.entries_read
      rw [empty] at read
      exact filled (Except.ok.inj read).symm
    cases since : completed.opening.query.since with
    | none =>
        obtain ⟨version, member, _⟩ :=
          (ledger.fetched_all completed.answered since record).mp present
        exact List.ne_nil_of_mem member
    | some cursor =>
        have held : completed.opening.state.since = some cursor := by
          cases full : options.isFull with
          | true => simp [completed.opening.since_query_of_full full] at since
          | false => rw [← completed.opening.since_query_of_not_full full, since]
        obtain ⟨mark, rfl, _⟩ := behind cursor (unchanged ▸ held)
        obtain ⟨version, member, _⟩ :=
          (ledger.fetched_since completed.answered since record).mp present
        exact List.ne_nil_of_mem member
  obtain ⟨newest, member, bound⟩ := exists_newest some_version
  exact ⟨newest, member, bound, ledger.fetched_watermark completed.answered newest member bound⟩

theorem Behind.of_saved {rules : RuleSet} {calls : List (Call σ)} {newest : Version Stamp}
    (completed : Completed service options ⟨state, files, []⟩ report after)
    (unchanged : completed.opening.rules = rules)
    (behind : ledger.IsBehind rules calls state completed.opening.stored)
    (saved : HasSaved options (Call.mk service options state files).ending.1)
    (member : newest ∈ ledger.versions state) :
    ledger.Behind (⟨service, options, state, files⟩ :: calls) state newest.stamp := by
  refine ⟨⟨newest, member, le_refl _⟩, fun version present _ => ?_⟩
  subst unchanged
  rcases behind.unreached_or_settled present with
    unreached | ⟨call, earlier, evaluates⟩ | ⟨call, earlier, passes⟩
  · cases within : version.date.isWithin options.first options.last with
    | true =>
        have evaluates := evaluates_of_unreached completed present within unreached.query
        exact .inl ⟨_, List.mem_cons_self, evaluates⟩
    | false =>
        exact .inr ⟨_, List.mem_cons_self, saved, present, by simp [within],
          completed.opening, unreached⟩
  · exact .inl ⟨call, List.mem_cons_of_mem _ earlier, evaluates⟩
  · exact .inr ⟨call, List.mem_cons_of_mem _ earlier, passes⟩

theorem IsBehind.of_saved {rules : RuleSet} {calls : List (Call σ)}
    (completed : Completed service options ⟨state, files, []⟩ report after)
    (unchanged : completed.opening.rules = rules)
    (behind : ledger.IsBehind rules calls state completed.opening.stored)
    (saved : HasSaved options (Call.mk service options state files).ending.1)
    (filled : completed.entries ≠ [])
    (succeeds : Succeeds (ledger.versions state) (ledger.versions after.service)) :
    ledger.IsBehind rules (⟨service, options, state, files⟩ :: calls) after.service
      (completed.opening.state.advance completed.fetched.watermark) := by
  obtain ⟨newest, member, _, watermark⟩ := exists_watermark completed unchanged behind filled
  intro cursor held
  have hash := completed.opening.rulesHash_advance completed.fetched.watermark
  rw [unchanged] at hash
  rw [SyncState.resolve, if_pos hash, SyncState.since_advance, watermark] at held
  exact ⟨newest.stamp, (Option.some.inj held).symm,
    (Behind.of_saved completed unchanged behind saved member).succeeds succeeds⟩

end StampedLedger

open StampedLedger

variable {ledger : StampedLedger service Stamp} {rules : RuleSet} {path : Path}

theorem Completed.rules_eq {options : SyncOptions} {before : World σ} {report : SyncReport}
    {after : World σ} (completed : Completed service options before report after)
    (loaded : options.rulesIn before.files = .ok rules) :
    completed.opening.rules = rules :=
  Except.ok.inj (completed.opening.rules_loaded.symm.trans loaded)

theorem Interleaving.isBehind {calls : List (Call σ)} {state : σ} {files : Files}
    (interleaving : Interleaving ledger rules path calls state files) :
    StoredState files path (ledger.IsBehind rules calls state) := by
  induction interleaving with
  | start fresh =>
      intro content stored present decoded cursor held
      rw [fresh content stored present decoded] at held
      exact absurd held (by simp)
  | between past edits undisturbed ih =>
      intro content stored present decoded cursor held
      rw [undisturbed] at present
      obtain ⟨mark, same, behind⟩ := ih content stored present decoded cursor held
      exact ⟨mark, same, behind.succeeds edits.succeeds⟩
  | @run calls state files options report after past shared live unchanged done ih =>
      have ran : outcome (runSync service options) ⟨state, files, []⟩ = (.ok report, after) := done
      have succeeds := ledger.succeeds_runSync options ⟨state, files, []⟩
      rw [ran] at succeeds
      obtain ⟨completed⟩ := Completed.of_done ran
      have rulesEq := completed.rules_eq unchanged
      have behind := isBehind_of_load ih
        (shared ▸ (SyncOptions.stateIn_cases completed.opening.state_loaded).2.2)
      -- Without a save the old cursor stays; the ledger of the run only has newer versions.
      have unsaved (same : after.files = files) : StoredState after.files path
          (ledger.IsBehind rules (⟨service, options, state, files⟩ :: calls) after.service) := by
        intro content stored present decoded cursor held
        rw [same] at present
        obtain ⟨mark, cursorEq, behindMark⟩ := ih content stored present decoded cursor held
        exact ⟨mark, cursorEq, (behindMark.cons _).succeeds succeeds⟩
      rcases completed.settled with ⟨_, _, _, same⟩ | ⟨filled, _, settled⟩
      · exact unsaved same
      cases settled with
      | shown _ _ same => exact unsaved same
      | saved _ saved _ kept =>
          have hasSaved : HasSaved options (Call.mk service options state files).ending.1 := by
            rw [done]
            exact completed.hasSaved filled live saved
          intro content stored present decoded
          have newFile := ((Files.find_eq_ok _ _ _).mp kept).2
          rw [shared, present] at newFile
          obtain rfl : content = (completed.opening.state.advance _).encode := by
            simpa using newFile
          rw [SyncState.decode_encode] at decoded
          rw [← Except.ok.inj decoded]
          exact IsBehind.of_saved completed rulesEq behind hasSaved filled succeeds

theorem Interleaving.last_run {call : Call σ} {earlier : List (Call σ)} {state : σ} {files : Files}
    (interleaving : Interleaving ledger rules path (call :: earlier) state files) :
    Interleaving ledger rules path earlier call.start call.files ∧ call.service = service ∧
      call.path = path ∧
      call.options.rulesIn call.files = .ok rules ∧
      ∃ report after, call.ending = (.ok report, after) := by
  generalize calls : call :: earlier = all at interleaving
  induction interleaving with
  | start fresh => simp at calls
  | between past edits undisturbed ih => exact ih calls
  | run past shared live unchanged done ih =>
      obtain ⟨rfl, rfl⟩ := List.cons.inj calls
      exact ⟨past, rfl, shared, unchanged, _, _, done⟩

/-- Right after a run every entry in its range has been evaluated in the version it had when the
run fetched, unless the run asked with a cursor that an earlier run had moved past that version
without having the entry's day in its range. -/
theorem evaluated_or_passed_by {call : Call σ} {earlier : List (Call σ)} {state : σ} {files : Files}
    (interleaving : Interleaving ledger rules path (call :: earlier) state files) :
    ∀ version ∈ ledger.versions call.start,
      version.date.isWithin call.options.first call.options.last →
      (∃ run ∈ call :: earlier, ledger.Evaluates run version) ∨
        (call.options.isFull = false ∧ ∃ run ∈ earlier, ledger.PassesBy run version) := by
  intro version member within
  obtain ⟨past, sameService, shared, unchanged, report, after, done⟩ := interleaving.last_run
  obtain ⟨callService, options, start, callFiles⟩ := call
  subst sameService
  obtain ⟨completed⟩ := Completed.of_done done
  have loaded : SyncState.load callFiles path = .ok completed.opening.stored :=
    shared ▸ (SyncOptions.stateIn_cases completed.opening.state_loaded).2.2
  have behind := isBehind_of_load past.isBehind loaded
  have rulesEq := completed.rules_eq unchanged
  subst rulesEq
  rcases behind.unreached_or_settled member with
    unreached | ⟨run, present, evaluates⟩ | ⟨run, present, passes⟩
  · have evaluates := evaluates_of_unreached completed member within unreached.query
    exact .inl ⟨_, List.mem_cons_self, evaluates⟩
  · exact .inl ⟨run, List.mem_cons_of_mem _ present, evaluates⟩
  · cases full : options.isFull with
    | true =>
        have everything := completed.opening.since_query_of_full full
        have evaluates := evaluates_of_unreached completed member within (.inl everything)
        exact .inl ⟨_, List.mem_cons_self, evaluates⟩
    | false => exact .inr ⟨rfl, run, present, passes⟩

end Coverage

/-! The two calls of `TwoMonths`, of which the second never sees the older entry. -/

namespace TwoMonths

theorem mem_records_iff {query : EntryQuery} {fetched : FetchResult}
    (answered : (service.fetchAll .entry (some query) ()).result = .ok fetched) (record : Json) :
    record ∈ fetched.records ↔
      ∃ version ∈ versions, (version.date.isWithin query.first query.last ∧
        query.since.all fun since => decide (since.length < version.stamp)) ∧
        version.record = record := by
  obtain rfl : _ = fetched := Except.ok.inj answered
  simp only [found, List.mem_map, List.mem_filter, Bool.and_eq_true, and_assoc]

def ledger : StampedLedger service Nat where
  versions _ := versions
  cursor := cursor
  fetched_all answered since record := by
    rw [mem_records_iff answered, since]
    simp
  fetched_since answered since record := by
    rw [mem_records_iff answered, since]
    simp [cursor, and_assoc]
  fetched_watermark answered newest member bound := by
    obtain rfl := Except.ok.inj answered
    have largest : 2 ≤ newest.stamp := bound _ List.mem_cons_self
    have small : ∀ version ∈ versions, version.stamp ≤ 2 := by decide
    rw [Nat.le_antisymm (small newest member) largest]
  edits_fetchAll _ _ _ := .refl
  edits_replaceEntry _ _ _ := .refl

theorem interleaving : ∃ state files,
    Interleaving ledger rules statePath [secondCall, firstCall] state files := by
  obtain ⟨firstReport, firstAfter, firstDone, same⟩ := firstCall_ending
  obtain ⟨secondReport, secondAfter, secondDone, _⟩ := secondCall_ending
  have fresh : StoredState blank statePath fun stored =>
      (stored.resolve rules.fingerprint).since = none := by
    intro content stored present
    have absent : blank.node? statePath = none := by decide
    rw [absent] at present
    exact absurd present (by simp)
  have first : Interleaving ledger rules statePath [firstCall] () firstAfter.files :=
    .run (.start fresh) january_stateFile rfl firstOpening.rules_loaded firstDone
  rw [same] at first
  exact ⟨_, _, .run first february_stateFile rfl secondOpening.rules_loaded secondDone⟩

end TwoMonths

/-- An entry that the range of an earlier run did not have may never be evaluated. -/
theorem unevaluated_after_other_range :
    ∃ (service : LedgerService Unit) (ledger : StampedLedger service Nat) (rules : RuleSet)
      (path : Path) (call : Call Unit) (earlier : List (Call Unit)) (state : Unit) (files : Files),
      Interleaving ledger rules path (call :: earlier) state files ∧
        ∃ version ∈ ledger.versions call.start,
          version.date.isWithin call.options.first call.options.last ∧
          ¬ ∃ run ∈ call :: earlier, ledger.Evaluates run version := by
  open TwoMonths in
  obtain ⟨state, files, interleaving⟩ := interleaving
  refine ⟨_, _, _, _, _, _, state, files, interleaving,
    ⟨record "food" "2024-02-10", ⟨2024, 2, 10, by decide⟩, 1⟩,
    List.mem_cons_of_mem _ List.mem_cons_self, by decide, ?_⟩
  rintro ⟨run, member, _, within, opening, fetched, _, _, _, answered, present, _⟩
  rcases List.mem_cons.mp member with rfl | member
  · rw [opening.eq_of_same secondOpening] at answered
    rw [← Except.ok.inj (secondOpening_answer.symm.trans answered)] at present
    exact absurd present (by simp)
  · obtain rfl := List.mem_singleton.mp member
    exact absurd within (by decide)

/-- The same two runs: the later entry is not in the range of the first run, which has moved the
cursor past it. -/
theorem twoMonths_evaluated_or_passed_by :
    ∃ (state : Unit) (files : Files),
      Interleaving TwoMonths.ledger TwoMonths.rules TwoMonths.statePath
          [TwoMonths.secondCall, TwoMonths.firstCall] state files ∧
        ∀ version ∈ TwoMonths.versions,
          version.date.isWithin TwoMonths.february.first TwoMonths.february.last →
          (∃ run ∈ [TwoMonths.secondCall, TwoMonths.firstCall],
              TwoMonths.ledger.Evaluates run version) ∨
            (TwoMonths.february.isFull = false ∧
              ∃ run ∈ [TwoMonths.firstCall], TwoMonths.ledger.PassesBy run version) := by
  obtain ⟨state, files, interleaving⟩ := TwoMonths.interleaving
  exact ⟨state, files, interleaving, evaluated_or_passed_by interleaving⟩

end LedgerRules
