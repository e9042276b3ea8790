import LedgerRules.Proofs.Ledger.Stamps
import LedgerRules.Proofs.Sync.Planned
import LedgerRules.Proofs.Sync.StateFile

/-!
Where a cursor comes from. Calls of any kind may follow one another on a state file that nobody
else writes; between them, and from call to call, everything else may change. A cursor in the file
is always the watermark of a call that saved it, under the rules whose fingerprint stands beside
it, and no call under other rules has saved since.
-/

namespace LedgerRules

open Effect Sync

variable {σ : Type}

structure Call (σ : Type) where
  service : LedgerService σ
  options : SyncOptions
  start : σ
  files : Files

namespace Call

def before (call : Call σ) : World σ := ⟨call.start, call.files, []⟩

def ending (call : Call σ) : Except SyncError SyncReport × World σ :=
  outcome (runSync call.service call.options) call.before

def path (call : Call σ) : Path := call.options.stateFile

def Saved (call : Call σ) (rulesHash : String) (watermark : Option String) : Prop :=
  HasSaved call.options call.ending.1 ∧
    ∃ (opening : Opening call.options call.files) (fetched : FetchResult),
      (call.service.fetchAll .entry (some opening.query) call.start).result = .ok fetched ∧
      opening.rules.fingerprint = rulesHash ∧ fetched.watermark = watermark

end Call

/-- Calls that share a state file, the last one first, and the files after them. At first there is
no state file, and between two calls nothing happens to it. -/
inductive History (path : Path) : List (Call σ) → Files → Prop where
  | start {files : Files} (absent : files.node? path = none) : History path [] files
  | next {calls : List (Call σ)} {files : Files} (past : History path calls files) (call : Call σ)
      (shared : call.path = path) (undisturbed : call.files.node? path = files.node? path) :
      History path (call :: calls) call.ending.2.files

/-- The cursor of a state, if it has one, is the watermark of a call that saved under the rules of
the state, and all later calls that saved did so under the same rules. -/
def Earned (calls : List (Call σ)) (state : SyncState) : Prop :=
  ∀ cursor, state.since = some cursor →
    ∃ rulesHash, state.rulesHash = some rulesHash ∧
      ∃ later call earlier, calls = later ++ call :: earlier ∧
        call.Saved rulesHash (some cursor) ∧
        ∀ other ∈ later, ∀ otherHash watermark, other.Saved otherHash watermark →
          otherHash = rulesHash

theorem Earned.of_since_none {calls : List (Call σ)} {state : SyncState}
    (fresh : state.since = none) : Earned calls state := by
  intro cursor held
  rw [fresh] at held
  exact absurd held (by simp)

theorem Earned.cons {calls : List (Call σ)} {state : SyncState} (earned : Earned calls state)
    (call : Call σ)
    (agrees : ∀ rulesHash watermark, call.Saved rulesHash watermark →
      state.rulesHash = some rulesHash) : Earned (call :: calls) state := by
  intro cursor held
  obtain ⟨rulesHash, hashed, later, saver, earlier, split, saved, same⟩ := earned cursor held
  refine ⟨rulesHash, hashed, call :: later, saver, earlier, by rw [split]; rfl, saved, ?_⟩
  intro other member otherHash watermark otherSaved
  rcases List.mem_cons.mp member with rfl | member
  · have agreed := agrees otherHash watermark otherSaved
    rw [hashed] at agreed
    exact (Option.some.inj agreed).symm
  · exact same other member otherHash watermark otherSaved

def Accounted (path : Path) (calls : List (Call σ)) (files : Files) : Prop :=
  files.node? path = none ∨
    ∃ state : SyncState, files.node? path = some (.file state.encode) ∧ Earned calls state

theorem load_ok {files : Files} {path : Path} {state : SyncState}
    (loaded : SyncState.load files path = .ok state) :
    state = {} ∨ ∃ content, files.node? path = some (.file content) ∧
      SyncState.decode path content = .ok state := by
  simp only [SyncState.load, Files.hasNode, Files.read] at loaded
  cases found : files.find path with
  | error error =>
      cases error <;> simp_all [bind, Except.bind, pure, Except.pure, Except.mapError]
  | ok node =>
      have stored := ((Files.find_eq_ok files path node).mp found).2
      cases node with
      | directory => simp_all [bind, Except.bind, Except.mapError]
      | file content =>
          simp only [found, bind, Except.bind, Except.mapError, if_true] at loaded
          exact .inr ⟨content, stored, loaded⟩

theorem Accounted.earned_of_load {path : Path} {calls : List (Call σ)} {files : Files}
    (accounted : Accounted path calls files) {state : SyncState}
    (loaded : SyncState.load files path = .ok state) : Earned calls state := by
  rcases load_ok loaded with rfl | ⟨content, stored, decoded⟩
  · exact Earned.of_since_none rfl
  rcases accounted with absent | ⟨held, kept, earned⟩
  · rw [absent] at stored
    exact absurd stored (by simp)
  · rw [kept] at stored
    obtain rfl : held.encode = content := by simpa using stored
    rw [SyncState.decode_encode] at decoded
    exact Except.ok.inj decoded ▸ earned

/-- A call that saves leaves an earned cursor: the watermark of its own fetch, or else the stored
cursor, if that was reached under the same rules. -/
theorem Earned.of_saving {calls : List (Call σ)} {call : Call σ}
    (accounted : Accounted call.path calls call.files)
    (saved : HasSaved call.options call.ending.1)
    (saving : Saving call.service call.options call.before call.ending.2) :
    Earned (call :: calls) (saving.opening.state.advance saving.fetched.watermark) := by
  have hash := saving.opening.rulesHash_advance saving.fetched.watermark
  cases mark : saving.fetched.watermark with
  | some watermark =>
      intro cursor held
      rw [mark] at hash
      obtain rfl : watermark = cursor := by simpa [SyncState.since_advance] using held
      refine ⟨_, hash, [], call, calls, rfl, ⟨saved, saving.opening, saving.fetched,
        saving.answered, rfl, mark⟩, fun other impossible => absurd impossible (by simp)⟩
  | none =>
      -- The cursor that stays was stored under the same rules, or there is none.
      rw [mark] at hash
      have kept : Earned calls saving.opening.state := by
        rcases saving.opening.stored.resolve_cases saving.opening.rules.fingerprint with
          ⟨_, same⟩ | fresh
        · rw [Opening.state, same]
          exact accounted.earned_of_load (SyncOptions.stateIn_cases saving.opening.state_loaded).2.2
        · exact Earned.of_since_none fresh
      apply kept.cons
      rintro rulesHash watermark ⟨_, opening, _, _, rfl, _⟩
      rw [opening.eq_of_same saving.opening]
      exact hash

theorem Accounted.next {calls : List (Call σ)} {call : Call σ}
    (accounted : Accounted call.path calls call.files) :
    Accounted call.path (call :: calls) call.ending.2.files := by
  rcases hasSaved_cases call.service call.options call.before with
    ⟨unsaved, untouched⟩ | ⟨saved, ⟨saving⟩⟩
  · have unchanged : call.ending.2.files.node? call.path = call.files.node? call.path :=
      untouched.node?_eq
    rw [Accounted, unchanged]
    rcases accounted with absent | ⟨state, held, earned⟩
    · exact .inl absent
    · exact .inr ⟨state, held, earned.cons call fun _ _ saved => absurd saved.1 unsaved⟩
  · have stored := ((Files.find_eq_ok _ _ _).mp saving.stored).2
    exact .inr ⟨_, stored, Earned.of_saving accounted saved saving⟩

theorem History.accounted {path : Path} {calls : List (Call σ)} {files : Files}
    (history : History path calls files) : Accounted path calls files := by
  induction history with
  | start absent => exact .inl absent
  | next past call shared undisturbed ih =>
      subst shared
      apply Accounted.next
      rwa [Accounted, undisturbed]

theorem Call.since_of_asked {call : Call σ} {query : EntryQuery}
    (asked : query ∈ call.ending.2.entryQueries) :
    query.since = none ∨
      (call.options.isFull = false ∧
        ∃ opening : Opening call.options call.files,
          opening.stored.rulesHash = some opening.rules.fingerprint ∧
          query.since = opening.stored.since) := by
  rcases isEmpty_or_nonempty (Opening call.options call.files) with unopened | ⟨⟨opening⟩⟩
  · obtain ⟨error, failed⟩ : ∃ error, call.ending = (.error error, call.before) :=
      runSync_unopened call.service unopened
    rw [failed] at asked
    simp [Call.before, World.entryQueries] at asked
  · have opened : Opening call.options call.before.files := opening
    have queries := entryQueries_runSync call.service opened
    rw [← Call.ending] at queries
    rw [queries] at asked
    obtain rfl : query = opened.query := by simpa [Call.before, World.entryQueries] using asked
    cases full : call.options.isFull with
    | true => exact .inl (opened.since_query_of_full full)
    | false =>
        have since := opened.since_query_of_not_full full
        rcases opened.stored.resolve_cases opened.rules.fingerprint with ⟨hash, same⟩ | fresh
        · exact .inr ⟨rfl, opened, hash, since.trans (congrArg SyncState.since same)⟩
        · exact .inl (since.trans fresh)

/-- A stored cursor was earned, and a call asks with the stored cursor of its own rules or with
none. -/
theorem cursor_earned_and_asked {path : Path} {calls : List (Call σ)} {files : Files}
    (history : History path calls files) :
    (∀ state, SyncState.load files path = .ok state → Earned calls state) ∧
      ∀ call ∈ calls, ∀ query ∈ call.ending.2.entryQueries,
        query.since = none ∨
          (call.options.isFull = false ∧
            ∃ opening : Opening call.options call.files,
              opening.stored.rulesHash = some opening.rules.fingerprint ∧
              query.since = opening.stored.since) :=
  ⟨fun _ loaded => history.accounted.earned_of_load loaded,
    fun _ _ _ asked => Call.since_of_asked asked⟩

/-! Two calls on a ledger with two entries, the older of them in the later month, and no rules at
all: the first call saves a cursor, and the second one asks with it. -/

namespace TwoMonths

def record (id day : String) : Json :=
  .object
    [("id", .string id), ("amount", .integer (-5)), ("currency", .object [("code", .string "EUR")]),
      ("date", .string day), ("account", .string "cash")]

def versions : List (Version Nat) :=
  [⟨record "rent" "2024-01-10", ⟨2024, 1, 10, by decide⟩, 2⟩,
    ⟨record "food" "2024-02-10", ⟨2024, 2, 10, by decide⟩, 1⟩]

def cursor (mark : Nat) : String := String.ofList (List.replicate mark '+')

def found (query : EntryQuery) : List (Version Nat) :=
  versions.filter fun version =>
    version.date.isWithin query.first query.last &&
      query.since.all fun since => decide (since.length < version.stamp)

def service : LedgerService Unit where
  fetchAll kind query _ :=
    match kind, query with
    | .entry, some query => ⟨.ok ⟨(found query).map (·.record), some (cursor 2)⟩, [], ()⟩
    | _, _ => ⟨.ok ⟨[], none⟩, [], ()⟩
  replaceEntry _ _ _ := ⟨.error (.transport ⟨"entries", 422, "Unprocessable Entity", none⟩), [], ()⟩

def rules : RuleSet := ⟨[], Sha256.hexDigest (Utf8.encode "null")⟩

def rulesPath : Path := ⟨false, ["rules.yaml"]⟩

def statePath : Path := ⟨false, ["state.json"]⟩

def month (first last : Date) : SyncOptions :=
  ⟨"rules.yaml", "state.json", first, last, false, false, .plain⟩

theorem january_begins : IsDay 2024 1 1 := by decide

theorem january_ends : IsDay 2024 1 31 := by decide

def january : SyncOptions := month ⟨2024, 1, 1, january_begins⟩ ⟨2024, 1, 31, january_ends⟩

def february : SyncOptions := month ⟨2024, 2, 1, by decide⟩ ⟨2024, 2, 29, by decide⟩

def blank : Files := ⟨[(rulesPath, .file [])]⟩

def seen : SyncState := ⟨some (cursor 2), some rules.fingerprint⟩

def savedFiles : Files := ⟨[(statePath, .file seen.encode), (rulesPath, .file [])]⟩

theorem load_rules {first last : Date} {files : Files}
    (found : files.find rulesPath = .ok (.file [])) :
    (month first last).rulesIn files = .ok rules := by
  have path : Platform.plain.path? "rules.yaml" = some rulesPath := by decide
  rw [SyncOptions.rulesIn_of_known path]
  exact loadRules_of_empty found

theorem january_stateFile : january.stateFile = statePath := by decide

theorem february_stateFile : february.stateFile = statePath := by decide

def firstCall : Call Unit := ⟨service, january, (), blank⟩

def secondCall : Call Unit := ⟨service, february, (), savedFiles⟩

def firstOpening : Opening january firstCall.before.files where
  rules := rules
  stored := {}
  rules_loaded := load_rules rfl
  state_loaded := SyncOptions.stateIn_of_absent (by decide) (by rw [january_stateFile]; rfl)

def secondOpening : Opening february secondCall.before.files where
  rules := rules
  stored := seen
  rules_loaded := load_rules rfl
  state_loaded := SyncOptions.stateIn_of_find (by decide) (by rw [february_stateFile]; rfl)

theorem firstCall_ending : ∃ report after, firstCall.ending = (.ok report, after) ∧
    after.files = savedFiles := by
  have readable : (Entry.ofRecords [record "rent" "2024-01-10"]).isOk = true := by decide +kernel
  cases read : Entry.ofRecords [record "rent" "2024-01-10"] with
  | error error => simp [read, Except.isOk, Except.toBool] at readable
  | ok entries =>
      have answered : (service.fetchAll .entry (some firstOpening.query) ()).result =
          .ok ⟨[record "rent" "2024-01-10"], some (cursor 2)⟩ := by rfl
      have looked (_ : entries ≠ []) :
          firstOpening.context service = .ok (.ofItems [] [] []) := by
        have listed : ∀ kind, kind ≠ .entry → ∀ state, ∃ watermark,
            (service.fetchAll kind none state).result = .ok ⟨[], watermark⟩ :=
          fun kind _ _ => ⟨none, by cases kind <;> rfl⟩
        rw [firstOpening.context_of_listed listed]
        rfl
      have nothing : changes rules.rules (.ofItems [] [] []) entries = .ok [] :=
        changes_eq_nil fun _ _ => rfl
      let plan : Plan service firstOpening := .ofEntries answered read looked nothing
      have saved : outcome (Files.replace january.stateFile
          (firstOpening.state.advance (some (cursor 2))).encode) blank = (.ok (), savedFiles) := by
        have advanced : firstOpening.state.advance (some (cursor 2)) = seen := rfl
        rw [advanced, january_stateFile]
        rfl
      obtain ⟨report, after, carried⟩ :=
        plan.isCarriedOut rfl (fun state _ => ⟨state, .nil⟩) fun _ => ⟨savedFiles, saved⟩
      have filed := carried.filed
      rw [Filed, if_neg (show plan.fetched.records ≠ [] from List.cons_ne_nil _ _)] at filed
      exact ⟨report, after, carried.done, (Prod.mk.inj (filed.symm.trans saved)).2⟩

theorem secondOpening_state : secondOpening.state = seen := by
  change seen.resolve rules.fingerprint = seen
  exact if_pos rfl

theorem secondOpening_answer : (service.fetchAll .entry (some secondOpening.query) ()).result =
    .ok ⟨[], some (cursor 2)⟩ := by
  rw [Opening.query, Opening.since, secondOpening_state]
  rfl

theorem secondCall_ending : ∃ report after, secondCall.ending = (.ok report, after) ∧
    after.files = savedFiles := by
  let plan : Plan service secondOpening :=
    ⟨_, [], [], secondOpening_answer, rfl, .inl ⟨rfl, rfl⟩⟩
  obtain ⟨report, after, carried⟩ :=
    plan.isCarriedOut rfl (fun state _ => ⟨state, .nil⟩) (absurd rfl)
  have filed := carried.filed
  rw [Filed, if_pos (show plan.fetched.records = [] from rfl)] at filed
  exact ⟨report, after, carried.done, filed⟩

theorem secondCall_asks : ∃ query ∈ secondCall.ending.2.entryQueries,
    query.since = some (cursor 2) := by
  have asked : secondCall.ending.2.entryQueries = [] ++ [secondOpening.query] :=
    entryQueries_runSync service secondOpening
  refine ⟨secondOpening.query, by simp [asked], ?_⟩
  rw [secondOpening.since_query_of_not_full rfl, secondOpening_state]
  rfl

theorem history : ∃ files, History statePath [secondCall, firstCall] files ∧
    SyncState.load files statePath = .ok seen := by
  obtain ⟨_, firstAfter, firstDone, firstFiles⟩ := firstCall_ending
  obtain ⟨_, secondAfter, secondDone, secondFiles⟩ := secondCall_ending
  have absent : firstCall.files.node? statePath = none := by decide
  have first : History statePath [firstCall] firstCall.ending.2.files :=
    .next (.start absent) firstCall january_stateFile rfl
  rw [firstDone, firstFiles] at first
  have second := first.next secondCall february_stateFile rfl
  rw [secondDone, secondFiles] at second
  exact ⟨savedFiles, second, load_of_find rfl⟩

end TwoMonths

open TwoMonths in
theorem twoMonths_earned_and_asked :
    ∃ files, History statePath [secondCall, firstCall] files ∧
      SyncState.load files statePath = .ok seen ∧
      (∃ query ∈ secondCall.ending.2.entryQueries, query.since = some (cursor 2)) ∧
      (∀ state, SyncState.load files statePath = .ok state →
          Earned [secondCall, firstCall] state) ∧
        ∀ call ∈ [secondCall, firstCall], ∀ query ∈ call.ending.2.entryQueries,
          query.since = none ∨
            (call.options.isFull = false ∧
              ∃ opening : Opening call.options call.files,
                opening.stored.rulesHash = some opening.rules.fingerprint ∧
                query.since = opening.stored.since) := by
  obtain ⟨files, history, stored⟩ := history
  exact ⟨files, history, stored, secondCall_asks, cursor_earned_and_asked history⟩

end LedgerRules
