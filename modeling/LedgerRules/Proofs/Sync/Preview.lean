import LedgerRules.Proofs.Sync.Coverage
import LedgerRules.Proofs.Sync.Errors
import LedgerRules.Proofs.Sync.Recording

/-!
A dry run next to the live run from the same start. Once the changes are planned a dry run cannot
fail, and a live run shows the line of each change before it tries the change.
-/

namespace LedgerRules

open Effect Sync

variable {σ : Type}

def SyncOptions.dry (options : SyncOptions) : SyncOptions := { options with isDryRun := true }

def SyncOptions.live (options : SyncOptions) : SyncOptions := { options with isDryRun := false }

def EntryChange.call (change : EntryChange) : ServiceCall :=
  .replace change.entry.id change.result.toRecord

/-! What a recorded service has been told when a run ends. -/

theorem replacements_of_asked {service : LedgerService σ} {before after : Recorded σ}
    (asked : Asked service.recording before after) :
    after.2.filterMap ServiceCall.replacement? = before.2.filterMap ServiceCall.replacement? := by
  induction asked with
  | refl => rfl
  | tail _ once ih =>
      cases once with
      | fetched kind query state =>
          simp [LedgerService.recording, ServiceAnswer.recorded, ServiceCall.replacement?, ih]

theorem calls_of_accepted {service : LedgerService σ} {done : List EntryChange}
    {before after : Recorded σ} (accepted : Accepted service.recording done before after) :
    after.2 = before.2 ++ done.map EntryChange.call := by
  induction accepted with
  | nil => simp
  | @cons change rest state after _ _ ih =>
      have told : (service.recording.update change state).state.2 = state.2 ++ [change.call] := rfl
      rw [ih, told, List.append_assoc, List.map_cons, List.singleton_append]

/-- Between two worlds some changes have been shown, and the service has been told to make them. -/
structure Tried (tried : List EntryChange) (before after : World (Recorded σ)) : Prop where
  calls : after.service.2 = before.service.2 ++ tried.map EntryChange.call
  echoes : after.echoes = before.echoes ++ tried.map EntryChange.text

theorem Tried.nothing (world : World (Recorded σ)) : Tried [] world world :=
  ⟨(List.append_nil _).symm, (List.append_nil _).symm⟩

/-- How a live run ends once its changes are planned. -/
inductive LiveEnd (planned : List EntryChange) (ready : World (Recorded σ)) :
    Except SyncError SyncReport × World (Recorded σ) → Prop where
  | refused {tried : List EntryChange} {error : SyncError} {after : World (Recorded σ)}
      (begun : tried ≠ []) (order : tried <+: planned) (made : Tried tried ready after) :
      LiveEnd planned ready (.error error, after)
  | unsaved {error : SyncError} {after : World (Recorded σ)} (unsaved : error.IsUnsaved)
      (made : Tried planned ready after) : LiveEnd planned ready (.error error, after)
  | done {report : SyncReport} {after : World (Recorded σ)} (reported : report.changes = planned)
      (made : Tried planned ready after) : LiveEnd planned ready (.ok report, after)

theorem conclude_live (service : LedgerService σ) (options : SyncOptions)
    (prepared : Preparation) (ready : World (Recorded σ)) :
    LiveEnd prepared.changes ready
      (outcome (conclude service.recording options.live prepared) ready) := by
  cases prepared with
  | idle state => exact .done rfl (.nothing ready)
  | planned state entries watermark changes =>
      have ending := settle_ending service.recording options.live state watermark
        (openReport options.live state entries) changes ready
      simp only [conclude, Preparation.changes]
      generalize outcome (settle service.recording options.live state watermark
        (openReport options.live state entries) changes) ready = result at ending ⊢
      cases ending with
      | shown dry => cases dry
      | @refused done rest change error last after _ split accepted _ ended told =>
          refine .refused (by simp) ?_ ⟨?_, told.echoes⟩
          · exact ⟨rest, by rw [split, List.append_assoc, List.singleton_append]⟩
          · have last_call : after.service.2 = last.2 ++ [change.call] := by
              rw [ended]
              rfl
            rw [last_call, calls_of_accepted accepted, List.append_assoc, List.map_append]
            rfl
      | unsaved _ accepted told _ =>
          exact .unsaved trivial ⟨calls_of_accepted accepted, told.echoes⟩
      | saved _ accepted told _ => exact .done rfl ⟨calls_of_accepted accepted, told.echoes⟩

theorem conclude_dry (service : LedgerService σ) (options : SyncOptions)
    (prepared : Preparation) (ready : World (Recorded σ)) :
    ∃ report after,
      outcome (conclude service.recording options.dry prepared) ready = (.ok report, after) ∧
      report.changes = prepared.changes ∧ after.service = ready.service ∧
      after.echoes = ready.echoes ++ prepared.changes.map EntryChange.text := by
  cases prepared with
  | idle state => exact ⟨_, ready, rfl, rfl, rfl, (List.append_nil _).symm⟩
  | planned state entries watermark changes =>
      have ending := settle_ending service.recording options.dry state watermark
        (openReport options.dry state entries) changes ready
      simp only [conclude, Preparation.changes]
      generalize outcome (settle service.recording options.dry state watermark
        (openReport options.dry state entries) changes) ready = result at ending ⊢
      cases ending with
      | @shown after _ untold told _ => exact ⟨_, after, rfl, rfl, untold, told.echoes⟩
      | refused live => cases live
      | unsaved live => cases live
      | saved live => cases live

/-! The two runs side by side. -/

/-- What can be seen of a run: its result, the lines it shows and the calls that the service gets,
the refused ones among them. -/
structure Transcript where
  result : Except SyncError SyncReport
  lines : List String
  calls : List ServiceCall

namespace Transcript

def queries (transcript : Transcript) : List (RecordKind × Option EntryQuery) :=
  transcript.calls.filterMap ServiceCall.query?

def replacements (transcript : Transcript) : List (String × Json) :=
  transcript.calls.filterMap ServiceCall.replacement?

end Transcript

namespace LedgerService

variable (service : LedgerService σ) (options : SyncOptions) (state : σ) (files : Files)

def transcript : Transcript :=
  let (result, after) := outcome (runSync service options) ⟨state, files, []⟩
  let (_, recorded) := outcome (runSync service.recording options) ⟨(state, []), files, []⟩
  ⟨result, after.echoes, recorded.service.2⟩

/-- The changes that a run computes, whatever becomes of them. -/
def planned : Except SyncError (List EntryChange) :=
  (outcome (prepare service options) ⟨state, files, []⟩).1.map Preparation.changes

theorem transcript_eq :
    service.transcript options state files =
      let (result, after) := outcome (runSync service.recording options) ⟨(state, []), files, []⟩
      ⟨result, after.echoes, after.service.2⟩ := by
  have same := IsRecordingOf.runSync service options ⟨(state, []), files, []⟩
  simp only [transcript]
  rw [show (⟨state, files, []⟩ : World σ) = World.erased ⟨(state, []), files, []⟩ from rfl, same]
  rfl

variable {service options state files}

theorem transcript_of_error {error : SyncError} {after : World (Recorded σ)}
    (failed : outcome (prepare service.recording options) ⟨(state, []), files, []⟩ =
      (.error error, after)) :
    service.transcript options state files = ⟨.error error, after.echoes, after.service.2⟩ := by
  rw [transcript_eq, runSync_eq, outcome_bind_error failed]

theorem transcript_of_ok {preparation : Preparation} {ready after : World (Recorded σ)}
    {result : Except SyncError SyncReport}
    (prepared : outcome (prepare service.recording options) ⟨(state, []), files, []⟩ =
      (.ok preparation, ready))
    (ended : outcome (conclude service.recording options preparation) ready = (result, after)) :
    service.transcript options state files = ⟨result, after.echoes, after.service.2⟩ := by
  rw [transcript_eq, runSync_eq, outcome_bind_ok prepared, ended]

theorem planned_of_ok {preparation : Preparation} {ready : World (Recorded σ)}
    (prepared : outcome (prepare service.recording options) ⟨(state, []), files, []⟩ =
      (.ok preparation, ready)) :
    service.planned options state files = .ok preparation.changes := by
  have same := IsRecordingOf.prepare service options ⟨(state, []), files, []⟩
  rw [planned, show (⟨state, files, []⟩ : World σ) = World.erased ⟨(state, []), files, []⟩ from rfl,
    same, prepared]
  rfl

end LedgerService

/-- A dry run that planned some changes has asked what the live run asks, and has shown what the
live run shows, up to the change at which that one ends. -/
structure Agree (planned : List EntryChange) (dry live : Transcript) : Prop where
  queries : live.queries = dry.queries
  untold : dry.replacements = []
  lines : dry.lines = planned.map EntryChange.text
  begun : live.lines <+: dry.lines
  tried : ∃ tried, tried <+: planned ∧ live.lines = tried.map EntryChange.text ∧
    live.replacements = tried.map EntryChange.replacement
  completed : ∀ report, live.result = .ok report →
    report.changes = planned ∧ live.lines = dry.lines ∧
      live.replacements = planned.map EntryChange.replacement

/-- The world when the changes are planned: nothing has been shown, and no change tried. -/
structure IsUntried (ready : World (Recorded σ)) : Prop where
  echoes : ready.echoes = []
  calls : ready.service.2.filterMap ServiceCall.replacement? = []

theorem IsUntried.of_prepare {service : LedgerService σ} {options : SyncOptions} {state : σ}
    {files : Files} {result : Except SyncError Preparation} {ready : World (Recorded σ)}
    (prepared : outcome (prepare service.recording options) ⟨(state, []), files, []⟩ =
      (result, ready)) : IsUntried ready := by
  have kept := keeps_prepare (@Prepared.kept _ service.recording) (fun _ _ => trivial)
    (fun _ => trivial) options ⟨(state, []), files, []⟩
  rw [prepared] at kept
  exact ⟨kept.echoes, replacements_of_asked kept.asked⟩

namespace Tried

variable {tried : List EntryChange} {ready after : World (Recorded σ)}

theorem lines_eq (made : Tried tried ready after) (untried : IsUntried ready) :
    after.echoes = tried.map EntryChange.text := by
  rw [made.echoes, untried.echoes, List.nil_append]

theorem queries_eq (made : Tried tried ready after) :
    after.service.2.filterMap ServiceCall.query? =
      ready.service.2.filterMap ServiceCall.query? := by
  have silent : (tried.map EntryChange.call).filterMap ServiceCall.query? = [] := by
    rw [List.filterMap_map]
    exact List.filterMap_eq_nil_iff.mpr fun _ _ => rfl
  rw [made.calls, List.filterMap_append, silent, List.append_nil]

theorem replacements_eq (made : Tried tried ready after) (untried : IsUntried ready) :
    after.service.2.filterMap ServiceCall.replacement? =
      tried.map EntryChange.replacement := by
  have told : (tried.map EntryChange.call).filterMap ServiceCall.replacement? =
      tried.map EntryChange.replacement := by
    rw [List.filterMap_map]
    exact congrFun List.filterMap_eq_map tried
  rw [made.calls, List.filterMap_append, untried.calls, told, List.nil_append]

end Tried

theorem LiveEnd.agree {planned : List EntryChange} {ready shown after : World (Recorded σ)}
    {result : Except SyncError SyncReport} {dryResult : Except SyncError SyncReport}
    (ended : LiveEnd planned ready (result, after)) (untried : IsUntried ready)
    (asked : shown.service = ready.service)
    (lines : shown.echoes = ready.echoes ++ planned.map EntryChange.text) :
    Agree planned ⟨dryResult, shown.echoes, shown.service.2⟩
      ⟨result, after.echoes, after.service.2⟩ := by
  rw [untried.echoes, List.nil_append] at lines
  obtain ⟨tried, order, made⟩ : ∃ tried, tried <+: planned ∧ Tried tried ready after := by
    cases ended with
    | refused _ order made => exact ⟨_, order, made⟩
    | unsaved _ made => exact ⟨_, List.prefix_rfl, made⟩
    | done _ made => exact ⟨_, List.prefix_rfl, made⟩
  constructor
  case queries => rw [Transcript.queries, Transcript.queries, made.queries_eq, asked]
  case untold => rw [Transcript.replacements, asked, untried.calls]
  case lines => exact lines
  case begun =>
    simp only [made.lines_eq untried, lines]
    exact order.map EntryChange.text
  case tried => exact ⟨tried, order, made.lines_eq untried, made.replacements_eq untried⟩
  case completed =>
    rintro report rfl
    cases ended with
    | done reported made =>
        refine ⟨reported, ?_, made.replacements_eq untried⟩
        exact (made.lines_eq untried).trans lines.symm

theorem LiveEnd.error_begun {planned : List EntryChange} {ready after : World (Recorded σ)}
    {error : SyncError} (ended : LiveEnd planned ready (.error error, after))
    (untried : IsUntried ready)
    (untold : after.service.2.filterMap ServiceCall.replacement? = []) : error.IsUnsaved := by
  cases ended with
  | refused begun _ made =>
      rw [made.replacements_eq untried] at untold
      exact absurd (List.map_eq_nil_iff.mp untold) begun
  | unsaved unsaved _ => exact unsaved

/-- A dry run fails if and only if the live run fails with the same error before it has tried any
change, and not in saving the state. Then both have done the same; otherwise they plan the same
changes and agree on them. -/
theorem dry_run_previews_live_run (service : LedgerService σ) (options : SyncOptions) (state : σ)
    (files : Files) :
    let dry := service.transcript options.dry state files
    let live := service.transcript options.live state files
    (∀ error, dry.result = .error error ↔
      live.result = .error error ∧ live.replacements = [] ∧ ¬error.IsUnsaved) ∧
    match dry.result with
    | .error _ => live = dry
    | .ok report =>
        service.planned options.dry state files = .ok report.changes ∧
        service.planned options.live state files = .ok report.changes ∧
        Agree report.changes dry live := by
  intro dry live
  have never := neverUnsaved_prepare service.recording options ⟨(state, []), files, []⟩
  generalize prepared : outcome (prepare service.recording options) ⟨(state, []), files, []⟩ =
    middle at never
  -- Preparing does not look at the kind of the run.
  have preparedDry : outcome (prepare service.recording options.dry) _ = middle := prepared
  have preparedLive : outcome (prepare service.recording options.live) _ = middle := prepared
  obtain ⟨error | preparation, ready⟩ := middle
  · have untried := IsUntried.of_prepare prepared
    rw [show dry = _ from LedgerService.transcript_of_error preparedDry,
      show live = _ from LedgerService.transcript_of_error preparedLive]
    refine ⟨fun other => ⟨?_, fun failed => failed.1⟩, rfl⟩
    intro failed
    obtain rfl := Except.error.inj failed
    exact ⟨rfl, untried.calls, never error rfl⟩
  · have untried := IsUntried.of_prepare prepared
    obtain ⟨report, shown, concluded, reported, asked, lines⟩ :=
      conclude_dry service options preparation ready
    have ended := conclude_live service options preparation ready
    generalize concludedLive : outcome (conclude service.recording options.live preparation) ready =
      reached at ended
    obtain ⟨result, after⟩ := reached
    rw [show dry = _ from LedgerService.transcript_of_ok preparedDry concluded,
      show live = _ from LedgerService.transcript_of_ok preparedLive concludedLive]
    constructor
    · intro error
      constructor
      · intro failed
        cases failed
      · rintro ⟨rfl, untold, saved⟩
        exact absurd (ended.error_begun untried untold) saved
    · simp only [reported]
      exact ⟨LedgerService.planned_of_ok preparedDry, LedgerService.planned_of_ok preparedLive,
        ended.agree untried asked lines⟩

/-! An entry that no rule changes, where the state file would have to be inside the rules file. -/

namespace Inside

def record : Json :=
  .object
    [("id", .string "rent"), ("amount", .integer (-5)),
      ("currency", .object [("code", .string "EUR")]), ("date", .string "2024-01-10"),
      ("account", .string "cash")]

def service : LedgerService Unit where
  fetchAll kind _ _ := ⟨.ok ⟨if kind = .entry then [record] else [], none⟩, [], ()⟩
  replaceEntry _ _ _ := ⟨.ok (), [], ()⟩

def options : SyncOptions := { TwoMonths.january with statePath := "rules.yaml/state.json" }

def files : Files := ⟨[(⟨false, ["rules.yaml"]⟩, .file [])]⟩

def start : World (Recorded Unit) := ⟨((), []), files, []⟩

variable {given : SyncOptions}

def opening (rulesIn : given.rulesIn = options.rulesIn)
    (stateIn : given.stateIn = options.stateIn) : Opening given start.files where
  rules := ⟨[], Sha256.hexDigest (Utf8.encode "null")⟩
  stored := {}
  rules_loaded := by
    have path : options.platform.path? options.rulesPath = some ⟨false, ["rules.yaml"]⟩ := by decide
    rw [rulesIn, SyncOptions.rulesIn_of_known path]
    exact loadRules_of_empty rfl
  state_loaded := by
    have path : options.stateFile = ⟨false, ["rules.yaml", "state.json"]⟩ := by decide
    have flat : options.isStateTooDeep start.files = false := by
      simp only [SyncOptions.isStateTooDeep, path]
      rfl
    rw [stateIn, SyncOptions.stateIn_of_known (by decide) flat, path]
    exact load_of_absent rfl

theorem exists_ending (opening : Opening given start.files) (ruleless : opening.rules.rules = []) :
    ∃ (ready after : World (Recorded Unit)) (result : Except SyncError SyncReport)
      (state : SyncState) (opened : SyncReport),
      ready.service.2.filterMap ServiceCall.replacement? = [] ∧ ready.files = files ∧
      service.transcript given () files = ⟨result, after.echoes, after.service.2⟩ ∧
      Ending service.recording given state opened [] ready (result, after) := by
  have listed : ∀ kind, kind ≠ .entry → ∀ state, ∃ mark,
      (service.recording.fetchAll kind none state).result = .ok ⟨[], mark⟩ :=
    fun kind other _ => ⟨none, by cases kind <;> first | rfl | exact absurd rfl other⟩
  have looked : opening.context service.recording = .ok (.ofItems [] [] []) := by
    rw [opening.context_of_listed listed]
    rfl
  have readable : (Entry.ofRecords [record]).isOk = true := by decide +kernel
  obtain ⟨entries, read⟩ : ∃ entries, Entry.ofRecords [record] = .ok entries :=
    ⟨_, Except.eq_ok_getD readable []⟩
  have filled : entries ≠ [] :=
    (Entry.ofRecords_eq_nil_iff read).not.mpr (List.cons_ne_nil _ _)
  have nothing : changes opening.rules.rules (.ofItems [] [] []) entries = .ok [] := by
    rw [ruleless]
    exact changes_eq_nil fun _ _ => rfl
  let plan : Plan service.recording opening := .ofEntries rfl read (fun _ => looked) nothing
  obtain ⟨ready, prepared, finished⟩ := plan.run_eq
  have ending := ((plan.finish_cases ready).resolve_left fun idle => filled idle.1).2
  rw [← finished] at ending
  exact ⟨ready, _, _, _, _, replacements_of_asked prepared.asked, prepared.files,
    service.transcript_eq given () files, ending⟩

theorem not_saved {content : Bytes} {after : Files} :
    outcome (Files.replace options.stateFile content) files ≠ (.ok (), after) := by
  have path : options.stateFile = ⟨false, ["rules.yaml", "state.json"]⟩ := by decide
  have fails : (outcome (Files.replace options.stateFile content) files).1 =
      .error .alreadyExists := by
    rw [path]
    rfl
  intro saved
  rw [saved] at fails
  cases fails

end Inside

/-- The dry run reports that nothing changes, the live run fails without trying anything. -/
theorem unsaved_without_preview :
    let dry := Inside.service.transcript Inside.options.dry () Inside.files
    let live := Inside.service.transcript Inside.options.live () Inside.files
    (∃ report, dry.result = .ok report) ∧
      (∃ error, live.result = .error error) ∧ live.replacements = [] := by
  open Inside in
  constructor
  · obtain ⟨_, _, _, _, _, _, _, seen, ending⟩ :=
      exists_ending (opening rfl rfl : Opening options.dry start.files) rfl
    rw [seen]
    cases ending with
    | shown => exact ⟨_, rfl⟩
    | refused live => cases live
    | unsaved live => cases live
    | saved live => cases live
  · obtain ⟨ready, _, _, _, _, untried, same, seen, ending⟩ :=
      exists_ending (opening rfl rfl : Opening options.live start.files) rfl
    rw [seen]
    cases ending with
    | shown dry => cases dry
    | refused _ split => simp at split
    | unsaved _ accepted =>
        rw [← accepted.eq_of_nil] at untried
        exact ⟨⟨_, rfl⟩, untried⟩
    | saved _ _ _ stored =>
        rw [same] at stored
        exact absurd stored not_saved

end LedgerRules
