import Mathlib.Logic.Relation
import LedgerRules.Proofs.Rules.Changes
import LedgerRules.Proofs.Sync.Updates

/-!
What a run does before it shows or changes anything. It asks for all records, reads all of them and
evaluates all entries; if there is an obstacle anywhere, even at the last entry, the run ends there,
and otherwise it goes on from a plan of all changes.
-/

namespace LedgerRules

open Effect Sync

variable {σ : Type}

inductive AskedOnce (service : LedgerService σ) : σ → σ → Prop where
  | fetched (kind : RecordKind) (query : Option EntryQuery) (state : σ) :
      AskedOnce service state (service.fetchAll kind query state).state

/-- The service has been asked for records, any number of times, and told nothing. -/
abbrev Asked (service : LedgerService σ) : σ → σ → Prop :=
  Relation.ReflTransGen (AskedOnce service)

/-- Between two worlds records have been fetched; nothing has been shown or changed. -/
structure Prepared (service : LedgerService σ) (before after : World σ) : Prop where
  asked : Asked service before.service after.service
  echoes : after.echoes = before.echoes
  replacements : after.replacements = before.replacements
  files : after.files = before.files

namespace Prepared

variable {service : LedgerService σ}

instance : IsPreorder (World σ) (Prepared service) where
  refl _ := ⟨.refl, rfl, rfl, rfl⟩
  trans _ _ _ first second :=
    ⟨first.asked.trans second.asked, second.echoes.trans first.echoes,
      second.replacements.trans first.replacements, second.files.trans first.files⟩

theorem noted (world : World σ) {event : Event} (preparing : event.IsPreparing) :
    Prepared service world (world.noted event) := by
  have unshown : event.echo? = none := by
    cases event with
    | echoed => exact preparing.elim
    | _ => rfl
  have unreplaced : event.replacement? = none := by
    cases event with
    | replaced => exact preparing.elim
    | _ => rfl
  exact ⟨.refl, by simp [unshown], by simp [unreplaced], rfl⟩

theorem logged {before after : World σ} (prepared : Prepared service before after)
    (record : LogRecord) : Prepared service before (after.noted (.logged record)) :=
  trans_of _ prepared (noted after (show (Event.logged record).IsPreparing from trivial))

theorem kept : Kept service Event.IsPreparing (Prepared service) where
  noted world _ preparing := noted world preparing
  fetched world kind query := by
    refine ⟨.single (.fetched kind query world.service), ?_, ?_, rfl⟩
    · simp
    · simp

end Prepared

/-- The catalog of a kind cannot be fetched, or one of its records cannot be read. -/
def Unlisted (service : LedgerService σ) (kind : RecordKind) (state : σ) : Prop :=
  match (service.fetchAll kind none state).result with
  | .error _ => True
  | .ok fetched => ∃ record ∈ fetched.records, (Reference.ofRecord kind record).isOk = false

def AnyUnlisted (service : LedgerService σ) : List RecordKind → σ → Prop
  | [], _ => False
  | kind :: rest, state =>
      Unlisted service kind state ∨
        AnyUnlisted service rest (service.fetchAll kind none state).state

theorem fetchReferences_cases (service : LedgerService σ) (kind : RecordKind) (world : World σ) :
    (Unlisted service kind world.service ∧
        ∃ error after, outcome (fetchReferences service kind) world = (.error error, after)) ∨
      (¬ Unlisted service kind world.service ∧
        ∃ references after, outcome (fetchReferences service kind) world = (.ok references, after) ∧
          after.service = (service.fetchAll kind none world.service).state) := by
  rw [fetchReferences, outcome_bind, outcome_fetch, Unlisted]
  cases (service.fetchAll kind none world.service).result with
  | error error => exact .inl ⟨trivial, _, _, rfl⟩
  | ok fetched =>
      have readable := Except.isOk_mapM (Reference.ofRecord kind) fetched.records
      simp only [Except.mapError]
      cases read : Reference.ofRecords kind fetched.records with
      | error error =>
          rw [← Reference.ofRecords, read] at readable
          obtain ⟨record, listed, malformed⟩ := List.all_eq_false.mp readable.symm
          exact .inl ⟨⟨record, listed, by simpa using malformed⟩, _, _, rfl⟩
      | ok references =>
          rw [← Reference.ofRecords, read] at readable
          refine .inr ⟨?_, _, _, rfl, rfl⟩
          rintro ⟨record, listed, malformed⟩
          rw [List.all_eq_true.mp readable.symm record listed] at malformed
          exact Bool.noConfusion malformed

theorem fetchContext_cases (service : LedgerService σ) (world : World σ) :
    (AnyUnlisted service [.account, .category, .tag] world.service ∧
        ∃ error after, outcome (fetchContext service) world = (.error error, after)) ∨
      (¬ AnyUnlisted service [.account, .category, .tag] world.service ∧
        ∃ context after, outcome (fetchContext service) world = (.ok context, after)) := by
  simp only [AnyUnlisted, or_false]
  rcases fetchReferences_cases service .account world with
    ⟨unlisted, error, after, failed⟩ | ⟨accountsListed, accounts, first, done, seen⟩
  · exact .inl ⟨.inl unlisted, error, after, outcome_bind_error failed _⟩
  rw [fetchContext, outcome_bind_ok done, ← seen]
  rcases fetchReferences_cases service .category first with
    ⟨unlisted, error, after, failed⟩ | ⟨categoriesListed, categories, second, done, seen⟩
  · exact .inl ⟨.inr (.inl unlisted), error, after, outcome_bind_error failed _⟩
  rw [outcome_bind_ok done, ← seen]
  rcases fetchReferences_cases service .tag second with
    ⟨unlisted, error, after, failed⟩ | ⟨tagsListed, tags, third, done, seen⟩
  · exact .inl ⟨.inr (.inr unlisted), error, after, outcome_bind_error failed _⟩
  rw [outcome_bind_ok done]
  refine .inr ⟨?_, _, _, rfl⟩
  rintro (unlisted | unlisted | unlisted)
  · exact accountsListed unlisted
  · exact categoriesListed unlisted
  · exact tagsListed unlisted

section Opened

variable {options : SyncOptions} {before : World σ}

/-- What keeps a run that has read rules and state from showing or changing anything. -/
inductive Obstacle (service : LedgerService σ) (opening : Opening options before.files) : Prop where
  | refused {error : ServiceError}
      (failed : (service.fetchAll .entry (some opening.query) before.service).result = .error error)
  | unreadable {fetched : FetchResult} {record : Json}
      (answered :
        (service.fetchAll .entry (some opening.query) before.service).result = .ok fetched)
      (listed : record ∈ fetched.records) (malformed : (Entry.ofRecord record).isOk = false)
  | unlisted {fetched : FetchResult} {entries : List Entry}
      (answered :
        (service.fetchAll .entry (some opening.query) before.service).result = .ok fetched)
      (read : Entry.ofRecords fetched.records = .ok entries) (filled : entries ≠ [])
      (missing : AnyUnlisted service [.account, .category, .tag]
        (service.fetchAll .entry (some opening.query) before.service).state)
  | unevaluated {fetched : FetchResult} {entries : List Entry} {context : Context} {entry : Entry}
      (answered :
        (service.fetchAll .entry (some opening.query) before.service).result = .ok fetched)
      (read : Entry.ofRecords fetched.records = .ok entries)
      (looked : opening.context service = .ok context) (listed : entry ∈ entries)
      (failed : (changeOf? opening.rules.rules context entry).isOk = false)

/-- All changes to all entries that have been fetched. Without entries no catalogs are needed. -/
structure Plan (service : LedgerService σ) (opening : Opening options before.files) where
  fetched : FetchResult
  entries : List Entry
  changes : List EntryChange
  answered : (service.fetchAll .entry (some opening.query) before.service).result = .ok fetched
  read : Entry.ofRecords fetched.records = .ok entries
  evaluated :
    (entries = [] ∧ changes = []) ∨
      (entries ≠ [] ∧ ∃ context, opening.context service = .ok context ∧
        LedgerRules.changes opening.rules.rules context entries = .ok changes)

/-- The world in which the catalogs are fetched. -/
def Opening.asked (service : LedgerService σ) (opening : Opening options before.files) : World σ :=
  ((opening.world before).noted (.queried .entry (some opening.query))).answered
    (service.fetchAll .entry (some opening.query) before.service)

variable {service : LedgerService σ} {opening : Opening options before.files}

theorem Opening.fetchEntries_ok {fetched : FetchResult} {entries : List Entry}
    (answered : (service.fetchAll .entry (some opening.query) before.service).result = .ok fetched)
    (read : Entry.ofRecords fetched.records = .ok entries) :
    outcome (fetchEntries service opening.query) (opening.world before) =
      (.ok (entries, fetched.watermark), opening.asked service) := by
  rw [← opening.service_world before] at answered
  rw [outcome_fetchEntries_ok answered read, opening.service_world, Opening.asked]

theorem Opening.context_eq {fetched : FetchResult} {entries : List Entry}
    (answered : (service.fetchAll .entry (some opening.query) before.service).result = .ok fetched)
    (read : Entry.ofRecords fetched.records = .ok entries) :
    opening.context service = (outcome (fetchContext service) (opening.asked service)).1 := by
  simp only [Opening.context, Opening.fetchEntries_ok answered read]

theorem Plan.not_obstacle (plan : Plan service opening) : ¬ Obstacle service opening := by
  intro obstacle
  have answered := plan.answered
  have evaluated := plan.evaluated
  have readable := Except.isOk_mapM Entry.ofRecord plan.fetched.records
  rw [← Entry.ofRecords, plan.read] at readable
  cases obstacle with
  | refused failed => simp [failed] at answered
  | unreadable given listed malformed =>
      obtain rfl := Except.ok.inj (given.symm.trans answered)
      rw [List.all_eq_true.mp readable.symm _ listed] at malformed
      exact Bool.noConfusion malformed
  | unlisted given read filled missing =>
      obtain rfl := Except.ok.inj (given.symm.trans answered)
      obtain rfl := Except.ok.inj (read.symm.trans plan.read)
      rcases evaluated with ⟨empty, _⟩ | ⟨_, context, looked, _⟩
      · exact filled empty
      · rw [Opening.context_eq given read] at looked
        rcases fetchContext_cases service (opening.asked service) with
          ⟨_, error, after, failed⟩ | ⟨listed, _⟩
        · simp [failed] at looked
        · exact listed missing
  | @unevaluated _ _ context entry given read looked listed failed =>
      obtain rfl := Except.ok.inj (given.symm.trans answered)
      obtain rfl := Except.ok.inj (read.symm.trans plan.read)
      rcases evaluated with ⟨empty, _⟩ | ⟨_, other, lookedThere, planable⟩
      · simp [empty] at listed
      · obtain rfl := Except.ok.inj (looked.symm.trans lookedThere)
        have known := isOk_changes opening.rules.rules context plan.entries
        rw [planable] at known
        rw [List.all_eq_true.mp known.symm _ listed] at failed
        exact Bool.noConfusion failed

def Plan.finish (plan : Plan service opening) : Sync σ SyncReport :=
  let report := openReport options opening.state plan.entries
  if plan.entries.isEmpty then pure report
  else settle service options opening.state plan.fetched.watermark report plan.changes

theorem fetchEntries_cases (service : LedgerService σ) (opening : Opening options before.files) :
    (Obstacle service opening ∧ ∃ error after,
        outcome (fetchEntries service opening.query) (opening.world before) =
          (.error error, after)) ∨
      ∃ fetched entries,
        (service.fetchAll .entry (some opening.query) before.service).result = .ok fetched ∧
        Entry.ofRecords fetched.records = .ok entries := by
  rw [fetchEntries, outcome_bind, outcome_fetch, opening.service_world]
  cases answered : (service.fetchAll .entry (some opening.query) before.service).result with
  | error error => exact .inl ⟨.refused answered, _, _, rfl⟩
  | ok fetched =>
      have readable := Except.isOk_mapM Entry.ofRecord fetched.records
      simp only [Except.mapError]
      cases read : Entry.ofRecords fetched.records with
      | error error =>
          rw [← Entry.ofRecords, read] at readable
          obtain ⟨record, listed, malformed⟩ := List.all_eq_false.mp readable.symm
          exact .inl ⟨.unreadable answered listed (by simpa using malformed), _, _, rfl⟩
      | ok entries => exact .inr ⟨fetched, entries, rfl, read⟩

theorem process_prepared {fetched : FetchResult} {entries : List Entry}
    (answered : (service.fetchAll .entry (some opening.query) before.service).result = .ok fetched)
    (read : Entry.ofRecords fetched.records = .ok entries)
    (asked : Prepared service before (opening.asked service)) :
    (Obstacle service opening ∧ ∃ error after,
        outcome (process service options opening.rules opening.state entries fetched.watermark)
          (opening.asked service) = (.error error, after) ∧ Prepared service before after) ∨
      ∃ (plan : Plan service opening) (ready : World σ), Prepared service before ready ∧
        outcome (process service options opening.rules opening.state entries fetched.watermark)
          (opening.asked service) = outcome plan.finish ready := by
  by_cases filled : entries = []
  · subst filled
    exact .inr ⟨⟨fetched, [], [], answered, read, .inl ⟨rfl, rfl⟩⟩, _, asked.logged _, rfl⟩
  have present : entries.isEmpty = false := by simpa using filled
  have looks := keeps_fetchContext (@Prepared.kept σ service) (fun _ _ => trivial)
    (opening.asked service)
  simp only [process, present, Bool.false_eq_true, if_false]
  rcases fetchContext_cases service (opening.asked service) with
    ⟨missing, error, after, failed⟩ | ⟨_, context, looked, found⟩
  · rw [failed] at looks
    rw [outcome_bind_error failed]
    exact .inl ⟨.unlisted answered read filled missing, _, _, rfl, trans_of _ asked looks⟩
  rw [found] at looks
  rw [outcome_bind_ok found]
  have lookedUp : opening.context service = .ok context := by
    rw [Opening.context_eq answered read, found]
  have known := isOk_changes opening.rules.rules context entries
  cases planned : changes opening.rules.rules context entries with
  | error error =>
      rw [planned] at known
      obtain ⟨entry, listed, failed⟩ := List.all_eq_false.mp known.symm
      refine .inl ⟨.unevaluated answered read lookedUp listed (by simpa using failed), ?_⟩
      rw [planChanges, planned]
      exact ⟨_, _, rfl, trans_of _ asked looks⟩
  | ok changes =>
      obtain ⟨text, done⟩ := outcome_planChanges_ok planned looked
      let plan : Plan service opening :=
        ⟨fetched, entries, changes, answered, read, .inr ⟨filled, context, lookedUp, planned⟩⟩
      refine .inr ⟨plan, _, (trans_of _ asked looks).logged ⟨.info, .sync, text⟩, ?_⟩
      rw [outcome_bind_ok done, Plan.finish, present]
      rfl

/-- A run meets an obstacle and fails, or it carries out its plan. -/
theorem runSync_prepared (service : LedgerService σ) (opening : Opening options before.files) :
    (Obstacle service opening ∧ ∃ error after,
        outcome (runSync service options) before = (.error error, after) ∧
        Prepared service before after) ∨
      ∃ (plan : Plan service opening) (ready : World σ), Prepared service before ready ∧
        outcome (runSync service options) before = outcome plan.finish ready := by
  have opened : Prepared service before (opening.world before) :=
    opening.keeps_world Prepared.kept before
  have fetches := keeps_fetchEntries (@Prepared.kept σ service) opening.query trivial
    (opening.world before)
  rw [runSync_opened service opening]
  rcases fetchEntries_cases service opening with
    ⟨obstacle, error, after, failed⟩ | ⟨fetched, entries, answered, read⟩
  · rw [failed] at fetches
    rw [outcome_bind_error failed]
    exact .inl ⟨obstacle, error, after, rfl, trans_of _ opened fetches⟩
  · have done := Opening.fetchEntries_ok answered read
    rw [done] at fetches
    rw [outcome_bind_ok done]
    exact process_prepared answered read (trans_of _ opened fetches)

theorem Plan.finish_cases (plan : Plan service opening) (ready : World σ) :
    (plan.entries = [] ∧ plan.changes = [] ∧
        outcome plan.finish ready = (.ok (openReport options opening.state []), ready)) ∨
      (plan.entries ≠ [] ∧
        Ending service options (opening.state.advance plan.fetched.watermark)
          (openReport options opening.state plan.entries) plan.changes ready
          (outcome plan.finish ready)) := by
  rcases plan.evaluated with ⟨empty, none_planned⟩ | ⟨filled, _⟩
  · refine .inl ⟨empty, none_planned, ?_⟩
    rw [Plan.finish, empty]
    rfl
  · have present : plan.entries.isEmpty = false := by simpa using filled
    rw [Plan.finish, present]
    exact .inr ⟨filled, settle_ending service options _ _ _ _ ready⟩

end Opened

end LedgerRules
