import LedgerRules.Proofs.Service.FirstRequest
import LedgerRules.Proofs.Sync.Errors

/-!
What the service is told first. The query of the first request is a form that says what is asked
for: the size of a page, and what was given, character by character. A run asks so for the entries
after its cursor, and for all entries if it has none.
-/

namespace LedgerRules

open Effect Sync

theorem answer_requests {α : Type} (effect : Exchange α) (connection : Connection) :
    (LedgerService.answer effect connection).state.requests =
      (outcome effect { connection with log := [] }).2.requests := rfl

/-- What has been requested before stays so, whatever a run does. -/
theorem confines_requests (client : Client) (made : List Request) :
    Confines (.ofClient client) (fun world => made <+: world.service.requests)
      (fun _ => True) where
  noted _ _ holds := holds
  filed _ _ holds := holds
  fetched world kind query holds :=
    ⟨holds.trans (Client.keeps_fetchAll client kind.resource _ { world.service with log := [] }),
      fun _ _ => trivial⟩
  replaced world id record holds := by
    have kept := (Client.requests_lifted
      (if client.platform.exhausts (.entry record) then .error .entryTooDeep else .ok ())).bind
      fun _ => (Client.keeps_replace client RecordKind.entry.resource id (some record)).bind
        fun _ => keeps_pure ()
    exact ⟨holds.trans (kept { world.service with log := [] }), fun _ _ => trivial⟩
  record _ := trivial
  reference _ := trivial

theorem outcome_fetchEntries_world {σ : Type} (service : LedgerService σ) (query : EntryQuery)
    (world : World σ) :
    (outcome (fetchEntries service query) world).2 =
      (world.noted (.queried .entry (some query))).answered
        (service.fetchAll .entry (some query) world.service) := by
  rw [fetchEntries, outcome_bind, outcome_fetch]
  cases (service.fetchAll .entry (some query) world.service).result with
  | error error => rfl
  | ok fetched =>
      simp only [Except.mapError]
      cases Entry.ofRecords fetched.records <;> rfl

/-- What stands in the query of a run that has been opened. -/
def EntryQuery.parameters (query : EntryQuery) : List (String × Option String) :=
  [("from", some query.first.text), ("to", some query.last.text), ("since", query.since)]

theorem EntryQuery.fields_eq (query : EntryQuery) :
    query.fields = Client.fields query.parameters := by
  obtain ⟨first, last, _ | since⟩ := query <;> rfl

theorem EntryQuery.overlay_eq (query : EntryQuery) (pageSize : Int) :
    Client.overlay pageSize (Client.given query.parameters) =
      ("per_page", toString pageSize) :: ("from", query.first.text) :: ("to", query.last.text) ::
        query.since.toList.map (Prod.mk "since") := by
  obtain ⟨first, last, _ | since⟩ := query <;> rfl

theorem isWord_entries : Url.IsWord RecordKind.entry.resource.toList := Url.isWord_entries

theorem visible_entries :
    Url.Consists (Url.isVisible ·) RecordKind.entry.resource.toList := by
  have all : RecordKind.entry.resource.toList.all Url.isVisible = true := by decide +kernel
  simpa using all

theorem requests_fetchAll_prefix (client : Client) {options : SyncOptions}
    {world : World Connection} (opening : Opening options world.files) :
    ((LedgerService.ofClient client).fetchAll .entry (some opening.query)
        world.service).state.requests <+:
      (outcome (runSync (.ofClient client) options) world).2.service.requests := by
  generalize fetched : (LedgerService.ofClient client).fetchAll .entry (some opening.query)
    world.service = answer
  have confines := confines_requests client answer.state.requests
  rw [runSync_opened _ opening, outcome_bind]
  have reached := outcome_fetchEntries_world (.ofClient client) opening.query
    (opening.world world)
  rw [opening.service_world, fetched] at reached
  generalize outcome (fetchEntries (.ofClient client) opening.query) (opening.world world) =
    read at reached
  obtain ⟨result, after⟩ := read
  obtain rfl : after = _ := reached
  obtain error | ⟨entries, watermark⟩ := result
  · exact List.prefix_refl _
  · simp only [process_eq]
    exact (((confines.evaluate options opening.rules opening.state entries watermark).bind
      (confines.conclude (fun _ => trivial) options)) _ (List.prefix_refl _)).1

theorem exists_entries_request {client : Client} (isBase : Url.IsBase client.baseUrl)
    {options : SyncOptions} {world : World Connection} (opening : Opening options world.files) :
    ∃ url later, (outcome (runSync (.ofClient client) options) world).2.service.requests =
        world.service.requests ++ client.request .get url none :: later ∧
      Form.parameters (Url.queryOf url.toList) =
        Client.overlay client.pageSize (Client.given opening.query.parameters) := by
  let connection : Connection := { world.service with log := [] }
  have distinct : (opening.query.parameters.map Prod.fst).Nodup := by
    change ["from", "to", "since"].Nodup
    decide
  obtain ⟨url, asked, free, form⟩ := Client.exists_first_request isBase isWord_entries distinct
    connection.replies.length connection
  rw [Client.AsksFirst, free visible_entries] at asked
  obtain ⟨later, asked⟩ := asked
  have fetched :
      ((LedgerService.ofClient client).fetchAll .entry (some opening.query)
        world.service).state.requests =
        world.service.requests ++ client.request .get url none :: later := by
    have fields : ((some opening.query).map EntryQuery.fields).getD [] =
        Client.fields opening.query.parameters := opening.query.fields_eq
    simp only [LedgerService.ofClient, answer_requests, Client.requests_fetchAll, fields]
    exact asked
  have kept := requests_fetchAll_prefix client opening
  rw [fetched] at kept
  obtain ⟨more, same⟩ := kept
  refine ⟨url, later ++ more, ?_, form⟩
  rw [← same, List.append_assoc, List.cons_append]

/-- Query parameters reach the service as they are, in their order, and none for what is null. The
size of a page is told unless another one is given. A run tells its cursor so. Nothing keeps the
request for a visible word from being sent. -/
theorem parameters_reach_service {client : Client} (isBase : Url.IsBase client.baseUrl) :
    (∀ resource : String, Url.IsWord resource.toList →
      ∀ query : List (String × Option String), (query.map Prod.fst).Nodup →
        ∀ limit connection, ∃ url,
          client.AsksFirst url connection
            (client.pages resource (Client.fields query) (limit + 1) connection).2 ∧
          (Url.Consists (Url.isVisible ·) resource.toList →
            client.obstacle? .get url none = none) ∧
          Form.parameters (Url.queryOf url.toList) =
            Client.overlay client.pageSize (Client.given query)) ∧
    ∀ (options : SyncOptions) (world : World Connection) (opening : Opening options world.files),
      ∃ url later, (outcome (runSync (.ofClient client) options) world).2.service.requests =
          world.service.requests ++ client.request .get url none :: later ∧
        Form.parameters (Url.queryOf url.toList) =
          ("per_page", toString client.pageSize) :: ("from", options.first.text) ::
            ("to", options.last.text) :: opening.since.toList.map (Prod.mk "since") := by
  refine ⟨fun resource isWord query distinct limit connection =>
    Client.exists_first_request isBase isWord distinct limit connection, ?_⟩
  intro options world opening
  obtain ⟨url, later, asked, form⟩ := exists_entries_request isBase opening
  refine ⟨url, later, asked, ?_⟩
  rw [form, EntryQuery.overlay_eq]
  rfl

namespace East

/-- A cursor east of the meridian. -/
def cursor : String := "2024-04-01T02:00:00+02:00"

def query : List (String × Option String) :=
  [("since", some cursor), ("a&b", some "50% = #1 – 😀"), ("until", none), ("per_page", some "7")]

def emptyHash : String := Sha256.hexDigest (Utf8.encode "null")

def options : SyncOptions where
  rulesPath := "rules.yaml"
  statePath := "state.json"
  first := ⟨2024, 4, 1, by decide⟩
  last := ⟨2024, 4, 30, by decide⟩
  isDryRun := true
  isFull := false
  platform := .plain

def stored : SyncState := ⟨some cursor, some emptyHash⟩

def world : World Connection where
  service := ⟨[], [], []⟩
  files :=
    ⟨[(Path.ofText "state.json", .file stored.encode), (Path.ofText "rules.yaml", .file [])]⟩

theorem stateFile_eq : options.stateFile = Path.ofText "state.json" := by decide

def opening : Opening options world.files where
  rules := ⟨[], emptyHash⟩
  stored := stored
  rules_loaded := by
    have path : Platform.plain.path? "rules.yaml" = some (Path.ofText "rules.yaml") := by decide
    rw [SyncOptions.rulesIn_of_known path]
    exact loadRules_of_empty rfl
  state_loaded := SyncOptions.stateIn_of_find (by decide) (by rw [stateFile_eq]; rfl)

theorem since_eq : opening.since = some cursor := by
  have kept : stored.resolve emptyHash = stored := by
    rw [SyncState.resolve]
    simp [stored]
  change (stored.resolve emptyHash).since = some cursor
  rw [kept]
  rfl

theorem overlay_eq : Client.overlay Client.tagsClient.pageSize (Client.given query) =
    [("per_page", "7"), ("since", "2024-04-01T02:00:00+02:00"), ("a&b", "50% = #1 – 😀")] := by
  decide +kernel

end East

/-- Signs that have a meaning in a URL, or none, are read as they have been given. -/
theorem east_cursor_reaches_service :
    Url.IsBase Client.tagsClient.baseUrl ∧ Url.IsWord RecordKind.entry.resource.toList ∧
      (East.query.map Prod.fst).Nodup ∧
      (∃ url later,
        (Client.tagsClient.pages RecordKind.entry.resource (Client.fields East.query)
          (East.world.service.replies.length + 1) East.world.service).2.requests =
          East.world.service.requests ++
            Client.tagsClient.request .get url none :: later ∧
        Form.parameters (Url.queryOf url.toList) =
          [("per_page", "7"), ("since", "2024-04-01T02:00:00+02:00"),
            ("a&b", "50% = #1 – 😀")]) ∧
      ∃ url later,
        (outcome (runSync (.ofClient Client.tagsClient) East.options)
          East.world).2.service.requests =
          East.world.service.requests ++
            Client.tagsClient.request .get url none :: later ∧
        Form.parameters (Url.queryOf url.toList) =
          [("per_page", "500"), ("from", "2024-04-01"), ("to", "2024-04-30"),
            ("since", "2024-04-01T02:00:00+02:00")] := by
  have distinct : (East.query.map Prod.fst).Nodup := by decide
  obtain ⟨first, whole⟩ := parameters_reach_service Client.isBase_tags
  refine ⟨Client.isBase_tags, isWord_entries, distinct, ?_, ?_⟩
  · obtain ⟨url, asked, free, form⟩ :=
      first _ isWord_entries East.query distinct East.world.service.replies.length
        East.world.service
    rw [Client.AsksFirst, free visible_entries] at asked
    obtain ⟨later, asked⟩ := asked
    exact ⟨url, later, asked, form.trans East.overlay_eq⟩
  · obtain ⟨url, later, asked, form⟩ := whole East.options East.world East.opening
    have first : East.options.first.text = "2024-04-01" := by decide +kernel
    have last : East.options.last.text = "2024-04-30" := by decide +kernel
    have size : toString Client.tagsClient.pageSize = "500" := by decide +kernel
    rw [East.since_eq, first, last, size] at form
    exact ⟨url, later, asked, form⟩

end LedgerRules
