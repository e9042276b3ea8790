import LedgerRules.Proofs.Service.Followed
import LedgerRules.Proofs.Service.Form
import LedgerRules.Proofs.Service.Pages

/-!
The first request for a list: the root of the base, the word for the resource, and all parameters as
a form. The size of a page is one of them. What is given replaces it or follows it, and what is null
is left out.
-/

namespace LedgerRules

namespace Url

open Text (isBlank splitOnce splitAt)

/-- One name of a path. It has no blanks, nothing that ends a name, and it leads nowhere else. -/
structure IsWord (word : List Char) : Prop where
  solid : IsSolid word
  whole : ∀ mark ∈ ['/', '?', '#', ';'], mark ∉ word
  proper : word ≠ ['.'] ∧ word ≠ ['.', '.']

namespace IsWord

variable {word : List Char}

theorem not_mem_rooted (isWord : IsWord word) {mark : Char} (marked : mark ∈ ['?', '#', ';']) :
    mark ∉ '/' :: word := by
  rw [List.mem_cons, not_or]
  refine ⟨?_, isWord.whole mark (List.mem_cons_of_mem _ marked)⟩
  rintro rfl
  exact absurd marked (by decide)

theorem not_isPoints (isWord : IsWord word) : ¬IsPoints word :=
  fun points => points.elim isWord.proper.1 isWord.proper.2

theorem withTail_eq (isWord : IsWord word) (scheme authority : List Char) :
    withTail scheme authority ('/' :: word) = ⟨scheme, authority, '/' :: word, [], [], []⟩ := by
  have lastName : ';' ∉ (('/' :: word).reverse.takeWhile (· != '/')).reverse := by
    have outside : ';' ∉ '/' :: word := isWord.not_mem_rooted (by decide)
    intro member
    exact outside (List.mem_reverse.mp (List.takeWhile_subset _ (List.mem_reverse.mp member)))
  have parameters : splitParameters ('/' :: word) = ('/' :: word, []) := by
    simp only [splitParameters, Text.splitOnce_of_not_mem lastName]
  have fragment : '#' ∉ '/' :: word := isWord.not_mem_rooted (by decide)
  have query : '?' ∉ '/' :: word := isWord.not_mem_rooted (by decide)
  simp only [withTail, Text.splitOnce_of_not_mem fragment, Text.splitOnce_of_not_mem query,
    parameters]
  rfl

theorem followed_eq (isWord : IsWord word) : followed ('/' :: word) = '/' :: word := by
  have names : splitAt '/' ('/' :: word) = [[], word] := by
    have parts : splitAt '/' ([] ++ '/' :: word) = [] :: splitAt '/' word :=
      Text.splitAt_separated (by decide) word
    rwa [List.nil_append, Text.splitAt_of_not_mem (isWord.whole '/' (by decide))] at parts
  have plain : ∀ name ∈ splitAt '/' ('/' :: word), ¬IsPoints name := by
    rw [names]
    exact List.forall_mem_cons.mpr
      ⟨not_isPoints_nil, List.forall_mem_singleton.mpr isWord.not_isPoints⟩
  have joined := joinNames_of_plain (List.cons_ne_nil '/' word) plain
  simp only [followed, isWord.withTail_eq, joined]
  simp [marked, rooted]

end IsWord

theorem isWord_entries : IsWord "entries".toList := by
  have solid : ("entries".toList.all fun character => !Text.isBlank character) = true := by
    decide +kernel
  exact ⟨by simpa [IsSolid, Consists] using solid, by simp, by simp⟩

def listUrl (root word : String) (parameters : List (String × String)) : String :=
  root ++ "/" ++ word ++ "?" ++ encodeParameters parameters

theorem isWebUrl_listUrl {kind : Char → Prop}
    (visible : ∀ character, isVisible character → kind character) {root base word : String}
    (isRoot : IsRootOf root base) (consists : Consists kind word.toList)
    {parameters : List (String × String)} :
    IsWebUrl kind (listUrl root word parameters).toList := by
  have query := isQueryCharacter_encodeParameters parameters
  rw [listUrl]
  generalize encodeParameters parameters = encoded at query ⊢
  obtain ⟨scheme, web, authority, host, same⟩ := isRoot.isBase
  have text : (root ++ "/" ++ word ++ "?" ++ encoded).toList =
      located scheme authority ('/' :: word.toList) ++ '?' :: encoded.toList := by
    simp [same, located]
  rw [text]
  refine (IsWebUrl.located (by rwa [lower_of_web web]) host
    ⟨.cons (visible _ (by decide)) consists, .cons (by decide)⟩).append (by decide) ?_
  exact .cons (visible _ (by decide)) fun character member => visible _ (query _ member).1

theorem isSendable_listUrl {root base word : String} (isRoot : IsRootOf root base)
    {parameters : List (String × String)} (visible : Consists (isVisible ·) word.toList) :
    IsSendable (listUrl root word parameters) :=
  (isWebUrl_listUrl (fun _ => id) isRoot visible).isSendable

section Root

variable {root base word : String} (isRoot : IsRootOf root base) (isWord : IsWord word.toList)
  {parameters : List (String × String)}
include isRoot isWord

theorem ofPath_word (filled : parameters ≠ []) :
    ofPath base word parameters = .ok (listUrl root word parameters) := by
  have relative : ¬word.toList.head? = some '/' := fun slash =>
    isWord.whole '/' (by decide) (List.mem_of_mem_head? slash)
  have given : parameters.isEmpty = false := by simpa using filled
  have path : ("/" ++ word).toList = '/' :: word.toList := by simp
  have solid := withoutBreaks_eq_self isWord.solid
  have joined : join base ("/" ++ word) = .ok (root ++ "/" ++ word) := by
    rw [isRoot.join_slash path (by rwa [solid]), solid, isWord.followed_eq]
    congr 1
    rw [← String.toList_inj]
    simp
  simp only [ofPath, beq_iff_eq, relative, if_false, joined, given, bind, Except.bind, pure,
    Except.pure, Bool.false_eq_true, listUrl]

theorem target_listUrl :
    target (listUrl root word parameters) = .ok (listUrl root word parameters) ∧
      Form.parameters (queryOf (listUrl root word parameters).toList) = parameters := by
  have isWebUrl : IsWebUrl (isBlank · = false) (listUrl root word parameters).toList :=
    isWebUrl_listUrl (fun _ => isBlank_of_isVisible) isRoot isWord.solid
  have form := Form.parameters_encodeParameters parameters
  have query := isQueryCharacter_encodeParameters parameters
  rw [listUrl] at isWebUrl ⊢
  generalize (encodeParameters parameters) = encoded at form query isWebUrl ⊢
  obtain ⟨scheme, web, authority, host, same⟩ := isRoot.isBase
  have webToo : scheme.map Char.toLower ∈ webSchemes := by rwa [lower_of_web web]
  have text : (root ++ "/" ++ word ++ "?" ++ encoded).toList =
      located scheme authority [] ++ ('/' :: word.toList) ++ '?' :: encoded.toList := by
    simp [same]
  have outside {mark : Char} (ends : isPathEnd mark = true) (inside : mark ≠ '/')
      (marked : mark ∈ ['?', '#', ';']) :
      mark ∉ located scheme authority [] ++ ('/' :: word.toList) := by
    rw [List.mem_append, not_or]
    exact ⟨not_mem_located webToo host ends inside, isWord.not_mem_rooted marked⟩
  have unmarked : '#' ∉ (root ++ "/" ++ word ++ "?" ++ encoded).toList := by
    rw [text, List.mem_append, List.mem_cons]
    rintro (before | mark | member)
    · exact outside (by decide) (by decide) (by decide) before
    · exact absurd mark (by decide)
    · exact (query _ member).2 rfl
  constructor
  · rw [target_of_isWebUrl isWebUrl, withoutEmptyFragment_of_not_mem unmarked,
      String.ofList_toList]
  · rw [queryOf, Text.splitOnce_of_not_mem unmarked, text,
      Text.splitOnce_separated (outside (by decide) (by decide) (by decide))]
    exact form

end Root

end Url

namespace Client

open Effect

/-! The parameters of a list. -/

/-- What is given of a query; a parameter without a value is not. -/
def given (query : List (String × Option String)) : List (String × String) :=
  query.filterMap fun (name, value?) => value?.map (name, ·)

def fields (query : List (String × Option String)) : Json.Fields :=
  query.map fun (name, value?) => (name, Json.ofOption .string value?)

def asFields (parameters : List (String × String)) : Json.Fields :=
  parameters.map fun (name, value) => (name, .string value)

/-- The size of a page, unless another one is given, and then all else that is given, in order. -/
def overlay (pageSize : Int) (parameters : List (String × String)) : List (String × String) :=
  ("per_page", (parameters.lookup "per_page").getD (toString pageSize)) ::
    parameters.filter fun parameter => parameter.1 != "per_page"

theorem filter_fields (query : List (String × Option String)) :
    (fields query).filter (fun field => !field.2.isNull) = asFields (given query) := by
  induction query with
  | nil => rfl
  | cons parameter rest ih =>
      obtain ⟨name, _ | value⟩ := parameter
      · exact ih
      · exact congrArg ((name, Json.string value) :: ·) ih

theorem nodup_given {query : List (String × Option String)}
    (distinct : (query.map Prod.fst).Nodup) : ((given query).map Prod.fst).Nodup := by
  refine distinct.sublist ?_
  induction query with
  | nil => exact .slnil
  | cons parameter rest ih =>
      obtain ⟨name, _ | value⟩ := parameter
      · exact .cons name (ih (List.nodup_cons.mp distinct).2)
      · exact .cons_cons name (ih (List.nodup_cons.mp distinct).2)

theorem insert_new {fields : Json.Fields} {name : String} (absent : name ∉ fields.map Prod.fst)
    (value : Json) : fields.insert name value = fields ++ [(name, value)] := by
  induction fields with
  | nil => rfl
  | cons field rest ih =>
      rw [List.map_cons, List.mem_cons, not_or] at absent
      rw [Json.Fields.insert, if_neg (by simpa using Ne.symm absent.1), ih absent.2,
        List.cons_append]

theorem foldl_insert {parameters : List (String × String)}
    (distinct : (parameters.map Prod.fst).Nodup) {front : Json.Fields}
    (apart : (parameters.map Prod.fst).Disjoint (front.map Prod.fst)) (name : String)
    (value : Json) :
    (asFields parameters).foldl
        (fun fields parameter => Json.Fields.insert fields parameter.1 parameter.2)
        ((name, value) :: front) =
      (name, ((parameters.lookup name).map .string).getD value) :: front ++
        asFields (parameters.filter fun parameter => parameter.1 != name) := by
  induction parameters generalizing front value with
  | nil => simp [asFields]
  | cons parameter rest ih =>
      obtain ⟨other, text⟩ := parameter
      obtain ⟨absent, others⟩ := List.nodup_cons.mp distinct
      obtain ⟨own, apart⟩ := List.disjoint_cons_left.mp apart
      rw [asFields, List.map_cons, List.foldl_cons, ← asFields]
      by_cases same : other = name
      · subst same
        have nothing : rest.lookup other = none := by
          rw [List.lookup_eq_none_iff]
          intro field member
          simpa using fun same => absent (List.mem_map.mpr ⟨field, member, same.symm⟩)
        rw [Json.Fields.insert, if_pos (by simp), ih others apart, nothing]
        simp
      · have fresh : (rest.map Prod.fst).Disjoint
            ((front ++ [(other, Json.string text)]).map Prod.fst) := by
          rw [List.map_append, List.disjoint_append_right]
          exact ⟨apart, List.disjoint_singleton.mpr absent⟩
        rw [Json.Fields.insert, if_neg (by simpa using Ne.symm same), insert_new own,
          ih others fresh]
        simp [asFields, same, List.lookup_cons, beq_false_of_ne (Ne.symm same)]

theorem listParameters_fields (client : Client) {query : List (String × Option String)}
    (distinct : (query.map Prod.fst).Nodup) :
    client.listParameters (fields query) = overlay client.pageSize (given query) := by
  have apart : ((given query).map Prod.fst).Disjoint (([] : Json.Fields).map Prod.fst) := by simp
  have all := foldl_insert (nodup_given distinct) apart "per_page" (.integer client.pageSize)
  have shown (parameters : List (String × String)) :
      queryParameters (asFields parameters) = parameters := by
    induction parameters with
    | nil => rfl
    | cons parameter rest ih => exact congrArg (parameter :: ·) ih
  rw [listParameters, filter_fields]
  simp only [all, overlay]
  cases (given query).lookup "per_page" with
  | none => exact congrArg (_ :: ·) (shown _)
  | some size => exact congrArg (_ :: ·) (shown _)

/-! What has been requested stays requested. -/

/-- The later connection has made all requests of the earlier one, and maybe more. -/
def Requests (before after : Connection) : Prop := before.requests <+: after.requests

instance : IsPreorder Connection Requests where
  refl connection := List.prefix_refl connection.requests
  trans _ _ _ := List.IsPrefix.trans

theorem requests_lifted {α : Type} (result : Except ServiceError α) :
    Keeps Requests (liftM result : Exchange α) :=
  fun connection => refl_of Requests connection

theorem requests_exchange (request : Request) (connection : Connection) :
    (exchange request connection).2.requests = connection.requests ++ [request] := by
  obtain ⟨_ | ⟨reply, rest⟩, requests, log⟩ := connection <;> rfl

section Send

variable {client : Client} {method : Method} {url target : String}
  (requested : Url.target url = .ok target) (resource : String) {body : Option Json}
  (connection : Connection)
include requested

theorem requests_send (free : client.obstacle? method url body = none) :
    (outcome (client.send method url resource body) connection).2.requests =
      connection.requests ++ [client.request method target body] := by
  rw [send, prepare_eq requested, free]
  exact requests_exchange _ _

theorem outcome_send_of_obstacle {error : ServiceError}
    (obstructed : client.obstacle? method url body = some error) :
    outcome (client.send method url resource body) connection = (.error error, connection) := by
  rw [send, prepare_eq requested, obstructed]
  rfl

end Send

theorem keeps_send (client : Client) (method : Method) (url resource : String)
    (body : Option Json) : Keeps Requests (client.send method url resource body) := by
  apply (requests_lifted _).bind
  intro request
  have sent : Keeps Requests (liftM (exchange request) : Exchange Reply) := by
    intro connection
    change connection.requests <+: (exchange request connection).2.requests
    rw [requests_exchange]
    exact List.prefix_append _ _
  exact sent.bind fun reply => requests_lifted _

section Pages

variable (client : Client) (resource : String)

theorem requests_readPage (number : Nat) (url : String) (connection : Connection) :
    (outcome (client.readPage resource number url) connection).2.requests =
      (outcome (client.send .get url resource none) connection).2.requests := by
  rw [readPage, outcome_bind]
  generalize outcome (client.send .get url resource none) connection = sent
  obtain ⟨error | ⟨value, headers⟩, after⟩ := sent
  · rfl
  cases value with
  | array items =>
      simp only [outcome_bind]
      cases client.nextUrl headers with
      | error fault => rfl
      | ok next => cases watermark? (headerValue? headers "last-modified") <;> rfl
  | _ => rfl

theorem keeps_readPage (number : Nat) (url : String) :
    Keeps Requests (client.readPage resource number url) := by
  intro connection
  rw [Requests, requests_readPage]
  exact keeps_send client .get url resource none connection

theorem requests_readPages_succ {limit : Nat}
    (later : ∀ number url connection,
      Requests connection (client.readPages resource limit number url connection).2)
    (number : Nat) (url : String) (connection : Connection) :
    Requests (outcome (client.readPage resource number url) connection).2
      (client.readPages resource (limit + 1) number url connection).2 := by
  rw [readPages_succ]
  generalize outcome (client.readPage resource number url) connection = read
  obtain ⟨error | page, after⟩ := read
  · exact refl_of Requests after
  · cases found : page.nextUrl with
    | none =>
        simp only [found]
        exact refl_of Requests after
    | some next =>
        simp only [found]
        exact later (number + 1) next after

theorem keeps_readPages (limit number : Nat) (url : String) (connection : Connection) :
    Requests connection (client.readPages resource limit number url connection).2 := by
  induction limit generalizing number url connection with
  | zero => exact refl_of Requests connection
  | succ limit ih =>
      exact trans_of Requests (keeps_readPage client resource number url connection)
        (requests_readPages_succ client resource ih number url connection)

theorem keeps_pages (query : Json.Fields) (limit : Nat) (connection : Connection) :
    Requests connection (client.pages resource query limit connection).2 := by
  rw [pages]
  cases Url.ofPath client.baseUrl resource (client.listParameters query) with
  | error fault => exact refl_of Requests connection
  | ok url => exact keeps_readPages client resource limit 1 url connection

theorem requests_fetchAll (query : Json.Fields) (connection : Connection) :
    (outcome (client.fetchAll resource query) connection).2.requests =
      (client.pages resource query (connection.replies.length + 1) connection).2.requests := by
  rw [fetchAll, outcome_bind_ok (outcome_get connection), outcome_bind_ok (outcome_lift _ _)]
  generalize client.pages resource query (connection.replies.length + 1) connection = read
  obtain ⟨⟨listed, error | none⟩, after⟩ := read <;> rfl

theorem keeps_fetchAll (query : Json.Fields) : Keeps Requests (client.fetchAll resource query) := by
  intro connection
  rw [Requests, requests_fetchAll]
  exact keeps_pages client resource query _ connection

theorem keeps_replace (id : String) (record : Option Json) :
    Keeps Requests (client.replace resource id record) := by
  apply (requests_lifted _).bind
  intro url
  exact (keeps_send client .put url resource record).bind fun _ => keeps_pure _

end Pages

section FirstRequest

/-- The first request is for the URL, unless something keeps it from being sent. -/
def AsksFirst (client : Client) (url : String) (before after : Connection) : Prop :=
  match client.obstacle? .get url none with
  | some _ => after = before
  | none => ∃ later, after.requests =
      before.requests ++ client.request .get url none :: later

variable {client : Client} {root resource : String}
  (isRoot : Url.IsRootOf root client.baseUrl) (isWord : Url.IsWord resource.toList)
include isRoot isWord

theorem pages_eq (query : Json.Fields) (limit : Nat) (connection : Connection) :
    client.pages resource query limit connection =
      client.readPages resource limit 1
        (Url.listUrl root resource (client.listParameters query)) connection := by
  rw [pages, Url.ofPath_word isRoot isWord (listParameters_ne_nil client query)]

theorem pages_of_obstacle {query : Json.Fields} {error : ServiceError}
    (obstructed : client.obstacle? .get
      (Url.listUrl root resource (client.listParameters query)) none = some error)
    (limit : Nat) (connection : Connection) :
    client.pages resource query (limit + 1) connection = (⟨[], some error⟩, connection) := by
  have requested : Url.target (Url.listUrl root resource (client.listParameters query)) = _ :=
    (Url.target_listUrl isRoot isWord).1
  have sent := outcome_send_of_obstacle requested resource connection obstructed
  rw [pages_eq isRoot isWord, readPages_succ, readPage, outcome_bind, sent]

theorem requests_pages {query : Json.Fields}
    (free : client.obstacle? .get
      (Url.listUrl root resource (client.listParameters query)) none = none)
    (limit : Nat) (connection : Connection) :
    ∃ later, (client.pages resource query (limit + 1) connection).2.requests =
      connection.requests ++
        client.request .get (Url.listUrl root resource (client.listParameters query)) none ::
          later := by
  have requested : Url.target (Url.listUrl root resource (client.listParameters query)) = _ :=
    (Url.target_listUrl isRoot isWord).1
  obtain ⟨later, more⟩ := requests_readPages_succ client resource
    (keeps_readPages client resource limit) 1
    (Url.listUrl root resource (client.listParameters query)) connection
  refine ⟨later, ?_⟩
  rw [pages_eq isRoot isWord, ← more, requests_readPage,
    requests_send requested resource connection free, List.append_assoc]
  rfl

theorem asksFirst_pages (query : Json.Fields) (limit : Nat) (connection : Connection) :
    client.AsksFirst (Url.listUrl root resource (client.listParameters query)) connection
      (client.pages resource query (limit + 1) connection).2 := by
  rw [AsksFirst]
  cases obstacle : client.obstacle? .get
      (Url.listUrl root resource (client.listParameters query)) none with
  | some error => simp only [pages_of_obstacle isRoot isWord obstacle]
  | none => exact requests_pages isRoot isWord obstacle limit connection

end FirstRequest

/-- The query of the first request for a list is read as the size of a page, overlaid with what is
given. -/
theorem exists_first_request {client : Client} (isBase : Url.IsBase client.baseUrl)
    {resource : String} (isWord : Url.IsWord resource.toList)
    {query : List (String × Option String)} (distinct : (query.map Prod.fst).Nodup) (limit : Nat)
    (connection : Connection) :
    ∃ url, client.AsksFirst url connection
        (client.pages resource (fields query) (limit + 1) connection).2 ∧
      (Url.Consists (Url.isVisible ·) resource.toList →
        client.obstacle? .get url none = none) ∧
      Form.parameters (Url.queryOf url.toList) = overlay client.pageSize (given query) := by
  obtain ⟨-, form⟩ := Url.target_listUrl isBase.isRootOf isWord
  refine ⟨_, asksFirst_pages isBase.isRootOf isWord (fields query) limit connection, ?_, ?_⟩
  · intro visible
    exact obstacle?_of_isSendable (Url.isSendable_listUrl isBase.isRootOf visible) .get
  · rw [form, listParameters_fields client distinct]

end Client

end LedgerRules
