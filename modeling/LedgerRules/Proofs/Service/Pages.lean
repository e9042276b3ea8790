import LedgerRules.Proofs.Outcome
import LedgerRules.Proofs.Service.FirstPage
import LedgerRules.Proofs.Service.LinkHeader
import LedgerRules.Service.Client

/-!
Lists that come in pages. If every page but the last names the next one, then the pages are
requested one after another, each once, and what is fetched is what all of them list together. Only
the last page gives the cursor.
-/

namespace LedgerRules

open Effect

def headersNamed (headers : List (String × String)) (name : String) : List String :=
  (headers.filter fun header => Text.lowerCase header.1 == name).map (·.2)

/-- A successful reply with a page of a list. It has at most one header with links and at most one
with a date, and the date can be given in ISO notation. -/
structure PageReply (platform : Platform) where
  status : Int
  reason : String
  headers : List (String × String)
  body : Bytes
  items : List Json
  links : List NamedLink
  lastModified : Option String
  watermark : Option String
  successful : 200 ≤ status ∧ status < 300
  listed : Client.payload platform body = .ok (.array items)
  linked : headersNamed headers "link" = [] ∧ links = [] ∨
    ∃ header, headersNamed headers "link" = [header] ∧ NamedLink.AreListed links header.toList
  dated : headersNamed headers "last-modified" = lastModified.toList
  readable : watermark? lastModified = .ok watermark

namespace PageReply

variable {platform : Platform}

def reply (page : PageReply platform) : Reply :=
  .answer page.status page.reason page.headers page.body

def records (page : PageReply platform) : List Json := page.items.filter Client.isRecord

/-- One link is named for the next page, and it can be followed; no other name even begins so. -/
def NamesNext (page : PageReply platform) : Prop :=
  ∃ before next after, page.links = before ++ next :: after ∧ next.IsNext ∧
    Url.IsFollowable next.target.toList ∧ ∀ link ∈ before ++ after, ¬link.BeginsNext

def NamesNoNext (page : PageReply platform) : Prop := ∀ link ∈ page.links, ¬link.BeginsNext

/-- The link that is named for the next page leads to a URL, which is requested without an empty
fragment. -/
def LeadsTo (base : String) (page : PageReply platform) (url : String) : Prop :=
  ∃ link ∈ page.links, link.IsNext ∧ ∃ resolved,
    Url.join (base ++ "/") link.target = .ok resolved ∧
      url.toList = Url.withoutEmptyFragment resolved.toList

theorem headerValue?_eq (headers : List (String × String)) (name : String) :
    headerValue? headers name = (headersNamed headers name).getLast? := by
  rw [headerValue?, headersNamed, ← List.head?_filter, List.filter_reverse, List.head?_reverse,
    List.getLast?_map]

theorem watermark?_eq (page : PageReply platform) :
    watermark? (headerValue? page.headers "last-modified") = .ok page.watermark := by
  have given : page.lastModified.toList.getLast? = page.lastModified := by
    cases page.lastModified <;> rfl
  rw [headerValue?_eq, page.dated, given, page.readable]

theorem watermark_of_undated (page : PageReply platform) (undated : page.lastModified = none) :
    page.watermark = none := by
  have readable := page.readable
  rw [undated] at readable
  exact (Except.ok.inj readable).symm

theorem next?_eq (page : PageReply platform) :
    (headerValue? page.headers "link").bind Link.next? =
      (page.links.find? fun link => link.BeginsNext).map (·.target) := by
  rcases page.linked with ⟨named, links⟩ | ⟨header, named, listed⟩
  · rw [headerValue?_eq, named, links]
    rfl
  · rw [headerValue?_eq, named]
    exact Link.next?_listed listed

theorem nextUrl_of_namesNoNext {page : PageReply platform} (ends : page.NamesNoNext)
    (client : Client) : client.nextUrl page.headers = .ok none := by
  have nothing : page.links.find? (fun link => link.BeginsNext) = none := by
    rw [List.find?_eq_none]
    simpa [NamesNoNext] using ends
  rw [Client.nextUrl, next?_eq, nothing]
  rfl

theorem nextUrl_of_namesNext {page : PageReply platform} (names : page.NamesNext)
    {client : Client} (isBase : Url.IsBase client.baseUrl) :
    ∃ next url, client.nextUrl page.headers = .ok (some next) ∧ Url.target next = .ok url ∧
      Url.IsSendable next ∧ page.LeadsTo client.baseUrl url := by
  obtain ⟨before, link, after, links, named, followable, others⟩ := names
  have begins : link.BeginsNext := by
    rw [NamedLink.BeginsNext, named]
  have found : page.links.find? (fun link => link.BeginsNext) = some link := by
    rw [links, List.find?_append, List.find?_eq_none.mpr, Option.none_or, List.find?_cons_of_pos]
    · simpa using begins
    · intro other member
      simpa using others other (List.mem_append_left after member)
  have filled : link.target.isEmpty = false := Url.isEmpty_eq_false followable.nonempty
  obtain ⟨resolved, joined, web⟩ := Url.join_root isBase followable
  refine ⟨resolved, _, ?_, Url.target_of_isWebUrl web.solid, web.isSendable, link, ?_, named,
    resolved, joined, String.toList_ofList⟩
  · rw [Client.nextUrl, next?_eq, found]
    simp only [Option.map_some, filled, joined, Bool.false_eq_true, if_false]
    rfl
  · rw [links]
    exact List.mem_append_right before List.mem_cons_self

end PageReply

namespace Client

def IsGiven (fields : Json.Fields) : Prop := fields ≠ [] ∧ ∀ field ∈ fields, field.2.isNull = false

theorem IsGiven.insert {fields : Json.Fields} (given : IsGiven fields) {name : String}
    {value : Json} (filled : value.isNull = false) : IsGiven (fields.insert name value) := by
  constructor
  · cases fields with
    | nil => exact absurd rfl given.1
    | cons field rest =>
        rw [Json.Fields.insert]
        split <;> exact List.cons_ne_nil _ _
  · have each := given.2
    clear given
    induction fields with
    | nil => exact List.forall_mem_singleton.mpr filled
    | cons field rest ih =>
        obtain ⟨own, others⟩ := List.forall_mem_cons.mp each
        rw [Json.Fields.insert]
        split
        · exact List.forall_mem_cons.mpr ⟨filled, others⟩
        · exact List.forall_mem_cons.mpr ⟨own, ih others⟩

theorem listParameters_ne_nil (client : Client) (query : Json.Fields) :
    client.listParameters query ≠ [] := by
  have wanted : ∀ parameter ∈ query.filter fun parameter => !parameter.2.isNull,
      parameter.2.isNull = false := by
    intro parameter member
    simpa using (List.mem_filter.mp member).2
  have size : IsGiven [("per_page", .integer client.pageSize)] :=
    ⟨List.cons_ne_nil _ _, List.forall_mem_singleton.mpr rfl⟩
  have all : IsGiven ((query.filter fun parameter => !parameter.2.isNull).foldl
      (fun fields parameter => Json.Fields.insert fields parameter.1 parameter.2)
      [("per_page", .integer client.pageSize)]) := by
    generalize query.filter _ = parameters at wanted
    generalize [("per_page", Json.integer client.pageSize)] = fields at size
    induction parameters generalizing fields with
    | nil => exact size
    | cons parameter rest ih =>
        obtain ⟨own, others⟩ := List.forall_mem_cons.mp wanted
        exact ih others _ (size.insert own)
  rw [listParameters]
  generalize List.foldl _ _ _ = fields at all
  obtain ⟨filled, each⟩ := all
  cases fields with
  | nil => exact absurd rfl filled
  | cons field rest => simp [queryParameters, each field List.mem_cons_self]

variable {client : Client}

def pageOf (page : PageReply client.platform) (next? : Option String) : Page :=
  ⟨page.records, next?, page.watermark⟩

theorem interpret_answer (resource : String) {status : Int} (reason : String)
    (headers : List (String × String)) {body : Bytes} {items : List Json}
    (successful : 200 ≤ status ∧ status < 300)
    (listed : payload client.platform body = .ok (.array items)) :
    client.interpret resource (.answer status reason headers body) =
      .ok (.array items, headers) := by
  simp only [interpret, client.transport.succeeds status successful, listed, if_true]
  rfl

def contents (page : Page) : List Json × Option String := (page.records, page.lastModified)

/-- What keeps a request from being sent: its value is too deep, or its address is refused. -/
def obstacle? (client : Client) (method : Method) (url : String) (body : Option Json) :
    Option ServiceError :=
  if body.any fun value => client.platform.exhausts (.value value) then some .tooDeep
  else (client.transport.refusal? method.name url).map .refused

theorem prepare_eq {method : Method} {url target : String} (requested : Url.target url = .ok target)
    (body : Option Json) :
    client.prepare method url body =
      match client.obstacle? method url body with
      | some error => .error error
      | none => .ok (client.request method target body) := by
  simp only [prepare, obstacle?, requested, Except.mapError, bind, Except.bind]
  split
  · rfl
  · cases client.transport.refusal? method.name url <;> rfl

theorem obstacle?_of_isSendable {url : String} (sendable : Url.IsSendable url)
    (method : Method) : client.obstacle? method url none = none := by
  simp only [obstacle?, client.transport.carries _ _ sendable, Option.any_none,
    Bool.false_eq_true, if_false, Option.map_none]

theorem outcome_send {method : Method} {resource url : String} {body : Option Json}
    {request : Request} {reply : Reply} {answer : Json × List (String × String)}
    {connection : Connection} {later : List Reply}
    (prepared : client.prepare method url body = .ok request)
    (interpreted : client.interpret resource reply = .ok answer)
    (replies : connection.replies = reply :: later) :
    outcome (client.send method url resource body) connection =
      (.ok answer,
        { connection with replies := later, requests := connection.requests ++ [request] }) := by
  have exchanged : exchange request connection = (reply,
      { connection with replies := later, requests := connection.requests ++ [request] }) := by
    obtain ⟨_, requests, log⟩ := connection
    obtain rfl := replies
    rfl
  rw [send, prepared]
  change (let (reply, after) := exchange request connection
    (client.interpret resource reply, after)) = _
  rw [exchanged]
  simp only [interpreted]

theorem outcome_readPage (resource : String) (number : Nat) {url target : String}
    {page : PageReply client.platform} {next? : Option String} {connection : Connection}
    {later : List Reply} (requested : Url.target url = .ok target)
    (sendable : Url.IsSendable url) (next : client.nextUrl page.headers = .ok next?)
    (replies : connection.replies = page.reply :: later) :
    ∃ log, outcome (client.readPage resource number url) connection =
      (.ok (pageOf page next?),
        ⟨later, connection.requests ++ [client.request .get target none], log⟩) := by
  have prepared : client.prepare .get url none = .ok (client.request .get target none) := by
    rw [prepare_eq requested, obstacle?_of_isSendable sendable]
  have interpreted := interpret_answer resource page.reason page.headers page.successful page.listed
  rw [readPage, outcome_bind_ok (outcome_send prepared interpreted replies)]
  simp only [next, page.watermark?_eq, Except.mapError]
  exact ⟨_, rfl⟩

theorem run_bind {σ α β : Type} (action : StateM σ α) (next : α → StateM σ β) (state : σ) :
    (action >>= next) state = next (action state).1 (action state).2 := rfl

theorem readPages_succ (client : Client) (resource : String) (limit number : Nat)
    (url : String) (connection : Connection) :
    client.readPages resource (limit + 1) number url connection =
      match outcome (client.readPage resource number url) connection with
      | (.error error, after) => (⟨[], some error⟩, after)
      | (.ok page, after) =>
          match page.nextUrl with
          | none => (⟨[page], none⟩, after)
          | some next =>
              let (rest, later) := client.readPages resource limit (number + 1) next after
              ({ rest with pages := page :: rest.pages }, later) := by
  rw [readPages, run_bind, outcome]
  obtain ⟨error | page, after⟩ := (client.readPage resource number url).run connection
  · rfl
  · cases found : page.nextUrl <;> simp only [found] <;> rfl

theorem readPages_linked (isBase : Url.IsBase client.baseUrl) (resource : String)
    {front : List (PageReply client.platform)} {last : PageReply client.platform}
    (linked : ∀ page ∈ front, page.NamesNext) (ends : last.NamesNoNext) {later : List Reply}
    {limit : Nat} (enough : front.length < limit) (number : Nat) {url target : String}
    (requested : Url.target url = .ok target) (sendable : Url.IsSendable url)
    (connection : Connection)
    (replies : connection.replies = (front ++ [last]).map PageReply.reply ++ later) :
    ∃ pages followed log, List.Forall₂ (PageReply.LeadsTo client.baseUrl) front followed ∧
      client.readPages resource limit number url connection =
        (⟨pages, none⟩, ⟨later, connection.requests ++
          (target :: followed).map fun url => client.request .get url none, log⟩) ∧
      pages.map contents = (front ++ [last]).map fun page => (page.records, page.watermark) := by
  induction front generalizing limit number url target connection with
  | nil =>
      obtain ⟨limit, rfl⟩ := Nat.exists_eq_succ_of_ne_zero (Nat.ne_of_gt enough)
      have none := PageReply.nextUrl_of_namesNoNext ends client
      obtain ⟨log, read⟩ := outcome_readPage resource number requested sendable none replies
      refine ⟨[pageOf last .none], [], log, .nil, ?_, rfl⟩
      rw [readPages_succ, read]
      rfl
  | cons page front ih =>
      obtain ⟨limit, rfl⟩ := Nat.exists_eq_succ_of_ne_zero (Nat.ne_of_gt (Nat.zero_lt_of_lt enough))
      obtain ⟨names, others⟩ := List.forall_mem_cons.mp linked
      obtain ⟨next, nextTarget, nextUrl, nextRequested, nextSendable, leads⟩ :=
        PageReply.nextUrl_of_namesNext names isBase
      have first : connection.replies =
          page.reply :: ((front ++ [last]).map PageReply.reply ++ later) := replies
      obtain ⟨log, read⟩ := outcome_readPage resource number requested sendable nextUrl first
      obtain ⟨pages, followed, logToo, chain, rest, same⟩ :=
        ih others (Nat.lt_of_succ_lt_succ enough) (number + 1) nextRequested nextSendable
          ⟨(front ++ [last]).map PageReply.reply ++ later,
            connection.requests ++ [client.request .get target none], log⟩ rfl
      refine ⟨pageOf page (some next) :: pages, nextTarget :: followed, logToo, .cons leads chain,
        ?_, by rw [List.map_cons, same]; rfl⟩
      rw [readPages_succ, read]
      simp only [pageOf, rest, List.append_assoc]
      rfl

theorem contents_read {platform : Platform} {pages : List Page}
    {front : List (PageReply platform)} {last : PageReply platform}
    (same : pages.map contents = (front ++ [last]).map fun page => (page.records, page.watermark)) :
    pages.flatMap (·.records) = (front ++ [last]).flatMap PageReply.records ∧
      pages.getLast?.bind (·.lastModified) = last.watermark := by
  constructor
  · have records := congrArg (List.flatMap Prod.fst) same
    rwa [List.flatMap_map, List.flatMap_map] at records
  · have watermark := congrArg (fun read => read.getLast?.bind Prod.snd) same
    simpa [List.getLast?_map, contents, Option.bind_map, Function.comp_def] using watermark

theorem outcome_lift {α : Type} (action : StateM Connection α) (connection : Connection) :
    outcome (liftM action : Exchange α) connection =
      (.ok (action connection).1, (action connection).2) := rfl

theorem outcome_fetchAll {resource : String} {query : Json.Fields}
    {connection after : Connection} {read : List Page}
    (listed : client.pages resource query (connection.replies.length + 1) connection =
      (⟨read, none⟩, after)) :
    ∃ log, outcome (client.fetchAll resource query) connection =
      (.ok ⟨read.flatMap (·.records), read.getLast?.bind (·.lastModified)⟩,
        { after with log }) := by
  rw [fetchAll, outcome_bind_ok (outcome_get connection), outcome_bind_ok (outcome_lift _ _),
    listed]
  exact ⟨_, rfl⟩

/-- All pages of a list are requested, each once and in order, and their records are concatenated.
The cursor is the watermark of the last page, also if only earlier ones have a date. -/
theorem all_pages_fetched_in_order (isBase : Url.IsBase client.baseUrl)
    {resource : String} (plain : Url.IsPlain resource.toList) (query : Json.Fields)
    {front : List (PageReply client.platform)} {last : PageReply client.platform}
    (linked : ∀ page ∈ front, page.NamesNext) (ends : last.NamesNoNext) {connection : Connection}
    {later : List Reply}
    (replies : connection.replies = (front ++ [last]).map PageReply.reply ++ later) :
    ∃ first followed after,
      Url.ofPath client.baseUrl resource (client.listParameters query) = .ok first ∧
      List.Forall₂ (PageReply.LeadsTo client.baseUrl) front followed ∧
      outcome (client.fetchAll resource query) connection =
        (.ok ⟨(front ++ [last]).flatMap PageReply.records, last.watermark⟩, after) ∧
      (last.lastModified = none → last.watermark = none) ∧
      after.requests = connection.requests ++
        (first :: followed).map (fun url => client.request .get url none) ∧
      after.replies = later := by
  obtain ⟨first, built, requested, sendable⟩ :=
    Url.ofPath_plain isBase plain (listParameters_ne_nil client query)
  have enough : front.length < connection.replies.length + 1 := by
    rw [replies]
    simp
  obtain ⟨found, followed, log, chain, read, same⟩ :=
    readPages_linked isBase resource linked ends enough 1 requested sendable connection replies
  obtain ⟨records, watermark⟩ := contents_read same
  have start : client.pages resource query (connection.replies.length + 1) connection =
      client.readPages resource (connection.replies.length + 1) 1 first connection := by
    rw [pages, built]
  obtain ⟨log, fetched⟩ := outcome_fetchAll (start.trans read)
  rw [records, watermark] at fetched
  exact ⟨first, followed, _, built, chain, fetched, last.watermark_of_undated, rfl, rfl⟩

theorem payload_of_read {text : String} {value : Json}
    (decoded : Utf8.decodeLenient (Utf8.encode text) = text)
    (filled : Text.isBlankText text = false) (read : Json.read text = .ok value) :
    payload .plain (Utf8.encode text) = .ok value := by
  simp only [payload, decoded, filled, read, Bool.false_eq_true, if_false]
  rfl

def firstLink : NamedLink := ⟨"/tags?page=0", "first", by decide, by decide⟩

def nextLink : NamedLink :=
  ⟨"https://api.toshl.com/tags?page=1", "next", by decide, by decide⟩

def linkHeader : String :=
  "</tags?page=0>; rel=\"first\", <https://api.toshl.com/tags?page=1>; rel=\"next\""

theorem linkHeader_listed : NamedLink.AreListed [firstLink, nextLink] linkHeader.toList := by
  have same : linkHeader.toList = firstLink.text ++ ([] ++ ',' :: ([' '] ++ nextLink.text)) := by
    decide +kernel
  rw [same]
  have blank : ∀ character ∈ [' '], Text.isBlank character := List.forall_mem_singleton.mpr rfl
  exact .more firstLink nofun blank (.last nextLink)

theorem payload_april :
    payload .plain (Utf8.encode "[\x7b\"id\":1\x7d]") =
      .ok (.array [.object [("id", .integer 1)]]) :=
  payload_of_read (by decide +kernel) (by decide +kernel) (by cbv)

def aprilPage : PageReply .plain where
  status := 200
  reason := "OK"
  headers := [("Link", linkHeader), ("Last-Modified", "Mon, 01 Apr 2024 00:00:00 GMT")]
  body := Utf8.encode "[\x7b\"id\":1\x7d]"
  items := [.object [("id", .integer 1)]]
  links := [firstLink, nextLink]
  lastModified := some "Mon, 01 Apr 2024 00:00:00 GMT"
  watermark := some "2024-04-01T00:00:00+00:00"
  successful := by decide
  listed := payload_april
  linked := .inr ⟨linkHeader, by decide +kernel, linkHeader_listed⟩
  dated := by decide +kernel
  readable := by decide +kernel

theorem payload_last :
    payload .plain (Utf8.encode "[\x7b\"id\":2\x7d]") =
      .ok (.array [.object [("id", .integer 2)]]) :=
  payload_of_read (by decide +kernel) (by decide +kernel) (by cbv)

def lastPage : PageReply .plain where
  status := 200
  reason := "OK"
  headers := []
  body := Utf8.encode "[\x7b\"id\":2\x7d]"
  items := [.object [("id", .integer 2)]]
  links := []
  lastModified := none
  watermark := none
  successful := by decide
  listed := payload_last
  linked := .inl ⟨rfl, rfl⟩
  dated := rfl
  readable := rfl

def tagsClient : Client := ⟨⟨"https://api.toshl.com", "token", 500, 30⟩, .plain, .http⟩

theorem isBase_tags : Url.IsBase tagsClient.baseUrl := by
  have solid : ("api.toshl.com".toList.all fun character => !Text.isBlank character) = true := by
    decide +kernel
  have closed : ("api.toshl.com".toList.all fun character => !Url.isPathEnd character) = true := by
    decide +kernel
  refine ⟨['h', 't', 't', 'p', 's'], by decide, "api.toshl.com".toList, ?_, by decide +kernel⟩
  exact ⟨by decide, by simpa [Url.IsSolid, Url.Consists] using solid, by simpa using closed,
    by decide +kernel, by decide +kernel⟩

theorem plain_of_all {text : String}
    (visible : (text.toList.all fun character =>
      decide (0x21 ≤ character.toNat ∧ character.toNat ≤ 0x7E)) = true)
    (unbracketed : '[' ∉ text.toList ∧ ']' ∉ text.toList) : Url.IsPlain text.toList :=
  ⟨by simpa using visible, unbracketed⟩

theorem namesNext_april : aprilPage.NamesNext := by
  refine ⟨[firstLink], nextLink, [], rfl, by decide +kernel, ?_, ?_⟩
  · refine ⟨plain_of_all (by decide +kernel) (by decide +kernel), .inr ?_⟩
    exact ⟨['h', 't', 't', 'p', 's'], 'a', "pi.toshl.com/tags?page=1".toList, by decide +kernel,
      by decide, by decide +kernel⟩
  · exact List.forall_mem_singleton.mpr (by decide +kernel)

theorem two_pages_fetched_in_order :
    Url.IsBase tagsClient.baseUrl ∧ Url.IsPlain "tags".toList ∧
      (∀ page ∈ [aprilPage], page.NamesNext) ∧ lastPage.NamesNoNext ∧
      ∃ first followed after,
        Url.ofPath tagsClient.baseUrl "tags" (tagsClient.listParameters []) = .ok first ∧
        List.Forall₂ (PageReply.LeadsTo tagsClient.baseUrl) [aprilPage] followed ∧
        outcome (tagsClient.fetchAll "tags" []) ⟨[aprilPage.reply, lastPage.reply], [], []⟩ =
          (.ok ⟨[.object [("id", .integer 1)], .object [("id", .integer 2)]], none⟩, after) ∧
        (lastPage.lastModified = none → lastPage.watermark = none) ∧
        after.requests =
          (first :: followed).map (fun url => tagsClient.request .get url none) ∧
        after.replies = [] := by
  have plain : Url.IsPlain "tags".toList := plain_of_all (by decide +kernel) (by decide +kernel)
  have linked : ∀ page ∈ [aprilPage], page.NamesNext :=
    List.forall_mem_singleton.mpr namesNext_april
  have ends : lastPage.NamesNoNext := nofun
  exact ⟨isBase_tags, plain, linked, ends,
    all_pages_fetched_in_order isBase_tags plain [] linked ends rfl⟩

end Client

end LedgerRules
