import LedgerRules.Proofs.Calendar.IsoNotation
import LedgerRules.Proofs.Calendar.MailMoment
import LedgerRules.Proofs.Service.Pages

/-!
The header of the last modification. It becomes a moment in ISO notation, or it stays the text it
is, and it decides over no record: what is fetched without such headers is fetched with them. Only
a number out of all bounds ends the fetch.
-/

namespace LedgerRules

open Effect

namespace MailDate

def IsUnboundedText (text : String) : Prop :=
  ∃ parts, parts? text = some parts ∧ parts.IsUnbounded

def Tells (text : String) (moment : Moment) : Prop :=
  ∃ parts, parts? text = some parts ∧ parts.Gives moment

/-- A moment is kept in ISO notation. A text that tells none is kept as it is. -/
def IsKeptAs (text kept : String) : Prop :=
  (∃ moment, Tells text moment ∧ moment.IsIsoText kept.toList) ∨
    (∀ moment, ¬Tells text moment) ∧ kept = text

theorem read_of_tells {text : String} {moment : Moment} (tells : Tells text moment) :
    read text = .ok (some moment) := by
  obtain ⟨parts, found, gives⟩ := tells
  simp only [read, found, Parts.moment?_of_gives gives]

theorem read_eq_none {text : String} (bounded : ¬IsUnboundedText text)
    (nothing : ∀ moment, ¬Tells text moment) : read text = .ok none := by
  cases found : parts? text with
  | none =>
      simp only [read, found]
      rfl
  | some parts =>
      simp only [read, found]
      exact Parts.moment?_eq_none (hasWholeMinutes_parts? found)
        (fun unbounded => bounded ⟨parts, found, unbounded⟩)
        fun moment gives => nothing moment ⟨parts, found, gives⟩

theorem read_of_isUnboundedText {text : String} (unbounded : IsUnboundedText text) :
    ∃ overflow, read text = .error overflow := by
  obtain ⟨parts, found, unbounded⟩ := unbounded
  simp only [read, found]
  exact Parts.moment?_of_isUnbounded unbounded

end MailDate

theorem watermark?_some {text : String} (filled : text ≠ "") :
    watermark? (some text) =
      (MailDate.read text).map fun moment? => some ((moment?.map Moment.isoText).getD text) := by
  have given : text.isEmpty = false := by simpa using filled
  simp only [watermark?, given, Bool.false_eq_true, if_false]

theorem watermark?_isKeptAs {text : String} (filled : text ≠ "")
    (bounded : ¬MailDate.IsUnboundedText text) :
    ∃ kept, watermark? (some text) = .ok (some kept) ∧ MailDate.IsKeptAs text kept := by
  rw [watermark?_some filled]
  by_cases told : ∃ moment, MailDate.Tells text moment
  · obtain ⟨moment, tells⟩ := told
    rw [MailDate.read_of_tells tells]
    refine ⟨moment.isoText, rfl, .inl ⟨moment, tells, ?_⟩⟩
    obtain ⟨parts, -, gives⟩ := tells
    exact Moment.isIsoText_isoText gives.valid gives.undivided gives.near
  · have nothing := not_exists.mp told
    rw [MailDate.read_eq_none bounded nothing]
    exact ⟨text, rfl, .inr ⟨nothing, rfl⟩⟩

theorem watermark?_of_isUnboundedText {text : String} (unbounded : MailDate.IsUnboundedText text) :
    ∃ overflow, watermark? (some text) = .error overflow := by
  have filled : text ≠ "" := by
    rintro rfl
    obtain ⟨parts, found, -⟩ := unbounded
    cases found
  obtain ⟨overflow, failed⟩ := MailDate.read_of_isUnboundedText unbounded
  rw [watermark?_some filled, failed]
  exact ⟨overflow, rfl⟩

def undatedHeaders (headers : List (String × String)) : List (String × String) :=
  headers.filter fun header => Text.lowerCase header.1 != "last-modified"

theorem headerValue?_undated {headers : List (String × String)} {name : String}
    (other : name ≠ "last-modified") :
    headerValue? (undatedHeaders headers) name = headerValue? headers name := by
  have same : headersNamed (undatedHeaders headers) name = headersNamed headers name := by
    rw [headersNamed, undatedHeaders, List.filter_filter, headersNamed]
    congr 2
    funext header
    by_cases named : Text.lowerCase header.1 = name
    · simp [named, other]
    · simp [named]
  rw [PageReply.headerValue?_eq, same, PageReply.headerValue?_eq]

theorem lastModified_undated (headers : List (String × String)) :
    headerValue? (undatedHeaders headers) "last-modified" = none := by
  rw [PageReply.headerValue?_eq, headersNamed, undatedHeaders, List.filter_filter]
  simp

namespace Reply

def undated : Reply → Reply
  | .answer status reason headers body => .answer status reason (undatedHeaders headers) body
  | other => other

def lastModified? : Reply → Option String
  | .answer _ _ headers _ => headerValue? headers "last-modified"
  | _ => none

def watermark? (reply : Reply) : Except MailDate.Overflow (Option String) :=
  LedgerRules.watermark? reply.lastModified?

def IsUnbounded (reply : Reply) : Prop :=
  ∃ text ∈ reply.lastModified?, MailDate.IsUnboundedText text

theorem watermark?_of_bounded {reply : Reply} (bounded : ¬reply.IsUnbounded) :
    ∃ watermark, reply.watermark? = .ok watermark := by
  rw [watermark?]
  cases found : reply.lastModified? with
  | none => exact ⟨none, rfl⟩
  | some text =>
      by_cases filled : text = ""
      · subst filled
        exact ⟨none, rfl⟩
      · obtain ⟨kept, read, -⟩ := watermark?_isKeptAs filled fun unbounded =>
          bounded ⟨text, found, unbounded⟩
        exact ⟨some kept, read⟩

theorem watermark?_of_isUnbounded {reply : Reply} (unbounded : reply.IsUnbounded) :
    ∃ overflow, reply.watermark? = .error overflow := by
  obtain ⟨text, found, unbounded⟩ := unbounded
  rw [watermark?, Option.mem_def.mp found]
  exact watermark?_of_isUnboundedText unbounded

theorem isOk_watermark?_iff {reply : Reply} :
    reply.watermark?.isOk = true ↔ ¬reply.IsUnbounded := by
  constructor
  · intro ok unbounded
    obtain ⟨overflow, failed⟩ := watermark?_of_isUnbounded unbounded
    rw [failed] at ok
    cases ok
  · intro bounded
    obtain ⟨watermark, kept⟩ := watermark?_of_bounded bounded
    rw [kept]
    rfl

theorem isOk_watermarks_iff {replies : List Reply} :
    (replies.mapM watermark?).isOk = true ↔ ∀ reply ∈ replies, ¬reply.IsUnbounded := by
  rw [Except.isOk_mapM, List.all_eq_true]
  simp only [isOk_watermark?_iff]

end Reply

def Connection.undated (connection : Connection) : Connection :=
  { connection with replies := connection.replies.map Reply.undated }

namespace Client

section

variable {client : Client} {resource : String}

theorem nextUrl_undated (headers : List (String × String)) :
    client.nextUrl (undatedHeaders headers) = client.nextUrl headers := by
  rw [nextUrl, headerValue?_undated (by decide), nextUrl]

def undatedAnswer (answer : Json × List (String × String)) : Json × List (String × String) :=
  (answer.1, undatedHeaders answer.2)

theorem interpret_undated (reply : Reply) :
    client.interpret resource reply.undated =
      (client.interpret resource reply).map undatedAnswer := by
  cases reply with
  | unreachable reason => rfl
  | interrupted interruption => rfl
  | answer status reason headers body =>
      simp only [Reply.undated, interpret]
      split_ifs
      · cases payload client.platform body <;> rfl
      · rfl

theorem outcome_send_undated (url : String) (connection : Connection) :
    outcome (client.send .get url resource none) connection.undated =
      ((outcome (client.send .get url resource none) connection).1.map undatedAnswer,
        (outcome (client.send .get url resource none) connection).2.undated) := by
  rw [send]
  cases client.prepare .get url none with
  | error fault => rfl
  | ok request =>
      obtain ⟨_ | ⟨reply, rest⟩, requests, log⟩ := connection
      · rfl
      · exact congrArg (·, _) (interpret_undated reply)

theorem lastModified?_of_interpret {reply : Reply} {answer : Json × List (String × String)}
    (read : client.interpret resource reply = .ok answer) :
    reply.lastModified? = headerValue? answer.2 "last-modified" := by
  cases reply with
  | unreachable reason => cases read
  | interrupted interruption => cases read
  | answer status reason headers body =>
      simp only [interpret] at read
      split_ifs at read
      obtain ⟨value, -, rfl⟩ := Except.map_eq_ok.mp read
      rfl

theorem send_eq_ok {url : String} {connection after : Connection}
    {answer : Json × List (String × String)}
    (sent : outcome (client.send .get url resource none) connection = (.ok answer, after)) :
    ∃ reply, connection.replies = reply :: after.replies ∧
      reply.lastModified? = headerValue? answer.2 "last-modified" := by
  rw [send] at sent
  cases prepared : client.prepare .get url none with
  | error fault =>
      rw [prepared] at sent
      cases sent
  | ok request =>
      rw [prepared] at sent
      obtain ⟨_ | ⟨reply, rest⟩, requests, log⟩ := connection
      · have read : client.interpret resource (.unreachable "no more responses") = .ok answer :=
          congrArg Prod.fst sent
        cases read
      · have read : client.interpret resource reply = .ok answer := congrArg Prod.fst sent
        have later : rest = after.replies := congrArg (·.2.replies) sent
        exact ⟨reply, congrArg (reply :: ·) later, lastModified?_of_interpret read⟩

theorem readPage_undated {number : Nat} {url : String} {connection after : Connection} {page : Page}
    (read : outcome (client.readPage resource number url) connection.undated = (.ok page, after)) :
    ∃ reply later, connection.replies = reply :: later.replies ∧ after = later.undated ∧
      outcome (client.readPage resource number url) connection =
        ((reply.watermark?.mapError .dateOverflow).map fun watermark =>
          { page with lastModified := watermark }, later) := by
  rw [readPage, outcome_bind, outcome_send_undated] at read
  rw [readPage, outcome_bind]
  cases sent : outcome (client.send .get url resource none) connection with
  | mk result middle =>
  rw [sent] at read
  cases result with
  | error error => cases read
  | ok answer =>
  obtain ⟨reply, replies, dated⟩ := send_eq_ok sent
  obtain ⟨value, headers⟩ := answer
  cases value with
  | array items =>
      simp only [Except.map, undatedAnswer, outcome_bind, nextUrl_undated, lastModified_undated]
        at read
      simp only [outcome_bind]
      cases next : client.nextUrl headers with
      | error fault =>
        rw [next] at read
        cases read
      | ok next =>
        rw [next] at read
        obtain ⟨same, rfl⟩ := Prod.mk.inj read
        obtain rfl := Except.ok.inj same
        refine ⟨reply, (log .debug _ middle).2, replies, rfl, ?_⟩
        rw [Reply.watermark?, dated]
        cases watermark? (headerValue? headers "last-modified") <;> rfl
  | _ => cases read

/-- What is read without the headers is read with them, from the same replies. Every page gets the
date of its reply, and the first date out of all bounds ends the reading. -/
def IsRedated (run : Connection → Pages × Connection) : Prop :=
  ∀ {connection after : Connection} {pages : List Page},
    run connection.undated = (⟨pages, none⟩, after) →
    ∃ used later, connection.replies = used ++ later.replies ∧ after = later.undated ∧
      (∀ watermarks, used.mapM Reply.watermark? = .ok watermarks →
        ∃ dated, run connection = (⟨dated, none⟩, later) ∧
          dated.map (·.records) = pages.map (·.records) ∧
          dated.map (·.lastModified) = watermarks) ∧
      ∀ overflow, used.mapM Reply.watermark? = .error overflow →
        (run connection).1.error = some (.dateOverflow overflow)

theorem isRedated_end : IsRedated fun connection => (⟨[], none⟩, connection) := by
  intro connection after pages read
  obtain ⟨same, rfl⟩ := Prod.mk.inj read
  obtain ⟨rfl, -⟩ := Pages.mk.inj same
  refine ⟨[], connection, rfl, rfl, ?_, nofun⟩
  rintro watermarks ⟨⟩
  exact ⟨[], rfl, rfl, rfl⟩

variable (client resource) in
def readFurther (limit number : Nat) (next? : Option String) : Connection → Pages × Connection :=
  match next? with
  | none => fun connection => (⟨[], none⟩, connection)
  | some next => client.readPages resource limit number next

theorem readPages_of_ok {limit number : Nat} {url : String} {connection middle : Connection}
    {page : Page}
    (own : outcome (client.readPage resource number url) connection = (.ok page, middle)) :
    client.readPages resource (limit + 1) number url connection =
      let (further, after) := client.readFurther resource limit (number + 1) page.nextUrl middle
      ({ further with pages := page :: further.pages }, after) := by
  rw [readPages_succ, own]
  cases found : page.nextUrl with
  | none => simp only [found, readFurther]
  | some next =>
      simp only [found, readFurther]
      rfl

theorem isRedated_succ {limit number : Nat} {url : String}
    (further : ∀ next?, IsRedated (client.readFurther resource limit (number + 1) next?)) :
    IsRedated (client.readPages resource (limit + 1) number url) := by
  intro connection after pages read
  cases own : outcome (client.readPage resource number url) connection.undated with
  | mk result middle =>
  cases result with
  | error error =>
      rw [readPages_succ, own] at read
      cases read
  | ok page =>
  obtain ⟨reply, later, replies, rfl, dated⟩ := readPage_undated own
  rw [readPages_of_ok own] at read
  generalize rest : client.readFurther resource limit (number + 1) page.nextUrl later.undated =
    result at read
  obtain ⟨⟨others, none | _⟩, final⟩ := result
  swap
  · cases read
  obtain ⟨same, rfl⟩ := Prod.mk.inj read
  obtain ⟨rfl, -⟩ := Pages.mk.inj same
  obtain ⟨used, last, left, rfl, go, stop⟩ := further _ rest
  have first {watermark : Option String} (kept : reply.watermark? = .ok watermark) :
      outcome (client.readPage resource number url) connection =
        (.ok { page with lastModified := watermark }, later) := by
    rw [dated, kept]
    rfl
  refine ⟨reply :: used, last, by rw [replies, left, List.cons_append], rfl, ?_, ?_⟩
  · intro watermarks all
    simp only [List.mapM_cons, Except.bind_eq_ok, Except.pure_eq_ok] at all
    obtain ⟨watermark, kept, watermarks, all, rfl⟩ := all
    obtain ⟨pages, run, records, rfl⟩ := go watermarks all
    refine ⟨{ page with lastModified := watermark } :: pages, ?_,
      congrArg (page.records :: ·) records, rfl⟩
    rw [readPages_of_ok (first kept), run]
  · intro overflow failed
    simp only [List.mapM_cons, Except.bind_eq_error] at failed
    rcases failed with own | ⟨watermark, kept, failed | ⟨_, _, never⟩⟩
    · rw [readPages_succ, dated, own]
      rfl
    · rw [readPages_of_ok (first kept)]
      exact stop overflow failed
    · cases never

theorem isRedated_readPages (limit number : Nat) (url : String) :
    IsRedated (client.readPages resource limit number url) := by
  induction limit generalizing number url with
  | zero => exact isRedated_end
  | succ limit ih =>
      apply isRedated_succ
      rintro (_ | next)
      · exact isRedated_end
      · exact ih (number + 1) next

theorem isRedated_pages (query : Json.Fields) (limit : Nat) :
    IsRedated (client.pages resource query limit) := by
  intro connection after listed read
  rw [pages] at read ⊢
  cases built : Url.ofPath client.baseUrl resource (client.listParameters query) with
  | error fault =>
      rw [built] at read
      cases read
  | ok url =>
      rw [built] at read
      exact isRedated_readPages limit 1 url read

theorem outcome_fetchAll_of_error {query : Json.Fields} {connection : Connection}
    {error : ServiceError}
    (failed : (client.pages resource query (connection.replies.length + 1) connection).1.error =
      some error) :
    (outcome (client.fetchAll resource query) connection).1 = .error error := by
  rw [fetchAll, outcome_bind_ok (outcome_get connection), outcome_bind_ok (outcome_lift _ _)]
  simp only [failed]
  rfl

theorem fetchAll_eq_ok {query : Json.Fields} {connection after : Connection} {result : FetchResult}
    (fetched : outcome (client.fetchAll resource query) connection = (.ok result, after)) :
    ∃ read middle, client.pages resource query (connection.replies.length + 1) connection =
        (⟨read, none⟩, middle) ∧
      result.records = read.flatMap (·.records) ∧ after.replies = middle.replies ∧
      after.requests = middle.requests := by
  cases listed : client.pages resource query (connection.replies.length + 1) connection with
  | mk result middle =>
  obtain ⟨read, none | error⟩ := result
  · obtain ⟨log, completed⟩ := outcome_fetchAll listed
    rw [fetched] at completed
    obtain ⟨same, rfl⟩ := Prod.mk.inj completed
    obtain rfl := Except.ok.inj same
    exact ⟨read, middle, rfl, rfl, rfl, rfl⟩
  · have failed := outcome_fetchAll_of_error (congrArg (·.1.error) listed)
    rw [fetched] at failed
    cases failed

theorem fetchAll_undated {query : Json.Fields} {connection after : Connection}
    {result : FetchResult}
    (fetched : outcome (client.fetchAll resource query) connection.undated = (.ok result, after)) :
    ∃ used left, connection.replies = used ++ left ∧ after.replies = left.map Reply.undated ∧
      (∀ watermarks, used.mapM Reply.watermark? = .ok watermarks →
        ∃ later, outcome (client.fetchAll resource query) connection =
            (.ok ⟨result.records, watermarks.getLast?.join⟩, later) ∧
          later.replies = left ∧ later.requests = after.requests) ∧
      ∀ overflow, used.mapM Reply.watermark? = .error overflow →
        (outcome (client.fetchAll resource query) connection).1 =
          .error (.dateOverflow overflow) := by
  obtain ⟨read, middle, listed, records, replies, requests⟩ := fetchAll_eq_ok fetched
  have same : connection.undated.replies.length = connection.replies.length := List.length_map _
  rw [same] at listed
  obtain ⟨used, later, split, rfl, go, stop⟩ := isRedated_pages query _ listed
  refine ⟨used, later.replies, split, replies, ?_, ?_⟩
  · intro watermarks all
    obtain ⟨dated, run, recordsToo, kept⟩ := go watermarks all
    obtain ⟨log, completed⟩ := outcome_fetchAll run
    have records : dated.flatMap (·.records) = result.records := by
      have same := congrArg List.flatten recordsToo
      rwa [← List.flatMap_def, ← List.flatMap_def, ← records] at same
    have last : dated.getLast?.bind (·.lastModified) = watermarks.getLast?.join := by
      rw [← kept, List.getLast?_map]
      cases dated.getLast? <;> rfl
    rw [records, last] at completed
    exact ⟨_, completed, rfl, requests.symm⟩
  · intro overflow failed
    exact outcome_fetchAll_of_error (stop overflow failed)

end

def datedReply (date : String) : Reply :=
  .answer lastPage.status lastPage.reason [("Last-Modified", date)] lastPage.body

theorem undated_datedReply (date : String) : (datedReply date).undated = lastPage.reply := by
  have named : (Text.lowerCase "Last-Modified" != "last-modified") = false := by decide +kernel
  simp only [datedReply, Reply.undated, undatedHeaders, List.filter_cons, named,
    Bool.false_eq_true, if_false, List.filter_nil]
  rfl

theorem watermark?_datedReply (date : String) :
    (datedReply date).watermark? = LedgerRules.watermark? (some date) := by
  have named : (Text.lowerCase "Last-Modified" == "last-modified") = true := by decide +kernel
  have found : (datedReply date).lastModified? = some date := by
    simp [datedReply, Reply.lastModified?, headerValue?, named]
  rw [Reply.watermark?, found]

theorem fetched_undated (date : String) :
    ∃ after, outcome (tagsClient.fetchAll "tags" [])
        (Connection.undated ⟨[datedReply date], [], []⟩) =
      (.ok ⟨[.object [("id", .integer 2)]], none⟩, after) ∧ after.replies = [] := by
  have replies : (Connection.undated ⟨[datedReply date], [], []⟩).replies =
      lastPage.reply :: [] := congrArg (· :: []) (undated_datedReply date)
  generalize Connection.undated ⟨[datedReply date], [], []⟩ = connection at replies
  have plain : Url.IsPlain "tags".toList := plain_of_all (by decide +kernel) (by decide +kernel)
  obtain ⟨first, built, requested, sendable⟩ :=
    Url.ofPath_plain isBase_tags plain (listParameters_ne_nil tagsClient [])
  have ends : lastPage.NamesNoNext := nofun
  have next := PageReply.nextUrl_of_namesNoNext ends tagsClient
  obtain ⟨log, own⟩ := outcome_readPage "tags" 1 requested sendable next replies
  have read : tagsClient.pages "tags" [] (connection.replies.length + 1) connection =
      (⟨[@pageOf tagsClient lastPage none], none⟩,
        ⟨[], connection.requests ++ [tagsClient.request .get first none], log⟩) := by
    rw [pages, built]
    dsimp only
    rw [readPages_succ, own]
    rfl
  obtain ⟨log, fetched⟩ := outcome_fetchAll read
  exact ⟨_, fetched, rfl⟩

/-- Whatever header there is, it is kept, and what is fetched without such headers is fetched with
them. Only a date with a number out of all bounds has no form that is kept, and it ends the
fetch. -/
theorem last_modified_kept_or_unbounded {text : String} (filled : text ≠ "")
    {client : Client} {resource : String} {query : Json.Fields}
    {connection after : Connection} {result : FetchResult}
    (fetched : outcome (client.fetchAll resource query) connection.undated = (.ok result, after)) :
    ((¬MailDate.IsUnboundedText text →
        ∃ kept, watermark? (some text) = .ok (some kept) ∧ MailDate.IsKeptAs text kept) ∧
      (MailDate.IsUnboundedText text → ∃ overflow, watermark? (some text) = .error overflow)) ∧
    ∃ used left, connection.replies = used ++ left ∧ after.replies = left.map Reply.undated ∧
      ((∀ reply ∈ used, ¬reply.IsUnbounded) →
        ∃ watermarks later,
          List.Forall₂ (fun reply watermark => reply.watermark? = .ok watermark) used watermarks ∧
          outcome (client.fetchAll resource query) connection =
            (.ok ⟨result.records, watermarks.getLast?.join⟩, later) ∧
          later.replies = left ∧ later.requests = after.requests) ∧
      ((∃ reply ∈ used, reply.IsUnbounded) →
        ∃ overflow, (outcome (client.fetchAll resource query) connection).1 =
          .error (.dateOverflow overflow)) := by
  constructor
  · exact ⟨watermark?_isKeptAs filled, watermark?_of_isUnboundedText⟩
  · obtain ⟨used, left, replies, later, go, stop⟩ := fetchAll_undated fetched
    refine ⟨used, left, replies, later, ?_⟩
    cases all : used.mapM Reply.watermark? with
    | ok watermarks =>
        have bounded := Reply.isOk_watermarks_iff.mp (congrArg Except.isOk all)
        obtain ⟨later, fetched, left, requests⟩ := go watermarks all
        refine ⟨fun _ => ⟨watermarks, later, Except.mapM_eq_ok.mp all, fetched, left, requests⟩, ?_⟩
        rintro ⟨reply, member, unbounded⟩
        exact absurd unbounded (bounded reply member)
    | error overflow =>
        refine ⟨fun bounded => ?_, fun _ => ⟨overflow, stop overflow all⟩⟩
        have read := Reply.isOk_watermarks_iff.mpr bounded
        rw [all] at read
        cases read

def april : String := "Mon, 01 Apr 2024 00:00:00 GMT"

theorem april_kept_by_fetch :
    april ≠ "" ∧ ¬MailDate.IsUnboundedText april ∧
      (∃ kept, watermark? (some april) = .ok (some kept) ∧ MailDate.IsKeptAs april kept) ∧
      (∃ after, outcome (tagsClient.fetchAll "tags" [])
          (Connection.undated ⟨[datedReply april], [], []⟩) =
        (.ok ⟨[.object [("id", .integer 2)]], none⟩, after)) ∧
      ∃ later, outcome (tagsClient.fetchAll "tags" []) ⟨[datedReply april], [], []⟩ =
        (.ok ⟨[.object [("id", .integer 2)]], some "2024-04-01T00:00:00+00:00"⟩, later) := by
  have filled : april ≠ "" := by decide
  have kept : watermark? (some april) = .ok (some "2024-04-01T00:00:00+00:00") := by decide +kernel
  have bounded : ¬MailDate.IsUnboundedText april := by
    intro unbounded
    obtain ⟨overflow, failed⟩ := watermark?_of_isUnboundedText unbounded
    rw [kept] at failed
    cases failed
  obtain ⟨after, fetched, none⟩ := fetched_undated april
  obtain ⟨⟨keeps, -⟩, used, left, replies, later, go, -⟩ :=
    last_modified_kept_or_unbounded filled fetched
  rw [none, eq_comm, List.map_eq_nil_iff] at later
  rw [later, List.append_nil] at replies
  have all : ∀ reply ∈ used, ¬reply.IsUnbounded := by
    rw [← replies, List.forall_mem_singleton, ← Reply.isOk_watermark?_iff, watermark?_datedReply,
      kept]
    rfl
  obtain ⟨watermarks, final, each, completed, -, -⟩ := go all
  rw [← replies] at each
  obtain ⟨watermark, rest, own, none, rfl⟩ := List.forall₂_cons_left_iff.mp each
  obtain rfl := List.forall₂_nil_left_iff.mp none
  rw [watermark?_datedReply, kept] at own
  obtain rfl := Except.ok.inj own
  exact ⟨filled, bounded, keeps bounded, ⟨after, fetched⟩, final, completed⟩

def hugeYear : String := "Mon, 01 Jan 99999999999 00:00:00 GMT"

theorem huge_year_ends_fetch :
    hugeYear ≠ "" ∧ watermark? (some hugeYear) = .error .aboveInteger ∧
      (∃ after, outcome (tagsClient.fetchAll "tags" [])
          (Connection.undated ⟨[datedReply hugeYear], [], []⟩) =
        (.ok ⟨[.object [("id", .integer 2)]], none⟩, after)) ∧
      (outcome (tagsClient.fetchAll "tags" []) ⟨[datedReply hugeYear], [], []⟩).1 =
        .error (.dateOverflow .aboveInteger) := by
  have failed : watermark? (some hugeYear) = .error .aboveInteger := by decide +kernel
  have dated : (datedReply hugeYear).watermark? = .error .aboveInteger := by
    rw [watermark?_datedReply, failed]
  obtain ⟨after, fetched, none⟩ := fetched_undated hugeYear
  refine ⟨by decide, failed, ⟨after, fetched⟩, ?_⟩
  obtain ⟨used, left, replies, later, -, stop⟩ := fetchAll_undated fetched
  rw [none, eq_comm, List.map_eq_nil_iff] at later
  rw [later, List.append_nil] at replies
  apply stop
  rw [← replies]
  simp only [List.mapM_cons, dated]
  rfl

end Client

end LedgerRules
