import LedgerRules.Proofs.Service.LinkValues
import LedgerRules.Proofs.Service.Pages

/-!
The next page that a reply names. Of several headers with links only the last one is read. There the
link to the next page is found if it looks like one, that is, if its relation is not behind a comma
and names the next page first, and if no link before it looks like one or hides it.
-/

namespace LedgerRules

open Effect

/-- A successful reply with a page of a list, and with any number of headers with links. -/
structure LinkedReply (platform : Platform) where
  status : Int
  reason : String
  headers : List (String × String)
  body : Bytes
  items : List Json
  lines : List (List LinkValue)
  watermark : Option String
  successful : 200 ≤ status ∧ status < 300
  listed : Client.payload platform body = .ok (.array items)
  linked : List.Forall₂ (fun links header => LinkValue.AreWritten links header.toList) lines
    (headersNamed headers "link")
  dated : watermark? (headerValue? headers "last-modified") = .ok watermark

namespace LinkedReply

variable {platform : Platform}

def reply (linked : LinkedReply platform) : Reply :=
  .answer linked.status linked.reason linked.headers linked.body

/-- Of all headers together, the first link whose relation lists the next page. -/
def next? (linked : LinkedReply platform) : Option LinkValue :=
  linked.lines.flatten.find? fun link => link.ListsNext

/-- The next page is not named before the last header. There the link to it looks like one, and no
link before does, or hides another one. -/
structure IsOrdinary (linked : LinkedReply platform) : Prop where
  passed : ∀ links ∈ linked.lines.dropLast, ∀ link ∈ links, ¬link.ListsNext
  told : ∀ links ∈ linked.lines.getLast?, ∀ link ∈ links.takeWhile fun link =>
    !decide link.ListsNext, ¬link.LooksNext ∧ LinkParameter.AreUnopened link.parameters
  shown : ∀ links ∈ linked.lines.getLast?, ∀ link ∈ links.find? fun link => link.ListsNext,
    link.LooksNext

/-- The page that is read if a link is followed. -/
def page (linked : LinkedReply platform) (client : Client) (followed? : Option LinkValue) :
    Except ServiceError Page :=
  match followed? with
  | none => .ok ⟨linked.items.filter Client.isRecord, none, linked.watermark⟩
  | some link =>
      match Url.join (client.baseUrl ++ "/") link.target with
      | .ok url => .ok ⟨linked.items.filter Client.isRecord, some url, linked.watermark⟩
      | .error fault => .error (.address fault)

end LinkedReply

namespace LinkValue

variable {links : List LinkValue}

theorem find?_eq_and_takeWhile_eq
    (told : ∀ link ∈ links.takeWhile fun link => !decide link.ListsNext, ¬link.LooksNext)
    (shown : ∀ link ∈ links.find? fun link => link.ListsNext, link.LooksNext) :
    (links.find? fun link => link.LooksNext) = links.find? (fun link => link.ListsNext) ∧
      (links.takeWhile fun link => !decide link.LooksNext) =
        links.takeWhile fun link => !decide link.ListsNext := by
  induction links with
  | nil => exact ⟨rfl, rfl⟩
  | cons link links ih =>
      by_cases lists : link.ListsNext
      · have looks : link.LooksNext := shown link (by simp [lists])
        simp [lists, looks]
      · have other : ¬link.LooksNext := told link (by simp [lists])
        have toldLater : ∀ later ∈ links.takeWhile fun link => !decide link.ListsNext,
            ¬later.LooksNext := by
          intro later member
          exact told later (by simp [lists, member])
        have shownLater : ∀ later ∈ links.find? fun link => link.ListsNext, later.LooksNext := by
          intro later found
          exact shown later (by simpa [lists] using found)
        obtain ⟨found, before⟩ := ih toldLater shownLater
        simp [lists, other, found, before]

end LinkValue

namespace LinkedReply

theorem find?_flatten {lines : List (List LinkValue)}
    (passed : ∀ links ∈ lines.dropLast, ∀ link ∈ links, ¬link.ListsNext) :
    (lines.flatten.find? fun link => link.ListsNext) =
      lines.getLast?.bind fun links => links.find? fun link => link.ListsNext := by
  rcases List.eq_nil_or_concat lines with rfl | ⟨before, links, rfl⟩
  · rfl
  · rw [List.concat_eq_append] at passed ⊢
    rw [List.dropLast_concat] at passed
    have earlier : before.flatten.find? (fun link => link.ListsNext) = none := by
      rw [List.find?_eq_none]
      intro link member
      obtain ⟨links, within, member⟩ := List.mem_flatten.mp member
      simpa using passed links within link member
    rw [List.flatten_append, List.find?_append, earlier, Option.none_or, List.flatten_singleton,
      List.getLast?_concat, Option.bind_some]

theorem next?_getLast? {platform : Platform} (linked : LinkedReply platform)
    (ordinary : linked.IsOrdinary) :
    (headerValue? linked.headers "link").bind Link.next? = linked.next?.map (·.target) := by
  obtain ⟨passed, told, shown⟩ := ordinary
  have written := List.rel_reverse linked.linked
  rw [PageReply.headerValue?_eq, next?, find?_flatten passed, ← List.head?_reverse]
  rw [← List.head?_reverse] at told shown ⊢
  generalize (headersNamed linked.headers "link").reverse = headers at written
  generalize linked.lines.reverse = lines at written told shown
  cases written with
  | nil => rfl
  | @cons links header _ _ own _ =>
      have apart := told links rfl
      obtain ⟨found, before⟩ := LinkValue.find?_eq_and_takeWhile_eq
        (fun link member => (apart link member).1) (shown links rfl)
      change Link.next? header = _
      rw [Link.next?_written own, found]
      · rfl
      · rw [before]
        exact fun link member => (apart link member).2

theorem read_page (client : Client) (linked : LinkedReply client.platform)
    {followed? : Option LinkValue}
    (follows : (headerValue? linked.headers "link").bind Link.next? = followed?.map (·.target))
    (resource : String) (number : Nat) {url target : String} {connection : Connection}
    {later : List Reply} (requested : Url.target url = .ok target)
    (replies : connection.replies = linked.reply :: later) :
    (outcome (client.readPage resource number url) connection).1 =
      match client.obstacle? .get url none with
      | some error => .error error
      | none => linked.page client followed? := by
  cases obstacle : client.obstacle? .get url none with
  | some error =>
      rw [Client.readPage, outcome_bind, Client.send, Client.prepare_eq requested, obstacle]
      rfl
  | none =>
  have prepared : client.prepare .get url none = .ok (client.request .get target none) := by
    rw [Client.prepare_eq requested, obstacle]
  have interpreted :=
    Client.interpret_answer resource linked.reason linked.headers linked.successful linked.listed
  rw [Client.readPage, outcome_bind_ok (Client.outcome_send prepared interpreted replies)]
  cases followed? with
  | none =>
      have next : client.nextUrl linked.headers = .ok none := by
        rw [Client.nextUrl, follows]
        rfl
      simp only [next, linked.dated]
      rfl
  | some link =>
      have filled : link.target.isEmpty = false := by simpa using link.enclosed.1
      have next : client.nextUrl linked.headers =
          some <$> Url.join (client.baseUrl ++ "/") link.target := by
        rw [Client.nextUrl, follows, Option.map_some]
        simp only [filled, Bool.false_eq_true, if_false]
      simp only [next, linked.dated, page]
      cases Url.join (client.baseUrl ++ "/") link.target <;> rfl

end LinkedReply

/-- The next page is the one that the first link leads to whose relation lists it; without such a
link there is none. There is no page if the request for it cannot be sent. -/
theorem Client.next_link_found (client : Client) (linked : LinkedReply client.platform)
    (ordinary : linked.IsOrdinary) (resource : String) (number : Nat) {url target : String}
    {connection : Connection} {later : List Reply} (requested : Url.target url = .ok target)
    (replies : connection.replies = linked.reply :: later) :
    (outcome (client.readPage resource number url) connection).1 =
      match client.obstacle? .get url none with
      | some error => .error error
      | none => linked.page client linked.next? :=
  linked.read_page client (linked.next?_getLast? ordinary) resource number requested replies

theorem LinkParameter.named_of_all {name : String} (filled : name ≠ "")
    (words : (name.toList.all fun character =>
      isWordCharacter character && character != '=' && character != '<') = true) :
    name ≠ "" ∧ ∀ character ∈ name.toList,
      isWordCharacter character ∧ character ≠ '=' ∧ character ≠ '<' :=
  ⟨filled, by simpa [and_assoc] using words⟩

def lastRelation : LinkParameter where
  name := "rel"
  value := "last"
  quoted := false
  named := LinkParameter.named_of_all (by decide) (by decide +kernel)
  worded := by
    have words : ("last".toList.all isWordCharacter) = true := by decide +kernel
    exact fun _ => ⟨by decide, List.all_eq_true.mp words⟩

def pageTitle : LinkParameter where
  name := "title"
  value := "page = last; rel, next"
  quoted := true
  named := LinkParameter.named_of_all (by decide) (by decide +kernel)
  worded := nofun

def nextRelation : LinkParameter where
  name := "REL"
  value := "Next last"
  quoted := true
  named := LinkParameter.named_of_all (by decide) (by decide +kernel)
  worded := nofun

def lastPageLink : LinkValue :=
  ⟨"/tags?page=9", [lastRelation, pageTitle], by decide, by decide +kernel⟩

def helpLink : LinkValue := ⟨"/help", [], by decide, by decide +kernel⟩

def secondPageLink : LinkValue :=
  ⟨"/tags?page=2", [nextRelation, pageTitle], by decide, by decide +kernel⟩

theorem only_second_listsNext : ¬lastPageLink.ListsNext ∧ ¬helpLink.ListsNext ∧
    secondPageLink.ListsNext := by decide +kernel

theorem only_second_looksNext : ¬lastPageLink.LooksNext ∧ ¬helpLink.LooksNext ∧
    secondPageLink.LooksNext := by decide +kernel

def pageLinksHeader : String :=
  "</tags?page=9>;rel=last; title = \"page = last; rel, next\" , </help>," ++
    "</tags?page=2> ;REL=\"Next last\"; title = \"page = last; rel, next\""

theorem pageLinksHeader_written :
    LinkValue.AreWritten [lastPageLink, helpLink, secondPageLink] pageLinksHeader.toList := by
  have nothing : ∀ character ∈ ([] : List Char), Text.isBlank character := nofun
  have space : ∀ character ∈ [' '], Text.isBlank character := List.forall_mem_singleton.mpr rfl
  have title : pageTitle.IsWritten _ := .spaced space space space
  have last : lastRelation.IsWritten _ := .spaced nothing nothing nothing
  have next : nextRelation.IsWritten _ := .spaced nothing nothing nothing
  have lastPage : lastPageLink.IsWritten _ :=
    .enclosed (.more nothing last (.more nothing title .none))
  have help : helpLink.IsWritten _ := .enclosed .none
  have secondPage : secondPageLink.IsWritten _ :=
    .enclosed (.more space next (.more nothing title .none))
  have written := LinkValue.AreWritten.more nothing lastPage space
    (.more space help nothing (.last nothing secondPage nothing))
  refine Eq.mp (congrArg _ ?_) written
  decide +kernel

theorem helpHeader_written : LinkValue.AreWritten [helpLink] "</help>".toList := by
  have nothing : ∀ character ∈ ([] : List Char), Text.isBlank character := nofun
  have help : helpLink.IsWritten "</help>".toList := .enclosed .none
  simpa using LinkValue.AreWritten.last nothing help nothing

def tagsReply (headers : List (String × String)) (lines : List (List LinkValue))
    (linked : List.Forall₂ (fun links header => LinkValue.AreWritten links header.toList) lines
      (headersNamed headers "link"))
    (undated : headerValue? headers "last-modified" = none) : LinkedReply .plain where
  status := 200
  reason := "OK"
  headers := headers
  body := Utf8.encode "[\x7b\"id\":2\x7d]"
  items := [.object [("id", .integer 2)]]
  lines := lines
  watermark := none
  successful := Client.lastPage.successful
  listed := Client.payload_last
  linked := linked
  dated := by rw [undated]; rfl

def pageLinksReply : LinkedReply .plain :=
  tagsReply [("Link", "</help>"), ("link", pageLinksHeader)]
    [[helpLink], [lastPageLink, helpLink, secondPageLink]]
    (by
      have named : headersNamed [("Link", "</help>"), ("link", pageLinksHeader)] "link" =
          ["</help>", pageLinksHeader] := by decide +kernel
      rw [named]
      exact .cons helpHeader_written (.cons pageLinksHeader_written .nil))
    (by decide +kernel)

theorem pageLinksReply_ordinary : pageLinksReply.IsOrdinary := by
  have unopened {link : LinkValue} (absent : ∀ parameter ∈ link.parameters,
      '<' ∉ parameter.value.toList) := LinkParameter.areUnopened_of_not_mem absent
  obtain ⟨lastOther, helpOther, secondLists⟩ := only_second_listsNext
  obtain ⟨lastUnlike, helpUnlike, secondLooks⟩ := only_second_looksNext
  refine ⟨List.forall_mem_singleton.mpr (List.forall_mem_singleton.mpr helpOther), ?_, ?_⟩
  · rintro links last
    obtain rfl : [lastPageLink, helpLink, secondPageLink] = links := Option.some.inj last
    simp only [List.takeWhile_cons, lastOther, helpOther, secondLists, decide_true, decide_false,
      Bool.not_true, Bool.not_false, if_true, Bool.false_eq_true, if_false, List.forall_mem_cons]
    exact ⟨⟨lastUnlike, unopened (by decide +kernel)⟩, ⟨helpUnlike, unopened (by decide +kernel)⟩,
      nofun⟩
  · rintro links last link found
    obtain rfl : [lastPageLink, helpLink, secondPageLink] = links := Option.some.inj last
    simp only [List.find?_cons, lastOther, helpOther, secondLists, decide_true,
      decide_false] at found
    obtain rfl := Option.some.inj found
    exact secondLooks

def tagsUrl : String := "https://api.toshl.com/tags"

theorem target_tagsUrl : Url.target tagsUrl = .ok tagsUrl := by decide +kernel

theorem Client.obstacle?_tagsUrl : tagsClient.obstacle? .get tagsUrl none = none :=
  obstacle?_of_isSendable (by decide +kernel) .get

theorem Client.secondPage_link_found :
    pageLinksReply.IsOrdinary ∧ Url.target tagsUrl = .ok tagsUrl ∧
      (outcome (tagsClient.readPage "tags" 1 tagsUrl) ⟨[pageLinksReply.reply], [], []⟩).1 =
        .ok ⟨[.object [("id", .integer 2)]], some "https://api.toshl.com/tags?page=2", none⟩ := by
  have found : (outcome (tagsClient.readPage "tags" 1 tagsUrl) ⟨[pageLinksReply.reply], [], []⟩).1 =
      pageLinksReply.page tagsClient pageLinksReply.next? := by
    have read : (outcome (tagsClient.readPage "tags" 1 tagsUrl)
        ⟨[pageLinksReply.reply], [], []⟩).1 = _ :=
      next_link_found tagsClient pageLinksReply pageLinksReply_ordinary "tags" 1 target_tagsUrl rfl
    rwa [obstacle?_tagsUrl] at read
  have next : pageLinksReply.next? = some secondPageLink := by
    simp [LinkedReply.next?, pageLinksReply, tagsReply, only_second_listsNext]
  have joined : Url.join (tagsClient.baseUrl ++ "/") secondPageLink.target =
      .ok "https://api.toshl.com/tags?page=2" := by decide +kernel
  rw [next, LinkedReply.page] at found
  simp only [joined] at found
  exact ⟨pageLinksReply_ordinary, target_tagsUrl, found⟩

def hiddenLink : LinkValue :=
  ⟨"/tags?page=2", [pageTitle, nextRelation], by decide, by decide +kernel⟩

def hiddenHeader : String :=
  "</tags?page=2>; title = \"page = last; rel, next\";REL=\"Next last\""

theorem hiddenHeader_written : LinkValue.AreWritten [hiddenLink] hiddenHeader.toList := by
  have nothing : ∀ character ∈ ([] : List Char), Text.isBlank character := nofun
  have space : ∀ character ∈ [' '], Text.isBlank character := List.forall_mem_singleton.mpr rfl
  have title : pageTitle.IsWritten _ := .spaced space space space
  have next : nextRelation.IsWritten _ := .spaced nothing nothing nothing
  have hidden : hiddenLink.IsWritten _ := .enclosed (.more nothing title (.more nothing next .none))
  refine Eq.mp (congrArg _ ?_) (LinkValue.AreWritten.last nothing hidden nothing)
  decide +kernel

def hiddenReply : LinkedReply .plain :=
  tagsReply [("Link", hiddenHeader)] [[hiddenLink]]
    (by
      have named : headersNamed [("Link", hiddenHeader)] "link" = [hiddenHeader] := by
        decide +kernel
      rw [named]
      exact .cons hiddenHeader_written .nil)
    (by decide +kernel)

theorem Client.comma_hides_next_link :
    hiddenReply.next? = some hiddenLink ∧
      hiddenReply.page tagsClient hiddenReply.next? = .ok
        ⟨[.object [("id", .integer 2)]], some "https://api.toshl.com/tags?page=2", none⟩ ∧
      (outcome (tagsClient.readPage "tags" 1 tagsUrl) ⟨[hiddenReply.reply], [], []⟩).1 =
        .ok ⟨[.object [("id", .integer 2)]], none, none⟩ := by
  have next : hiddenReply.next? = some hiddenLink := by
    have lists : hiddenLink.ListsNext := by decide +kernel
    simp [LinkedReply.next?, hiddenReply, tagsReply, lists]
  refine ⟨next, ?_, ?_⟩
  · rw [next]
    have joined : Url.join (tagsClient.baseUrl ++ "/") hiddenLink.target =
        .ok "https://api.toshl.com/tags?page=2" := by decide +kernel
    simp only [LinkedReply.page, joined]
    rfl
  · have unseen : (headerValue? hiddenReply.headers "link").bind Link.next? =
        (none : Option LinkValue).map (·.target) := by decide +kernel
    have read : (outcome (tagsClient.readPage "tags" 1 tagsUrl) ⟨[hiddenReply.reply], [], []⟩).1 =
        _ := hiddenReply.read_page tagsClient unseen "tags" 1 target_tagsUrl rfl
    rwa [obstacle?_tagsUrl] at read

end LedgerRules
