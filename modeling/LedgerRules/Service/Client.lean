import LedgerRules.Json.Writer
import LedgerRules.Log
import LedgerRules.Service.Link
import LedgerRules.Service.Request

/-!
The client of the ledger service. Lists come in pages, each of which may name the next one; a
connection holds the replies still to come and what has been requested.
-/

namespace LedgerRules

structure Client extends ServiceConfig where
  platform : Platform
  transport : Transport

structure Connection where
  replies : List Reply
  requests : List Request := []
  log : List LogRecord := []

abbrev Exchange := ExceptT ServiceError (StateM Connection)

structure Page where
  records : List Json
  nextUrl : Option String
  lastModified : Option String

structure FetchResult where
  records : List Json
  watermark : Option String

structure Pages where
  pages : List Page
  error : Option ServiceError

/-- The value of a header, whatever the case of its name; of repeated headers the last counts. -/
def headerValue? (headers : List (String × String)) (name : String) : Option String :=
  (headers.reverse.find? fun header => Text.lowerCase header.1 == name).map (·.2)

/-- A date in ISO notation, as cursors use it. What is no date stands for itself. -/
def watermark? (lastModified : Option String) : Except MailDate.Overflow (Option String) :=
  match lastModified with
  | none => .ok none
  | some text =>
      if text.isEmpty then .ok none
      else
        (MailDate.read text).map fun moment? =>
          some ((moment?.map Moment.isoText).getD text)

namespace Client

def exchange (request : Request) : StateM Connection Reply :=
  modifyGet fun connection =>
    let made := { connection with requests := connection.requests ++ [request] }
    match connection.replies with
    | reply :: rest => (reply, { made with replies := rest })
    | [] => (.unreachable "no more responses", made)

def log (level : LogLevel) (text : String) : StateM Connection Unit :=
  modify fun connection =>
    { connection with log := connection.log ++ [⟨level, .service, text⟩] }

def payload (platform : Platform) (body : Bytes) : Except ServiceError Json :=
  let text := Utf8.decodeLenient body
  if Text.isBlankText text then .ok .null
  else if platform.exhausts (.json body) then .error .tooDeep
  else (Json.read text).mapError .unreadable

def interpret (client : Client) (resource : String) (reply : Reply) :
    Except ServiceError (Json × List (String × String)) :=
  match reply with
  | .unreachable reason => .error (.transport ⟨resource, 0, reason, none⟩)
  | .interrupted interruption => .error (.interrupted interruption)
  | .answer status reason headers body =>
      if client.transport.isSuccess status then
        (payload client.platform body).map fun value => (value, headers)
      else .error (.transport ⟨resource, status, reason, some (Utf8.decodeLenient body)⟩)

/-- The request, if there is nothing against sending it. -/
def prepare (client : Client) (method : Method) (url : String) (body : Option Json) :
    Except ServiceError Request := do
  if body.any fun value => client.platform.exhausts (.value value) then throw .tooDeep
  let target ← (Url.target url).mapError .address
  match client.transport.refusal? method.name url with
  | some fault => throw (.refused fault)
  | none => return client.request method target body

def send (client : Client) (method : Method) (url resource : String) (body : Option Json) :
    Exchange (Json × List (String × String)) := do
  let request ← (client.prepare method url body : Except ServiceError Request)
  let reply ← exchange request
  client.interpret resource reply

def shownCharacters : Nat := 500

def unexpected (client : Client) (resource : String) (value : Json) : ServiceError :=
  if client.platform.exhausts (.value value) then .tooDeep
  else
    .transport ⟨resource, 200, "expected a JSON list",
      some (String.ofList (value.text.toList.take shownCharacters))⟩

def isRecord : Json → Bool
  | .object _ => true
  | _ => false

def nextUrl (client : Client) (headers : List (String × String)) :
    Except UrlFault (Option String) :=
  match (headerValue? headers "link").bind Link.next? with
  | none => .ok none
  | some link =>
      if link.isEmpty then .ok none else some <$> Url.join (client.baseUrl ++ "/") link

def readPage (client : Client) (resource : String) (number : Nat) (url : String) :
    Exchange Page := do
  let (value, headers) ← client.send .get url resource none
  match value with
  | .array items =>
      let next ← ((client.nextUrl headers).mapError .address : Except ServiceError _)
      log .debug ("Fetched " ++ resource ++ " page " ++ toString number ++ " (" ++
        toString items.length ++ " records)")
      let lastModified ←
        ((watermark? (headerValue? headers "last-modified")).mapError .dateOverflow :
          Except ServiceError _)
      return ⟨items.filter isRecord, next, lastModified⟩
  | other => throw (client.unexpected resource other)

def readPages (client : Client) (resource : String) :
    (limit number : Nat) → (url : String) → StateM Connection Pages
  | 0, _, _ => return ⟨[], none⟩
  | limit + 1, number, url => do
      match ← (client.readPage resource number url).run with
      | .error error => return ⟨[], some error⟩
      | .ok page =>
          match page.nextUrl with
          | none => return ⟨[page], none⟩
          | some next =>
              let rest ← readPages client resource limit (number + 1) next
              return { rest with pages := page :: rest.pages }

def listParameters (client : Client) (query : Json.Fields) : List (String × String) :=
  let wanted := query.filter fun parameter => !parameter.2.isNull
  let all := wanted.foldl
    (fun fields parameter => Json.Fields.insert fields parameter.1 parameter.2)
    [("per_page", .integer client.pageSize)]
  queryParameters all

def pages (client : Client) (resource : String) (query : Json.Fields) (limit : Nat) :
    StateM Connection Pages :=
  match Url.ofPath client.baseUrl resource (client.listParameters query) with
  | .error fault => return ⟨[], some (.address fault)⟩
  | .ok url => client.readPages resource limit 1 url

/-- All records of a resource. Every page takes a reply, so the replies to come bound the pages. -/
def fetchAll (client : Client) (resource : String) (query : Json.Fields) :
    Exchange FetchResult := do
  let limit := (← get).replies.length + 1
  let result ← (client.pages resource query limit : StateM Connection Pages)
  if let some error := result.error then throw error
  let records := result.pages.flatMap (·.records)
  log .info ("Fetched " ++ toString records.length ++ " " ++ resource)
  return ⟨records, result.pages.getLast?.bind (·.lastModified)⟩

def replace (client : Client) (resource id : String) (record : Option Json) :
    Exchange Json := do
  let url ← ((Url.ofPath client.baseUrl (resource ++ "/" ++ id) []).mapError .address :
    Except ServiceError String)
  let (value, _) ← client.send .put url resource record
  return if isRecord value then value else .object []

end Client

end LedgerRules
