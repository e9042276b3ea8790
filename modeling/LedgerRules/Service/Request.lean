import LedgerRules.Calendar.MailDate
import LedgerRules.Document.Literal
import LedgerRules.Json.Reader
import LedgerRules.Platform
import LedgerRules.Service.Config
import LedgerRules.Service.Transport

/-!
Requests to the ledger service, its replies, and what can go wrong between them.
-/

namespace LedgerRules

/-- A reply that is no success. The status is zero if there was no reply at all. -/
structure TransportError where
  resource : String
  status : Int
  reason : String
  body : Option String
  deriving DecidableEq, Repr

def TransportError.message (error : TransportError) : String :=
  let body := error.body.getD ""
  "Toshl " ++ error.resource ++ " HTTP " ++ toString error.status ++ ": " ++ error.reason ++
    (if body.isEmpty then "" else " " ++ body)

/-- An exchange that came to no answer, for another reason than that the host is not reached. -/
structure Interruption where
  kind : String
  message : String
  isBadValue : Bool
  deriving DecidableEq, Repr

inductive ServiceError where
  | transport (error : TransportError)
  | interrupted (interruption : Interruption)
  | refused (fault : SelectorFault)
  | unreadable (error : Json.ReadingError)
  | address (fault : UrlFault)
  | dateOverflow (overflow : MailDate.Overflow)
  | entryTooDeep
  | tooDeep

def ServiceError.message : ServiceError → String
  | .transport error => error.message
  | .interrupted interruption => interruption.message
  | .refused fault => fault.message
  | .unreadable error => error.message
  | .address fault => fault.message
  | .dateOverflow overflow => overflow.message
  | .entryTooDeep => "Circular reference detected (depth exceeded)"
  | .tooDeep => Platform.stackExceeded

inductive Method where
  | get
  | put
  deriving DecidableEq, Repr

def Method.name : Method → String
  | .get => "GET"
  | .put => "PUT"

structure Request where
  method : Method
  url : String
  headers : List (String × String)
  timeoutSeconds : Int
  body : Option Json

/-- What comes of a request. Where the transport follows an answer to another place, the last answer
counts. -/
inductive Reply where
  | unreachable (reason : String)
  | interrupted (interruption : Interruption)
  | answer (status : Int) (reason : String) (headers : List (String × String)) (body : Bytes)

namespace Url

def hasScheme (characters : List Char) : Bool :=
  let scheme := characters.takeWhile fun character => character != '/' && character != ':'
  !scheme.isEmpty && (characters.drop scheme.length).head? == some ':'

def target (text : String) : Except UrlFault String := do
  let (located, fragment) := splitFragment (unwrapped text.toList)
  let url := located ++ marked '#' fragment
  if !hasScheme located then throw (.noScheme (String.ofList url))
  let _ ← read [] url
  return String.ofList url

def ofPath (base path : String) (parameters : List (String × String)) :
    Except UrlFault String := do
  let rooted := if path.toList.head? == some '/' then path else "/" ++ path
  let url ← join base rooted
  return if parameters.isEmpty then url else url ++ "?" ++ encodeParameters parameters

end Url

/-- Parameters by name; they are given as JSON values, and a null value stands for none. -/
def queryParameters (query : Json.Fields) : List (String × String) :=
  query.filterMap fun (name, value) => if value.isNull then none else some (name, value.shown)

def ServiceConfig.request (config : ServiceConfig) (method : Method) (url : String)
    (body : Option Json) : Request :=
  let headers :=
    [("Accept", "application/json"), ("Authorization", "Basic " ++ credentials config.token)]
  let typed := if body.isSome then headers ++ [("Content-type", "application/json")] else headers
  ⟨method, url, typed, config.timeoutSeconds, body⟩

end LedgerRules
