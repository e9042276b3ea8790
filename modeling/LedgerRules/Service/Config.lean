import LedgerRules.Digest.Base64
import LedgerRules.Number.Reader
import LedgerRules.Text.Quoted

/-!
How to reach the ledger service, as environment variables say it.
-/

namespace LedgerRules

abbrev Environment := List (String × String)

structure ServiceConfig where
  baseUrl : String
  token : String
  pageSize : Int
  timeoutSeconds : Int
  deriving DecidableEq, Repr

inductive EnvironmentError where
  | missing (name : String)
  | notAnInteger (name raw : String)
  | notPositive (name : String)
  deriving DecidableEq, Repr

def EnvironmentError.message : EnvironmentError → String
  | .missing name => "Missing required environment variable: " ++ name
  | .notAnInteger name raw => name ++ " must be an integer, got " ++ Text.quoted raw ++ "."
  | .notPositive name => name ++ " must be > 0"

namespace Environment

def trimmed (environment : Environment) (name : String) : String :=
  Text.trim ((environment.lookup name).getD "")

def required (environment : Environment) (name : String) : Except EnvironmentError String :=
  let value := environment.trimmed name
  if value.isEmpty then .error (.missing name) else .ok value

def positive (environment : Environment) (name : String) (standard : Int) :
    Except EnvironmentError Int :=
  let raw := environment.trimmed name
  if raw.isEmpty then .ok standard
  else
    match readInteger? raw with
    | none => .error (.notAnInteger name raw)
    | some value => if 0 < value then .ok value else .error (.notPositive name)

def rulesPath (environment : Environment) : String :=
  (environment.lookup "TOSHL_RULES_PATH").getD "rules.yaml"

def statePath (environment : Environment) : String :=
  (environment.lookup "TOSHL_STATE_PATH").getD ".toshl_sync_state.json"

end Environment

namespace ServiceConfig

def standardUrl : String := "https://api.toshl.com"

def baseOf (raw : String) : String :=
  let trimmed := (Text.trimBlanks raw.toList).reverse.dropWhile (· == '/')
  if trimmed.isEmpty then standardUrl else String.ofList trimmed.reverse

def ofEnvironment (environment : Environment) : Except EnvironmentError ServiceConfig := do
  let token ← environment.required "TOSHL_TOKEN"
  let pageSize ← environment.positive "TOSHL_PAGE_SIZE" 500
  let timeoutSeconds ← environment.positive "TOSHL_TIMEOUT_SECONDS" 30
  let baseUrl := baseOf ((environment.lookup "TOSHL_BASE_URL").getD standardUrl)
  return { baseUrl, token, pageSize, timeoutSeconds }

end ServiceConfig

/-- The credentials of a token: it is the user, and the password is empty. -/
def credentials (token : String) : String := Base64.encode (Utf8.encode (token ++ ":"))

end LedgerRules
