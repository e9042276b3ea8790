/-!
Records of progress, in the order in which things happen.
-/

namespace LedgerRules

inductive LogLevel where
  | debug
  | info
  deriving DecidableEq, Repr

def LogLevel.name : LogLevel → String
  | .debug => "DEBUG"
  | .info => "INFO"

inductive LogSource where
  | service
  | sync
  | state
  deriving DecidableEq, Repr

def LogSource.name : LogSource → String
  | .service => "connectors.toshl.client"
  | .sync => "pipelines.ledger_sync"
  | .state => "pipelines.sync_state"

structure LogRecord where
  level : LogLevel
  source : LogSource
  text : String
  deriving DecidableEq, Repr

end LedgerRules
