import LedgerRules.CommandLine.Arguments

/-!
What the command line says about itself.
-/

namespace LedgerRules

def programName : String := "toshl-sync"

def usageText : String :=
  "usage: toshl-sync [-h] [--config CONFIG] [--state STATE] [--dry-run]\n" ++
    "                  [--from START] [--to END] [--full] [-v]\n"

def helpText : String :=
  usageText ++ "\nApply categorization and transfer rules to Toshl entries.\n\noptions:\n" ++
    "  -h, --help       show this help message and exit\n" ++
    "  --config CONFIG  Rules file (YAML). Defaults to $TOSHL_RULES_PATH or\n" ++
    "                   rules.yaml.\n" ++
    "  --state STATE    Sync state file. Defaults to $TOSHL_STATE_PATH or\n" ++
    "                   .toshl_sync_state.json.\n" ++
    "  --dry-run        Print pending changes without updating Toshl or the state\n" ++
    "                   file.\n" ++
    "  --from START     First entry date (YYYY-MM-DD). Defaults to 365 days ago.\n" ++
    "  --to END         Last entry date (YYYY-MM-DD). Defaults to today.\n" ++
    "  --full           Ignore the stored cursor and re-check the whole date range.\n" ++
    "  -v, --verbose    Log progress at INFO level.\n"

def UsageError.text (error : UsageError) : String :=
  usageText ++ programName ++ ": error: " ++ error.message ++ "\n"

end LedgerRules
