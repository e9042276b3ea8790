import LedgerRules.CommandLine.Usage
import LedgerRules.Sync.Run

/-!
The program behind the command line: from arguments, environment, files and the service's replies to
an exit code, printed text, requests and files. Errors that the user can do something about are
reported in a line; any other error is left to the caller.
-/

namespace LedgerRules

abbrev LogThreshold := Nat

def LogLevel.weight : LogLevel → Nat
  | .debug => 10
  | .info => 20

inductive ProgramFault where
  | logLevel (name : String)
  | logStyles
  | startOutOfRange
  | sync (error : SyncError)

def ProgramFault.message : ProgramFault → String
  | .logLevel name => "Unknown level: " ++ Text.quoted name
  | .logStyles =>
      "Level not an integer or a valid string: \x7b'%': (<class 'logging.PercentStyle'>, " ++
        "'%(levelname)s:%(name)s:%(message)s'), '\x7b': (<class 'logging.StrFormatStyle'>, " ++
        "'\x7blevelname\x7d:\x7bname\x7d:\x7bmessage\x7d'), '$': " ++
        "(<class 'logging.StringTemplateStyle'>, '$\x7blevelname\x7d:$\x7bname\x7d:" ++
        "$\x7bmessage\x7d')\x7d"
  | .startOutOfRange => "date value out of range"
  | .sync error => error.message

def SyncError.isReported : SyncError → Bool
  | .rules (.file _) => false
  | .rules (.canonical .integerTooLong) => true
  | .rules (.canonical _) => false
  | .rules .homeUnknown => false
  | .rules .tooDeep => false
  | .rules (.rules .repetitionTooLarge) => false
  | .rules (.rules .codeTooLarge) => false
  | .rules (.rules .patternTooDeep) => false
  | .rules (.value .codeTooLarge) => false
  | .rules (.value .emptyNumber) => false
  | .rules (.value (.truthValue _)) => false
  | .rules (.value .timeText) => false
  | .state (.file _) => false
  | .state .homeUnknown => false
  | .state .tooDeep => false
  | .service (.interrupted interruption) => interruption.isBadValue
  | .service (.refused (.controlCharacter _ _)) => false
  | .service (.dateOverflow _) => false
  | .service .tooDeep => false
  | .file _ => false
  | _ => true

structure ProgramInput where
  arguments : List String
  environment : Environment
  files : Files
  replies : List Reply
  today : Date
  platform : Platform
  transport : Transport

structure ProgramResult where
  exit : Except ProgramFault Nat
  output : String := ""
  errors : String := ""
  requests : List Request := []
  files : Files

namespace Program

def thresholdOf (name : String) : Except ProgramFault LogThreshold :=
  let known :=
    [("CRITICAL", 50), ("FATAL", 50), ("ERROR", 40), ("WARNING", 30), ("WARN", 30), ("INFO", 20),
      ("DEBUG", 10), ("NOTSET", 0)]
  if name = "BASIC_FORMAT" then .error (.logLevel "%(levelname)s:%(name)s:%(message)s")
  else if name = "_STYLES" then .error .logStyles
  else .ok ((known.lookup name).getD 30)

def threshold (settings : Settings) (environment : Environment) :
    Except ProgramFault LogThreshold :=
  if settings.isVerbose then thresholdOf "INFO"
  else
    thresholdOf
      (Text.upperCase (Text.trim ((environment.lookup "LEDGER_SYNC_LOG_LEVEL").getD "WARNING")))

def lookbackDays : Nat := 365

def range (settings : Settings) (today : Date) : Except ProgramFault (Date × Date) :=
  let last := settings.last.getD today
  match settings.first with
  | some first => .ok (first, last)
  | none =>
      match last.minusDays? lookbackDays with
      | some first => .ok (first, last)
      | none => .error .startOutOfRange

def echoedText : List Event → String
  | [] => ""
  | .echoed text :: rest => text ++ "\n" ++ echoedText rest
  | _ :: rest => echoedText rest

def loggedText (threshold : LogThreshold) : List Event → String
  | [] => ""
  | .logged record :: rest =>
      (if threshold ≤ record.level.weight then
        record.level.name ++ " " ++ record.source.name ++ ": " ++ record.text ++ "\n"
      else "") ++ loggedText threshold rest
  | _ :: rest => loggedText threshold rest

def errorLine (message : String) : String := "error: " ++ message ++ "\n"

def synchronize (input : ProgramInput) (settings : Settings) (threshold : LogThreshold)
    (first last : Date) : ProgramResult :=
  match ServiceConfig.ofEnvironment input.environment with
  | .error error => { exit := .ok 1, errors := errorLine error.message, files := input.files }
  | .ok config =>
      let options : SyncOptions :=
        { rulesPath := settings.rulesPath
          statePath := settings.statePath
          first
          last
          isDryRun := settings.isDryRun
          isFull := settings.isFull
          platform := input.platform }
      let client : Client :=
        { config with platform := input.platform, transport := input.transport }
      let world : World Connection :=
        { service := { replies := input.replies }, files := input.files }
      let (result, world) := (runSync (.ofClient client) options).run world
      let output := echoedText world.events
      let errors := loggedText threshold world.events
      let requests := world.service.requests
      let files := world.files
      match result with
      | .ok report =>
          { exit := .ok 0, output := output ++ report.summary ++ "\n", errors, requests, files }
      | .error error =>
          if error.isReported then
            { exit := .ok 1, output, errors := errors ++ errorLine error.message, requests, files }
          else { exit := .error (.sync error), output, errors, requests, files }

def runWith (input : ProgramInput) (settings : Settings) : ProgramResult :=
  let files := input.files
  match threshold settings input.environment with
  | .error fault => { exit := .error fault, files }
  | .ok threshold =>
      match range settings input.today with
      | .error fault => { exit := .error fault, files }
      | .ok (first, last) =>
          if last.isBefore first then
            { exit := .ok 2
              errors := errorLine ("--from " ++ first.text ++ " is after --to " ++ last.text)
              files }
          else synchronize input settings threshold first last

def standardSettings (environment : Environment) : Settings :=
  { rulesPath := environment.rulesPath, statePath := environment.statePath }

end Program

open Program

def runProgram (input : ProgramInput) : ProgramResult :=
  match Command.ofTexts (standardSettings input.environment) input.arguments with
  | .error error => { exit := .ok 2, errors := error.text, files := input.files }
  | .ok .help => { exit := .ok 0, output := helpText, files := input.files }
  | .ok (.run settings) => runWith input settings

end LedgerRules
