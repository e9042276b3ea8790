import LedgerRules.Proofs.CommandLine.Unreported
import LedgerRules.Proofs.Sync.Causes

/-!
How the program ends. Once the arguments and the log level are accepted, it ends with one of three
exit codes, or an error escapes: one of those that are not reported, or a standard start date before
the first day of the calendar.
-/

namespace LedgerRules

open Effect Program

namespace Environment

def logLevel (environment : Environment) : String :=
  Text.upperCase (Text.trim ((environment.lookup "LEDGER_SYNC_LOG_LEVEL").getD "WARNING"))

end Environment

/-- The start date, given or standard, is after the end date. -/
def EndsBeforeStart (settings : Settings) (today : Date) : Prop :=
  ∃ first last, range settings today = .ok (first, last) ∧ last.isBefore first = true

/-- A run that the program starts: its dates are in order, and the environment says how to reach the
service. -/
structure Launch (input : ProgramInput) (settings : Settings) where
  first : Date
  last : Date
  config : ServiceConfig
  dated : range settings input.today = .ok (first, last)
  ordered : last.isBefore first = false
  configured : ServiceConfig.ofEnvironment input.environment = .ok config

namespace Launch

variable {input : ProgramInput} {settings : Settings}

def options (launch : Launch input settings) : SyncOptions where
  rulesPath := settings.rulesPath
  statePath := settings.statePath
  first := launch.first
  last := launch.last
  isDryRun := settings.isDryRun
  isFull := settings.isFull
  platform := input.platform

def client (launch : Launch input settings) : Client where
  toServiceConfig := launch.config
  platform := input.platform
  transport := input.transport

def start (_ : Launch input settings) : World Connection where
  service := { replies := input.replies }
  files := input.files

/-- What the run gives, and the world after it. -/
def ending (launch : Launch input settings) : Except SyncError SyncReport × World Connection :=
  outcome (runSync (.ofClient launch.client) launch.options) launch.start

theorem eq_of_same (left right : Launch input settings) : left = right := by
  obtain ⟨leftFirst, leftLast, leftConfig, leftDated, leftOrdered, leftConfigured⟩ := left
  obtain ⟨rightFirst, rightLast, rightConfig, rightDated, rightOrdered, rightConfigured⟩ := right
  obtain ⟨rfl, rfl⟩ := Prod.mk.inj (Except.ok.inj (leftDated.symm.trans rightDated))
  obtain rfl := Except.ok.inj (leftConfigured.symm.trans rightConfigured)
  rfl

end Launch

/-- The ways in which an error escapes from the program. The standard start date does not exist. The
rules or the state have no place, or hold what is not reported. The service interrupts an exchange,
an address cannot be sent to it, a date of it is out of all bounds, or what it says or is to be told
is too deep. A live run cannot save the state. -/
inductive Escapes (input : ProgramInput) (settings : Settings) : ProgramFault → Prop where
  | start (unset : settings.first = none)
      (early : (settings.last.getD input.today).minusDays? lookbackDays = none) :
      Escapes input settings .startOutOfRange
  | home (launch : Launch input settings)
      (unknown : input.platform.path? settings.rulesPath = none) :
      Escapes input settings (.sync (.rules .homeUnknown))
  | rules (launch : Launch input settings) {path : Path} {error : RulesFileError}
      (known : input.platform.path? settings.rulesPath = some path)
      (unreported : RuleSet.Unreported input.platform input.files path error) :
      Escapes input settings (.sync (.rules error))
  | state (launch : Launch input settings) {rules : RuleSet} {error : StateError}
      (loaded : launch.options.rulesIn input.files = .ok rules)
      (unreported : SyncState.Unreported launch.options input.files error) :
      Escapes input settings (.sync (.state error))
  | interrupted (launch : Launch input settings) {interruption : Interruption}
      (sent : .interrupted interruption ∈ input.replies)
      (unhandled : interruption.isBadValue = false)
      (failed : launch.ending.1 = .error (.service (.interrupted interruption))) :
      Escapes input settings (.sync (.service (.interrupted interruption)))
  | refused (launch : Launch input settings) {selector : String} {character : Char}
      (refusal : ∃ method url, input.transport.refusal? method url =
        some (.controlCharacter selector character))
      (failed : launch.ending.1 =
        .error (.service (.refused (.controlCharacter selector character)))) :
      Escapes input settings (.sync (.service (.refused (.controlCharacter selector character))))
  | modified (launch : Launch input settings) {overflow : MailDate.Overflow}
      (sent : ∃ reply ∈ input.replies, reply.Overflows overflow)
      (failed : launch.ending.1 = .error (.service (.dateOverflow overflow))) :
      Escapes input settings (.sync (.service (.dateOverflow overflow)))
  | depth (launch : Launch input settings)
      (deep : (∃ reply ∈ input.replies, reply.IsTooDeep input.platform) ∨
        ∃ value, input.platform.exhausts (.value value) = true)
      (failed : launch.ending.1 = .error (.service .tooDeep)) :
      Escapes input settings (.sync (.service .tooDeep))
  | saving (launch : Launch input settings) {error : FileError} {state : SyncState} {files : Files}
      (live : settings.isDryRun = false)
      (unsaved : outcome (Files.replace launch.options.stateFile state.encode) input.files =
        (.error error, files))
      (failed : launch.ending.1 = .error (.file error)) :
      Escapes input settings (.sync (.file error))

/-- The ways in which the program fails and says why. -/
inductive Complains (input : ProgramInput) (settings : Settings) : String → Prop where
  | environment {first last : Date} {error : EnvironmentError}
      (dated : range settings input.today = .ok (first, last))
      (ordered : last.isBefore first = false)
      (refused : ServiceConfig.ofEnvironment input.environment = .error error) :
      Complains input settings error.message
  | run (launch : Launch input settings) {error : SyncError}
      (failed : launch.ending.1 = .error error)
      (handled : ¬Escapes input settings (.sync error)) : Complains input settings error.message

/-- The text consists of whole lines. -/
def IsLines (text : String) : Prop := text = "" ∨ ∃ line, text = line ++ "\n"

theorem IsLines.append {first second : String} (left : IsLines first) (right : IsLines second) :
    IsLines (first ++ second) := by
  obtain rfl | ⟨line, rfl⟩ := right
  · rwa [String.append_empty]
  · exact .inr ⟨first ++ line, (String.append_assoc ..).symm⟩

theorem isLines_loggedText (threshold : LogThreshold) (events : List Event) :
    IsLines (loggedText threshold events) := by
  induction events with
  | nil => exact .inl rfl
  | cons event rest ih =>
      cases event with
      | logged record =>
          apply IsLines.append _ ih
          split
          · exact .inr ⟨_, rfl⟩
          · exact .inl rfl
      | _ => exact ih

/-- What the exit of the program tells of its run. An error escapes only in the ways listed. The
exit code is 2 if and only if the end is before the start, which is noticed before anything is
requested or written; it is 0 if and only if the run gives a report; and otherwise it is 1, after a
line that says why. -/
structure Accounts (input : ProgramInput) (settings : Settings) (result : ProgramResult) :
    Prop where
  escaped : ∀ fault, result.exit = .error fault ↔ Escapes input settings fault
  inverted : result.exit = .ok 2 ↔ EndsBeforeStart settings input.today
  untouched : result.exit = .ok 2 → result.requests = [] ∧ result.files = input.files
  reported : result.exit = .ok 0 ↔
    ∃ (launch : Launch input settings) (report : SyncReport), launch.ending.1 = .ok report
  complained : ∀ code, result.exit = .ok code → code ≠ 2 → code ≠ 0 →
    code = 1 ∧ ∃ logged message, IsLines logged ∧ Complains input settings message ∧
      result.errors = logged ++ errorLine message

theorem range_of_unset {settings : Settings} {today : Date} (unset : settings.first = none)
    (early : (settings.last.getD today).minusDays? lookbackDays = none) :
    range settings today = .error .startOutOfRange := by
  simp only [range, unset, early]

section Exit

variable {input : ProgramInput} {settings : Settings}

theorem Launch.rulesIn_eq (launch : Launch input settings) :
    launch.options.rulesIn input.files =
      match input.platform.path? settings.rulesPath with
      | none => .error .homeUnknown
      | some path => RuleSet.load input.platform input.files path := rfl

theorem Launch.rules_unreported (launch : Launch input settings) {error : RulesFileError}
    (unread : launch.options.rulesIn input.files = .error error)
    (unreported : (SyncError.rules error).isReported = false) :
    Escapes input settings (.sync (.rules error)) := by
  cases located : input.platform.path? settings.rulesPath with
  | none =>
      rw [launch.rulesIn_eq, located] at unread
      cases unread
      exact .home launch located
  | some path =>
      rw [launch.rulesIn_eq, located] at unread
      exact .rules launch located (RuleSet.unreported_iff.mpr ⟨unread, unreported⟩)

theorem Launch.service_unreported (launch : Launch input settings) {error : ServiceError}
    (failed : launch.ending.1 = .error (.service error))
    (unreported : (SyncError.service error).isReported = false) :
    Escapes input settings (.sync (.service error)) := by
  have cause : error.HasCause launch.client input.replies := cause_of_failed failed
  cases error with
  | interrupted interruption => exact .interrupted launch cause unreported failed
  | refused fault =>
      cases fault with
      | controlCharacter selector character => exact .refused launch cause failed
      | encoding start characters => cases unreported
  | dateOverflow overflow => exact .modified launch cause failed
  | tooDeep => exact .depth launch cause failed
  | _ => cases unreported

theorem Launch.escapes_iff (launch : Launch input settings) (fault : ProgramFault) :
    Escapes input settings fault ↔
      ∃ error, fault = .sync error ∧ launch.ending.1 = .error error ∧
        error.isReported = false := by
  constructor
  · intro escapes
    cases escapes with
    | start unset early =>
        have undated := range_of_unset unset early
        rw [launch.dated] at undated
        cases undated
    | home _ unknown =>
        refine ⟨_, rfl, (runSync_rules_iff _).mpr ?_, rfl⟩
        change launch.options.rulesIn input.files = _
        rw [launch.rulesIn_eq, unknown]
    | rules _ known unreported =>
        obtain ⟨unread, unreported⟩ := RuleSet.unreported_iff.mp unreported
        refine ⟨_, rfl, (runSync_rules_iff _).mpr ?_, unreported⟩
        change launch.options.rulesIn input.files = _
        rw [launch.rulesIn_eq, known]
        exact unread
    | state other loaded unreported =>
        obtain rfl := other.eq_of_same launch
        obtain ⟨unread, unreported⟩ := SyncState.unreported_iff.mp unreported
        exact ⟨_, rfl, (runSync_state_iff _).mpr ⟨⟨_, loaded⟩, unread⟩, unreported⟩
    | interrupted other _ unhandled failed =>
        obtain rfl := other.eq_of_same launch
        exact ⟨_, rfl, failed, unhandled⟩
    | refused other _ failed | modified other _ failed | depth other _ failed =>
        obtain rfl := other.eq_of_same launch
        exact ⟨_, rfl, failed, rfl⟩
    | saving other _ _ failed =>
        obtain rfl := other.eq_of_same launch
        exact ⟨_, rfl, failed, rfl⟩
  · rintro ⟨error, rfl, failed, unreported⟩
    cases error with
    | rules error =>
        exact launch.rules_unreported ((runSync_rules_iff _).mp failed) unreported
    | state error =>
        obtain ⟨⟨rules, loaded⟩, unread⟩ := (runSync_state_iff _).mp failed
        exact .state launch loaded (SyncState.unreported_iff.mpr ⟨unread, unreported⟩)
    | record error => cases unreported
    | reference error => cases unreported
    | service error => exact launch.service_unreported failed unreported
    | file error =>
        obtain ⟨live, state, files, unsaved⟩ := live_of_unsaved failed
        exact .saving launch live unsaved failed

theorem not_endsBeforeStart {first last : Date}
    (dated : range settings input.today = .ok (first, last))
    (ordered : last.isBefore first = false) : ¬EndsBeforeStart settings input.today := by
  rintro ⟨otherFirst, otherLast, again, inverted⟩
  obtain ⟨rfl, rfl⟩ := Prod.mk.inj (Except.ok.inj (dated.symm.trans again))
  exact Bool.false_ne_true (ordered.symm.trans inverted)

namespace Launch

variable (launch : Launch input settings) (threshold : LogThreshold) {world : World Connection}

theorem synchronize_done {report : SyncReport} (ended : launch.ending = (.ok report, world)) :
    synchronize input settings threshold launch.first launch.last =
      { exit := .ok 0
        output := echoedText world.events ++ report.summary ++ "\n"
        errors := loggedText threshold world.events
        requests := world.service.requests
        files := world.files } := by
  have ran : (runSync (.ofClient launch.client) launch.options).run launch.start =
    (.ok report, world) := ended
  simp only [options, client, start] at ran
  simp only [synchronize, launch.configured, ran]

theorem synchronize_failed {error : SyncError} (ended : launch.ending = (.error error, world)) :
    synchronize input settings threshold launch.first launch.last =
      { exit := if error.isReported then .ok 1 else .error (.sync error)
        output := echoedText world.events
        errors := loggedText threshold world.events ++
          if error.isReported then errorLine error.message else ""
        requests := world.service.requests
        files := world.files } := by
  have ran : (runSync (.ofClient launch.client) launch.options).run launch.start =
    (.error error, world) := ended
  simp only [options, client, start] at ran
  simp only [synchronize, launch.configured, ran]
  cases error.isReported with
  | true => rfl
  | false => simp only [Bool.false_eq_true, if_false, String.append_empty]

theorem accounts_done {report : SyncReport} (ended : launch.ending = (.ok report, world)) :
    Accounts input settings
      (synchronize input settings threshold launch.first launch.last) := by
  have begun := not_endsBeforeStart launch.dated launch.ordered
  rw [launch.synchronize_done threshold ended]
  constructor
  case escaped =>
    intro fault
    refine ⟨nofun, fun escapes => ?_⟩
    obtain ⟨error, _, failed, _⟩ := (launch.escapes_iff fault).mp escapes
    rw [ended] at failed
    cases failed
  case inverted => exact ⟨nofun, fun inverted => (begun inverted).elim⟩
  case untouched => exact nofun
  case reported => exact ⟨fun _ => ⟨launch, report, by rw [ended]⟩, fun _ => rfl⟩
  case complained =>
    rintro code ⟨⟩ _ other
    exact (other rfl).elim

theorem escapes_iff_of_failed {error : SyncError} (ended : launch.ending = (.error error, world))
    (fault : ProgramFault) :
    Escapes input settings fault ↔ fault = .sync error ∧ error.isReported = false := by
  rw [launch.escapes_iff, ended]
  constructor
  · rintro ⟨_, rfl, ⟨⟩, unreported⟩
    exact ⟨rfl, unreported⟩
  · rintro ⟨rfl, unreported⟩
    exact ⟨error, rfl, rfl, unreported⟩

theorem not_reports_of_failed {error : SyncError}
    (ended : launch.ending = (.error error, world)) :
    ¬∃ (other : Launch input settings) (report : SyncReport), other.ending.1 = .ok report := by
  rintro ⟨other, report, told⟩
  obtain rfl := other.eq_of_same launch
  rw [ended] at told
  cases told

theorem accounts_reported {error : SyncError} (ended : launch.ending = (.error error, world))
    (reported : error.isReported = true) :
    Accounts input settings
      (synchronize input settings threshold launch.first launch.last) := by
  have begun := not_endsBeforeStart launch.dated launch.ordered
  have handled (fault : ProgramFault) : ¬Escapes input settings fault := by
    rw [launch.escapes_iff_of_failed ended, reported]
    rintro ⟨_, ⟨⟩⟩
  rw [launch.synchronize_failed threshold ended, reported]
  constructor
  case escaped => exact fun fault => ⟨nofun, fun escapes => (handled fault escapes).elim⟩
  case inverted => exact ⟨nofun, fun inverted => (begun inverted).elim⟩
  case untouched => exact nofun
  case reported => exact ⟨nofun, fun told => (launch.not_reports_of_failed ended told).elim⟩
  case complained =>
    rintro code ⟨⟩ _ _
    have complains : Complains input settings error.message :=
      .run launch (by rw [ended]) (handled _)
    exact ⟨rfl, _, error.message, isLines_loggedText threshold world.events, complains, rfl⟩

theorem accounts_escaped {error : SyncError} (ended : launch.ending = (.error error, world))
    (unreported : error.isReported = false) :
    Accounts input settings
      (synchronize input settings threshold launch.first launch.last) := by
  have begun := not_endsBeforeStart launch.dated launch.ordered
  rw [launch.synchronize_failed threshold ended, unreported]
  constructor
  case escaped =>
    intro fault
    rw [launch.escapes_iff_of_failed ended]
    constructor
    · rintro ⟨⟩
      exact ⟨rfl, unreported⟩
    · rintro ⟨rfl, _⟩
      rfl
  case inverted => exact ⟨nofun, fun inverted => (begun inverted).elim⟩
  case untouched => exact nofun
  case reported => exact ⟨nofun, fun told => (launch.not_reports_of_failed ended told).elim⟩
  case complained => exact nofun

theorem runProgram_eq
    (parsed : Command.ofTexts (standardSettings input.environment) input.arguments =
      .ok (.run settings))
    (recognised : Program.threshold settings input.environment = .ok threshold) :
    runProgram input = synchronize input settings threshold launch.first launch.last := by
  simp only [runProgram, parsed, runWith, recognised, launch.dated, launch.ordered,
    Bool.false_eq_true, if_false]

end Launch

theorem Launch.accounts (launch : Launch input settings) (threshold : LogThreshold)
    (parsed : Command.ofTexts (standardSettings input.environment) input.arguments =
      .ok (.run settings))
    (recognised : Program.threshold settings input.environment = .ok threshold) :
    Accounts input settings (runProgram input) := by
  rw [launch.runProgram_eq threshold parsed recognised]
  cases ended : launch.ending with
  | mk result world =>
      cases result with
      | ok report => exact launch.accounts_done threshold ended
      | error error =>
          cases reported : error.isReported with
          | true => exact launch.accounts_reported threshold ended reported
          | false => exact launch.accounts_escaped threshold ended reported

end Exit

/-! A month of the calendar, over rules that stand under their path, or something else there. -/

def january : Settings where
  rulesPath := "rules.yaml"
  statePath := ".toshl_sync_state.json"
  first := some ⟨2023, 1, 1, by decide⟩
  last := some ⟨2023, 1, 31, by decide⟩

def timeout : Reply := .interrupted ⟨"TimeoutError", "timed out", false⟩

end LedgerRules
