import LedgerRules.CommandLine.Program
import LedgerRules.Proofs.Sync.Errors

/-!
The errors of reading the files that the command line does not report: a home directory that is not
known, something that is neither a file nor missing, a text that YAML has no value for, a pattern
that is too large, keys that have no order, and all that is too deep for the stack. Everything else
in the files that stops a run is reported.
-/

namespace LedgerRules

/-- What stands under the path is not missing, but cannot be read as a file either. -/
inductive Files.Obstructed (files : Files) (path : Path) : FileError → Prop where
  | directory (found : files.find path = .ok .directory) : files.Obstructed path .isDirectory
  | nameTooLong (unnamed : files.find path = .error .nameTooLong) :
      files.Obstructed path .nameTooLong

/-- The faults of a YAML text that are neither faults of its form nor values out of range. -/
def Yaml.Fault.IsUnreported : Yaml.Fault → Prop
  | .codeTooLarge | .emptyNumber | .truthValue _ | .timeText => True
  | _ => False

def RulesError.IsOversized : RulesError → Prop
  | .repetitionTooLarge | .codeTooLarge | .patternTooDeep => True
  | _ => False

/-- What can be wrong with a rules file without being reported. -/
inductive RuleSet.Unreported (platform : Platform) (files : Files) (path : Path) :
    RulesFileError → Prop where
  | file {error : FileError} (obstructed : files.Obstructed path error) :
      Unreported platform files path (.file error)
  | depth {content : Bytes} {text : String} (found : files.find path = .ok (.file content))
      (decoded : rulesText content = .ok text) (deep : platform.exhausts (.yaml text) = true) :
      Unreported platform files path .tooDeep
  | value {content : Bytes} {text : String} {fault : Yaml.Fault}
      (found : files.find path = .ok (.file content)) (decoded : rulesText content = .ok text)
      (flat : platform.exhausts (.yaml text) = false) (refused : Yaml.read text = .error fault)
      (unreported : fault.IsUnreported) : Unreported platform files path (.value fault)
  | pattern {document : Document} {error : RulesError}
      (read : readRulesDocument platform files path = .ok document)
      (refused : compileRules platform document = .error error) (oversized : error.IsOversized) :
      Unreported platform files path (.rules error)
  | keys {document : Document} {rules : List Rule} {error : CanonicalError}
      (read : readRulesDocument platform files path = .ok document)
      (compiled : compileRules platform document = .ok rules)
      (unwritten : document.writtenFingerprint platform = .error error)
      (depthOrOrder : error ≠ .integerTooLong) : Unreported platform files path (.canonical error)

theorem readRulesDocument_eq (platform : Platform) (files : Files) (path : Path) :
    readRulesDocument platform files path =
      match files.find path with
      | .ok (.file content) => do
          let text ← (rulesText content).mapError .encoding
          if platform.exhausts (.yaml text) then throw .tooDeep
          (Yaml.read text).mapError fun fault =>
            if fault = .malformed then .rules (.configuration (.fileUnreadable path.text))
            else .value fault
      | .ok .directory => .error (.file .isDirectory)
      | .error .nameTooLong => .error (.file .nameTooLong)
      | .error _ => .error (.rules (.configuration (.fileMissing path.text))) := by
  simp only [readRulesDocument, Files.hasNode, Files.read]
  cases files.find path with
  | ok node => cases node <;> rfl
  | error error => cases error <;> rfl

theorem SyncState.load_eq (files : Files) (path : Path) :
    SyncState.load files path =
      match files.find path with
      | .ok (.file content) => decode path content
      | .ok .directory => .error (.file .isDirectory)
      | .error .nameTooLong => .error (.file .nameTooLong)
      | .error _ => .ok {} := by
  simp only [SyncState.load, Files.hasNode, Files.read]
  cases files.find path with
  | ok node => cases node <;> rfl
  | error error => cases error <;> rfl

theorem readRulesDocument_of_text {platform : Platform} {files : Files} {path : Path}
    {content : Bytes} {text : String} (found : files.find path = .ok (.file content))
    (decoded : rulesText content = .ok text) :
    readRulesDocument platform files path =
      if platform.exhausts (.yaml text) then .error .tooDeep
      else
        (Yaml.read text).mapError fun fault =>
          if fault = .malformed then .rules (.configuration (.fileUnreadable path.text))
          else .value fault := by
  rw [readRulesDocument_eq, found]
  simp only [decoded, Except.mapError, bind, Except.bind]
  cases platform.exhausts (.yaml text) <;> rfl

namespace RuleSet

variable {platform : Platform} {files : Files} {path : Path} {error : RulesFileError}

theorem load_of_unread (unread : readRulesDocument platform files path = .error error) :
    RuleSet.load platform files path = .error error := by
  rw [RuleSet.load, unread]
  rfl

theorem load_of_read {document : Document}
    (read : readRulesDocument platform files path = .ok document) :
    RuleSet.load platform files path = RuleSet.ofDocument platform document := by
  rw [RuleSet.load, read]
  rfl

namespace Unreported

theorem load_eq (unreported : RuleSet.Unreported platform files path error) :
    RuleSet.load platform files path = .error error := by
  cases unreported with
  | file obstructed =>
      apply RuleSet.load_of_unread
      cases obstructed with
      | directory found | nameTooLong found => rw [readRulesDocument_eq, found]
  | depth found decoded deep =>
      apply RuleSet.load_of_unread
      rw [readRulesDocument_of_text found decoded, deep, if_pos rfl]
  | @value content text fault found decoded flat refused unreported =>
      apply RuleSet.load_of_unread
      rw [readRulesDocument_of_text found decoded, flat, refused, Except.mapError]
      have formed : fault ≠ .malformed := by
        rintro rfl
        exact unreported
      rw [if_neg Bool.false_ne_true, if_neg formed]
  | pattern read refused =>
      rw [RuleSet.load_of_read read, RuleSet.ofDocument, refused]
      rfl
  | keys read compiled unwritten =>
      rw [RuleSet.load_of_read read, RuleSet.ofDocument, compiled, unwritten]
      rfl

theorem isReported_eq (unreported : RuleSet.Unreported platform files path error) :
    (SyncError.rules error).isReported = false := by
  cases unreported with
  | file obstructed => rfl
  | depth found decoded deep => rfl
  | @keys document rules error read compiled unwritten depthOrOrder =>
      cases error with
      | integerTooLong => exact absurd rfl depthOrOrder
      | _ => rfl
  | @value content text fault found decoded flat refused unreported =>
      cases fault with
      | codeTooLarge | emptyNumber | truthValue | timeText => rfl
      | _ => exact unreported.elim
  | @pattern document error read refused oversized =>
      cases error with
      | repetitionTooLarge | codeTooLarge | patternTooDeep => rfl
      | _ => exact oversized.elim

theorem of_text {content : Bytes} {text : String} (found : files.find path = .ok (.file content))
    (decoded : rulesText content = .ok text)
    (unread : readRulesDocument platform files path = .error error)
    (unreported : (SyncError.rules error).isReported = false) :
    RuleSet.Unreported platform files path error := by
  rw [readRulesDocument_of_text found decoded] at unread
  cases deep : platform.exhausts (.yaml text) with
  | true =>
      rw [deep, if_pos rfl] at unread
      obtain rfl := Except.error.inj unread
      exact .depth found decoded deep
  | false =>
      rw [deep, if_neg Bool.false_ne_true] at unread
      cases refused : Yaml.read text with
      | ok document =>
          rw [refused] at unread
          cases unread
      | error fault =>
          rw [refused] at unread
          obtain rfl := Except.error.inj unread
          cases fault with
          | codeTooLarge | emptyNumber | truthValue | timeText =>
              exact .value found decoded deep refused trivial
          | _ => cases unreported

theorem of_unread (unread : readRulesDocument platform files path = .error error)
    (unreported : (SyncError.rules error).isReported = false) :
    RuleSet.Unreported platform files path error := by
  cases found : files.find path with
  | error missing =>
      rw [readRulesDocument_eq, found] at unread
      cases missing with
      | nameTooLong =>
          obtain rfl := Except.error.inj unread
          exact .file (.nameTooLong found)
      | _ =>
          obtain rfl := Except.error.inj unread
          cases unreported
  | ok node =>
      cases node with
      | directory =>
          rw [readRulesDocument_eq, found] at unread
          obtain rfl := Except.error.inj unread
          exact .file (.directory found)
      | file content =>
          cases decoded : rulesText content with
          | error broken =>
              rw [readRulesDocument_eq, found] at unread
              simp only [decoded] at unread
              obtain rfl := Except.error.inj unread
              cases unreported
          | ok text => exact .of_text found decoded unread unreported

theorem of_document {document : Document}
    (read : readRulesDocument platform files path = .ok document)
    (failed : RuleSet.ofDocument platform document = .error error)
    (unreported : (SyncError.rules error).isReported = false) :
    RuleSet.Unreported platform files path error := by
  rw [RuleSet.ofDocument] at failed
  cases compiled : compileRules platform document with
  | error refusal =>
      rw [compiled] at failed
      obtain rfl := Except.error.inj failed
      cases refusal with
      | repetitionTooLarge | codeTooLarge | patternTooDeep =>
          exact .pattern read compiled trivial
      | _ => cases unreported
  | ok rules =>
      rw [compiled] at failed
      cases unwritten : document.writtenFingerprint platform with
      | error unsuitable =>
          rw [unwritten] at failed
          obtain rfl := Except.error.inj failed
          refine .keys read compiled unwritten ?_
          rintro rfl
          cases unreported
      | ok fingerprint =>
          rw [unwritten] at failed
          cases failed

end Unreported

/-- The rules cannot be loaded, and the command line does not report why. -/
theorem unreported_iff :
    RuleSet.Unreported platform files path error ↔
      RuleSet.load platform files path = .error error ∧
        (SyncError.rules error).isReported = false := by
  constructor
  · intro unreported
    exact ⟨unreported.load_eq, unreported.isReported_eq⟩
  · rintro ⟨failed, unreported⟩
    cases read : readRulesDocument platform files path with
    | error fault =>
        rw [RuleSet.load_of_unread read] at failed
        obtain rfl := Except.error.inj failed
        exact .of_unread read unreported
    | ok document =>
        rw [RuleSet.load_of_read read] at failed
        exact .of_document read failed unreported

end RuleSet

namespace SyncState

/-- What can be wrong with the stored state without being reported. -/
inductive Unreported (options : SyncOptions) (files : Files) : StateError → Prop where
  | home (unknown : ¬options.IsStateKnown) : Unreported options files .homeUnknown
  | depth (known : options.IsStateKnown) (deep : options.isStateTooDeep files = true) :
      Unreported options files .tooDeep
  | file {error : FileError} (known : options.IsStateKnown)
      (obstructed : files.Obstructed options.stateFile error) :
      Unreported options files (.file error)

theorem isReported_of_decode {path : Path} {content : Bytes} {error : StateError}
    (failed : decode path content = .error error) : (SyncError.state error).isReported = true := by
  simp only [decode] at failed
  cases decoded : Utf8.decode? content with
  | error broken =>
      rw [decoded] at failed
      cases failed
      rfl
  | ok text =>
  simp only [decoded, Except.mapError, bind, Except.bind] at failed
  cases read : Json.read (Text.unifyLineBreaks text) with
  | error fault =>
      rw [read] at failed
      cases failed
      rfl
  | ok value =>
  rw [read] at failed
  cases value with
  | object fields =>
      simp only at failed
      cases checked : check fields <;> rw [checked] at failed <;> cases failed
      rfl
  | _ =>
      cases failed
      rfl

theorem load_of_obstructed {files : Files} {path : Path} {error : FileError}
    (obstructed : files.Obstructed path error) : load files path = .error (.file error) := by
  rw [load_eq]
  cases obstructed with
  | directory found | nameTooLong found => rw [found]

theorem flat_of_obstructed {options : SyncOptions} {files : Files} {error : FileError}
    (obstructed : files.Obstructed options.stateFile error) :
    options.isStateTooDeep files = false := by
  simp only [SyncOptions.isStateTooDeep, Files.content?, Files.read]
  cases obstructed with
  | directory found | nameTooLong found =>
      rw [found]
      rfl

theorem obstructed_of_load {files : Files} {path : Path} {error : StateError}
    (failed : load files path = .error error)
    (unreported : (SyncError.state error).isReported = false) :
    ∃ obstacle, error = .file obstacle ∧ files.Obstructed path obstacle := by
  rw [load_eq] at failed
  cases found : files.find path with
  | error missing =>
      rw [found] at failed
      cases missing with
      | nameTooLong => exact ⟨_, (Except.error.inj failed).symm, .nameTooLong found⟩
      | _ => cases failed
  | ok node =>
      rw [found] at failed
      cases node with
      | directory => exact ⟨_, (Except.error.inj failed).symm, .directory found⟩
      | file content => exact absurd (isReported_of_decode failed) (by simp [unreported])

/-- The state cannot be read, and the command line does not report why. -/
theorem unreported_iff {options : SyncOptions} {files : Files} {error : StateError} :
    Unreported options files error ↔
      options.stateIn files = .error error ∧ (SyncError.state error).isReported = false := by
  constructor
  · rintro (unknown | ⟨known, deep⟩ | ⟨known, obstructed⟩)
    · exact ⟨SyncOptions.stateIn_of_unknown unknown files, rfl⟩
    · exact ⟨SyncOptions.stateIn_of_tooDeep known deep, rfl⟩
    · rw [SyncOptions.stateIn_of_known known (flat_of_obstructed obstructed),
        load_of_obstructed obstructed]
      exact ⟨rfl, rfl⟩
  · rintro ⟨failed, unreported⟩
    by_cases known : options.IsStateKnown
    · cases deep : options.isStateTooDeep files with
      | true =>
          rw [SyncOptions.stateIn_of_tooDeep known deep] at failed
          cases failed
          exact .depth known deep
      | false =>
          rw [SyncOptions.stateIn_of_known known deep] at failed
          obtain ⟨obstacle, rfl, obstructed⟩ := obstructed_of_load failed unreported
          exact .file known obstructed
    · rw [SyncOptions.stateIn_of_unknown known] at failed
      cases failed
      exact .home known

end SyncState

end LedgerRules
