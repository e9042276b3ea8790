import LedgerRules.Document.Canonical
import LedgerRules.Files.Basic
import LedgerRules.Rules.Compile
import LedgerRules.Yaml.Value

/-!
Rules from a file: a YAML document, its rules, and the fingerprint by which a change of the rules is
noticed.
-/

namespace LedgerRules

inductive RulesFileError where
  | file (error : FileError)
  | encoding (error : Utf8.DecodingError)
  | value (fault : Yaml.Fault)
  | rules (error : RulesError)
  | canonical (error : CanonicalError)
  | homeUnknown
  | tooDeep

def RulesFileError.message : RulesFileError → String
  | .file error => error.message
  | .encoding error => error.message
  | .value fault => fault.message
  | .rules error => error.message
  | .canonical error => error.message
  | .homeUnknown => Platform.homeMissing
  | .tooDeep => Platform.stackExceeded

/-- The text of a rules file. A character that the end of the file cuts off is read on its own, so
that its place is counted from itself. -/
def rulesText (content : Bytes) : Except Utf8.DecodingError String :=
  (Utf8.decode? content).mapError fun error =>
    if error.kind = .unexpectedEnd then { error with position := 0 } else error

def readRulesDocument (platform : Platform) (files : Files) (path : Path) :
    Except RulesFileError Document := do
  if !(← (files.hasNode path).mapError .file) then
    throw (.rules (.configuration (.fileMissing path.text)))
  let content ← (files.read path).mapError .file
  let text ← (rulesText content).mapError .encoding
  if platform.exhausts (.yaml text) then throw .tooDeep
  (Yaml.read text).mapError fun fault =>
    if fault = .malformed then .rules (.configuration (.fileUnreadable path.text))
    else .value fault

def RuleSet.ofDocument (platform : Platform) (document : Document) :
    Except RulesFileError RuleSet := do
  let rules ← (compileRules platform document).mapError .rules
  let fingerprint ← (document.writtenFingerprint platform).mapError .canonical
  return ⟨rules, fingerprint⟩

def RuleSet.load (platform : Platform) (files : Files) (path : Path) :
    Except RulesFileError RuleSet := do
  RuleSet.ofDocument platform (← readRulesDocument platform files path)

end LedgerRules
