import LedgerRules.Number.Reader
import LedgerRules.Pattern.Node
import LedgerRules.Platform
import LedgerRules.Text.LineBreak
import LedgerRules.Text.Quoted

/-!
What can be wrong with a pattern. Most faults are noticed at a position of the pattern's text.
-/

namespace LedgerRules.Pattern

inductive Fault where
  | escapeAtEnd
  | badEscape (text : String)
  | incompleteEscape (text : String)
  | octalTooLarge (text : String)
  | undefinedCharacterName (name : String)
  | missing (what : String)
  | unterminatedName (terminator : String)
  | unterminatedSet
  | badRange (first last : String)
  | nothingToRepeat
  | multipleRepeat
  | leastAboveMost
  | unexpectedEnd
  | unknownExtension (text : String)
  | badGroupName (name : String)
  | unknownGroupName (name : String)
  | groupNameTaken (name : String) (number earlier : Nat)
  | badGroupNumber
  | invalidReference (number : Nat)
  | openGroupReference
  | lookbehindGroupReference
  | tooManyBranches
  | lateGlobalFlags
  | localeFlag
  | incompatibleFlags
  | unknownFlag
  | globalFlagOn
  | globalFlagOff
  | kindFlagOff
  | flagOnAndOff
  | unbalancedParenthesis
  | lookbehindTooFar
  | lookbehindWidth
  | templateRepetition (greed : Greed)
  deriving DecidableEq, Repr

def Greed.code : Greed → String
  | .greedy => "MAX_REPEAT"
  | .lazy => "MIN_REPEAT"
  | .possessive => "POSSESSIVE_REPEAT"

def Fault.text : Fault → String
  | .escapeAtEnd => "bad escape (end of pattern)"
  | .badEscape text => "bad escape " ++ text
  | .incompleteEscape text => "incomplete escape " ++ text
  | .octalTooLarge text => "octal escape value " ++ text ++ " outside of range 0-0o377"
  | .undefinedCharacterName name => "undefined character name " ++ Text.quoted name
  | .missing what => "missing " ++ what
  | .unterminatedName terminator => "missing " ++ terminator ++ ", unterminated name"
  | .unterminatedSet => "unterminated character set"
  | .badRange first last => "bad character range " ++ first ++ "-" ++ last
  | .nothingToRepeat => "nothing to repeat"
  | .multipleRepeat => "multiple repeat"
  | .leastAboveMost => "min repeat greater than max repeat"
  | .unexpectedEnd => "unexpected end of pattern"
  | .unknownExtension text => "unknown extension ?" ++ text
  | .badGroupName name => "bad character in group name " ++ Text.quoted name
  | .unknownGroupName name => "unknown group name " ++ Text.quoted name
  | .groupNameTaken name number earlier =>
      "redefinition of group name " ++ Text.quoted name ++ " as group " ++ toString number ++
        "; was group " ++ toString earlier
  | .badGroupNumber => "bad group number"
  | .invalidReference number => "invalid group reference " ++ toString number
  | .openGroupReference => "cannot refer to an open group"
  | .lookbehindGroupReference =>
      "cannot refer to group defined in the same lookbehind subpattern"
  | .tooManyBranches => "conditional backref with more than two branches"
  | .lateGlobalFlags => "global flags not at the start of the expression"
  | .localeFlag => "bad inline flags: cannot use 'L' flag with a str pattern"
  | .incompatibleFlags => "bad inline flags: flags 'a', 'u' and 'L' are incompatible"
  | .unknownFlag => "unknown flag"
  | .globalFlagOn => "bad inline flags: cannot turn on global flag"
  | .globalFlagOff => "bad inline flags: cannot turn off global flag"
  | .kindFlagOff => "bad inline flags: cannot turn off flags 'a', 'u' and 'L'"
  | .flagOnAndOff => "bad inline flags: flag turned on and off"
  | .unbalancedParenthesis => "unbalanced parenthesis"
  | .lookbehindTooFar => "looks too much behind"
  | .lookbehindWidth => "look-behind requires fixed-width pattern"
  | .templateRepetition greed => "internal: unsupported template operator " ++ greed.code

inductive Refusal where
  | malformed (fault : Fault) (position : Option Nat)
  | repetitionTooLarge
  | repetitionTooLong (digits : Nat)
  | codeTooLarge
  | kindsIncompatible
  | tooDeep
  deriving DecidableEq, Repr

def faultMessage (pattern : String) (fault : Fault) : Option Nat → String
  | none => fault.text
  | some position =>
      let characters := pattern.toList
      let message := fault.text ++ " at position " ++ toString position
      if characters.contains '\n' then
        let (line, column) := Text.lineAndColumn characters position
        message ++ " (line " ++ toString line ++ ", column " ++ toString column ++ ")"
      else message

def Refusal.message (pattern : String) : Refusal → String
  | .malformed fault position => faultMessage pattern fault position
  | .repetitionTooLarge => "the repetition number is too large"
  | .repetitionTooLong digits => tooLongToRead digits
  | .codeTooLarge => "Python int too large to convert to C int"
  | .kindsIncompatible => "ASCII and UNICODE flags are incompatible"
  | .tooDeep => Platform.stackExceeded

end LedgerRules.Pattern
