import LedgerRules.Calendar.IsoDate
import LedgerRules.Text.Digit
import LedgerRules.Text.Quoted
import LedgerRules.Text.Split

/-!
Arguments of the command line. An option may be shortened as long as it stays unique, its value may
be joined to it by an equals sign, and options of one letter may be written together.
-/

namespace LedgerRules

inductive CommandOption where
  | help
  | rulesPath
  | statePath
  | dryRun
  | first
  | last
  | full
  | verbose
  deriving DecidableEq, Repr

namespace CommandOption

def all : List CommandOption :=
  [.help, .rulesPath, .statePath, .dryRun, .first, .last, .full, .verbose]

def names : CommandOption → List String
  | .help => ["-h", "--help"]
  | .rulesPath => ["--config"]
  | .statePath => ["--state"]
  | .dryRun => ["--dry-run"]
  | .first => ["--from"]
  | .last => ["--to"]
  | .full => ["--full"]
  | .verbose => ["-v", "--verbose"]

def takesValue : CommandOption → Bool
  | .rulesPath => true
  | .statePath => true
  | .first => true
  | .last => true
  | _ => false

def spellings : List (String × CommandOption) :=
  all.flatMap fun option => option.names.map fun name => (name, option)

def ofName? (name : String) : Option CommandOption := spellings.lookup name

end CommandOption

structure Settings where
  rulesPath : String
  statePath : String
  first : Option Date := none
  last : Option Date := none
  isDryRun : Bool := false
  isFull : Bool := false
  isVerbose : Bool := false

inductive UsageError where
  | ambiguous (argument : String) (names : List String)
  | missingValue (option : CommandOption)
  | unwantedValue (option : CommandOption) (value : String)
  | invalidDate (option : CommandOption) (text : String)
  | unrecognized (arguments : List String)
  deriving DecidableEq, Repr

namespace UsageError

def optionLabel (option : CommandOption) : String :=
  "argument " ++ String.intercalate "/" option.names ++ ": "

def invalidDateText (text : String) : String :=
  "invalid date " ++ Text.quoted text ++ " (expected YYYY-MM-DD)"

def message : UsageError → String
  | .ambiguous argument names =>
      "ambiguous option: " ++ argument ++ " could match " ++ String.intercalate ", " names
  | .missingValue option => optionLabel option ++ "expected one argument"
  | .unwantedValue option value =>
      optionLabel option ++ "ignored explicit argument " ++ Text.quoted value
  | .invalidDate option text => optionLabel option ++ invalidDateText text
  | .unrecognized arguments => "unrecognized arguments: " ++ String.intercalate " " arguments

end UsageError

structure JoinedValue where
  isMarked : Bool
  text : String
  deriving DecidableEq, Repr

inductive Argument where
  | plain (text : String)
  | named (option : CommandOption) (value : Option JoinedValue)
  | unknown (text : String)
  deriving DecidableEq, Repr

namespace Argument

def isNegativeNumber (text : String) : Bool :=
  let isWhole (characters : List Char) : Bool :=
    !characters.isEmpty && characters.all Text.isDigit
  let isNumber (characters : List Char) : Bool :=
    isWhole characters ||
      match Text.splitOnce '.' characters with
      | (whole, some fraction) => whole.all Text.isDigit && isWhole fraction
      | (_, none) => false
  match text.toList with
  | '-' :: rest =>
      isNumber rest || (rest.getLast? == some '\n' && isNumber rest.dropLast)
  | _ => false

def longMatches (text : String) : List (String × Argument) :=
  let (start, value) := Text.splitOnce '=' text.toList
  let joined := value.map fun value => (⟨true, String.ofList value⟩ : JoinedValue)
  (CommandOption.spellings.filter fun spelling => start.isPrefixOf spelling.1.toList).map
    fun (name, option) => (name, .named option joined)

def shortMatches (text : String) : List (String × Argument) :=
  let characters := text.toList
  CommandOption.spellings.filterMap fun (name, option) =>
    if name.toList == characters.take 2 then
      some (name, .named option (some ⟨false, String.ofList (characters.drop 2)⟩))
    else if characters.isPrefixOf name.toList then some (name, .named option none)
    else none

def joined? (text : String) : Option Argument :=
  match Text.splitOnce '=' text.toList with
  | (name, some value) =>
      (CommandOption.ofName? (String.ofList name)).map fun option =>
        .named option (some ⟨true, String.ofList value⟩)
  | (_, none) => none

def ofShortened (text : String) : Except UsageError Argument :=
  let isLong := (text.toList.drop 1).head? == some '-'
  let found := if isLong then longMatches text else shortMatches text
  match found with
  | [(_, argument)] => .ok argument
  | [] =>
      .ok (if isNegativeNumber text || text.toList.contains ' ' then .plain text
        else .unknown text)
  | several => .error (.ambiguous text (several.map (·.1)))

def ofText (text : String) : Except UsageError Argument :=
  match text.toList with
  | '-' :: _ :: _ =>
      match CommandOption.ofName? text, joined? text with
      | some option, _ => .ok (.named option none)
      | none, some argument => .ok argument
      | none, none => ofShortened text
  | _ => .ok (.plain text)

/-- The arguments of a command line. After two hyphens alone nothing is an option, and they are no
value themselves. -/
def ofTexts : List String → Except UsageError (List Argument)
  | [] => .ok []
  | text :: rest =>
      if text == "--" then .ok ((text :: rest).map .unknown)
      else do
        let argument ← ofText text
        let arguments ← ofTexts rest
        return argument :: arguments

end Argument

inductive Command where
  | help
  | run (settings : Settings)

namespace Settings

def dateOf (option : CommandOption) (text : String) : Except UsageError Date :=
  match Date.ofIsoText? text with
  | some date => .ok date
  | none => .error (.invalidDate option text)

def withValue (settings : Settings) (option : CommandOption) (value : String) :
    Except UsageError Settings := do
  match option with
  | .rulesPath => return { settings with rulesPath := value }
  | .statePath => return { settings with statePath := value }
  | .first => return { settings with first := some (← dateOf option value) }
  | .last => return { settings with last := some (← dateOf option value) }
  | .dryRun => return { settings with isDryRun := true }
  | .full => return { settings with isFull := true }
  | .verbose => return { settings with isVerbose := true }
  | .help => return settings

def together (option : CommandOption) :
    List Char → Except UsageError (List CommandOption × Option String)
  | [] => .ok ([option], none)
  | letter :: rest =>
      if letter == '-' then .error (.unwantedValue option (String.ofList (letter :: rest)))
      else
        match CommandOption.ofName? (String.ofList ['-', letter]) with
        | none => .ok ([option], some (String.ofList ('-' :: letter :: rest)))
        | some next =>
            if rest.head? == some '=' then
              .error (.unwantedValue next (String.ofList (rest.drop 1)))
            else do
              let (others, left) ← together next rest
              return (option :: others, left)

def withOptions (settings : Settings) : List CommandOption → Except UsageError Command
  | [] => .ok (.run settings)
  | option :: rest =>
      if option = .help then .ok .help
      else do withOptions (← settings.withValue option "") rest

/-- Goes through arguments. What is no option and no value of one is gathered and refused at the
end. -/
def interpret (settings : Settings) (unknown : List String) :
    List Argument → Except UsageError Command
  | [] => if unknown.isEmpty then .ok (.run settings) else .error (.unrecognized unknown)
  | .plain text :: rest => interpret settings (unknown ++ [text]) rest
  | .unknown text :: rest => interpret settings (unknown ++ [text]) rest
  | .named option none :: rest =>
      if option.takesValue then
        match rest with
        | .plain value :: rest => do interpret (← settings.withValue option value) unknown rest
        | _ => .error (.missingValue option)
      else if option = .help then .ok .help
      else do interpret (← settings.withValue option "") unknown rest
  | .named option (some value) :: rest =>
      if option.takesValue then do
        interpret (← settings.withValue option value.text) unknown rest
      else if value.isMarked then .error (.unwantedValue option value.text)
      else do
        let (options, left) ← together option value.text.toList
        match ← settings.withOptions options with
        | .help => return .help
        | .run settings => interpret settings (unknown ++ left.toList) rest

end Settings

def Command.ofTexts (standard : Settings) (texts : List String) : Except UsageError Command := do
  standard.interpret [] (← Argument.ofTexts texts)

end LedgerRules
