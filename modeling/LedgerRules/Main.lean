import LedgerRules.CommandLine.Program
import Std.Data.HashMap
import Std.Time.Zoned

/-!
The command line over the real environment, clock and disk. No connection is made: the service's
replies are read from standard input, one JSON object a line. Names of characters are taken from the
Unicode character database, and home directories from the list of users, where these are installed.
-/

namespace LedgerRules

namespace Main

def variableNames : List String :=
  ["TOSHL_TOKEN", "TOSHL_BASE_URL", "TOSHL_PAGE_SIZE", "TOSHL_TIMEOUT_SECONDS", "TOSHL_RULES_PATH",
    "TOSHL_STATE_PATH", "LEDGER_SYNC_LOG_LEVEL"]

def readEnvironment : IO Environment :=
  variableNames.filterMapM fun name => do
    return (← IO.getEnv name).map fun value => (name, value)

def readLines (path : String) : IO (List String) := do
  try
    return (← IO.FS.lines path).toList
  catch _ => return []

def namesIn (database : List String) : Std.HashMap String Nat :=
  database.foldl
    (fun names line =>
      match line.splitOn ";" with
      | code :: name :: _ =>
          names.insert name (Text.ofDigitValues 16 (code.toList.filterMap Text.hexValue?))
      | _ => names)
    {}

def homeIn (users : List String) (user : String) : Option String :=
  users.findSome? fun line =>
    match line.splitOn ":" with
    | [name, _, _, _, _, home, _] => if name == user then some home else none
    | _ => none

def readPlatform : IO Platform := do
  let names := namesIn (← readLines "/usr/share/unicode/UnicodeData.txt")
  let users ← readLines "/etc/passwd"
  let own ← IO.getEnv "HOME"
  return {
    characterNamed? := fun name => names[Text.upperCase name]?
    home? := fun user => if user.isEmpty then own else homeIn users user
    exhausts := fun _ => false
    reads_flatText := fun _ => rfl }

def textOf : Json → String
  | .string text => text
  | _ => ""

def headerOf : Json → String × String
  | .array [name, value] => (textOf name, textOf value)
  | _ => ("", "")

def replyOf (value : Json) : Reply :=
  let field (name : String) : Json := (value.get? name).getD .null
  let status :=
    match field "status" with
    | .integer status => status
    | _ => 200
  let headers :=
    match field "headers" with
    | .array headers => headers.map headerOf
    | _ => []
  .answer status (textOf (field "reason")) headers (Utf8.encode (textOf (field "body")))

/-- Reads replies up to the end of the input; a line that is no JSON stands for a lost reply. -/
partial def readReplies (input : IO.FS.Stream) : IO (List Reply) := do
  let line ← input.getLine
  if line.isEmpty then return []
  let reply :=
    match Json.read line with
    | .ok value => replyOf value
    | .error error => .unreachable error.message
  return reply :: (← readReplies input)

def readNode (path : Path) : IO (Option Node) := do
  try
    return some (.file (← IO.FS.readBinFile path.text).toList)
  catch error =>
    match error with
    | .inappropriateType .. => return some .directory
    | _ => return none

def pathsTo (path : Path) : List Path :=
  (List.range path.names.length).map fun count => { path with names := path.names.take (count + 1) }

def readFiles (paths : List Path) : IO Files := do
  let mut files := Files.empty
  for path in paths.flatMap pathsTo do
    if let some node ← readNode path then
      files := files.put path node
  return files

/-- Puts a file in place as a whole: its content is written beside it first. -/
def writeFile (path : Path) (content : Bytes) : IO Unit := do
  let beside := path.text ++ ".new"
  IO.FS.writeBinFile beside content.toByteArray
  IO.FS.rename beside path.text

def writeChanges (before after : Files) : IO Unit := do
  for (path, node) in after.nodes.reverse do
    unless before.node? path == some node do
      match node with
      | .directory => IO.FS.createDirAll path.text
      | .file content => do
          IO.FS.createDirAll path.parent.text
          writeFile path content

def dayBeforeEpoch : Int := 719162

def today : IO (Option Date) := do
  let day ← Std.Time.PlainDate.now
  return Date.ofDayNumber? (dayBeforeEpoch + 1 + day.toEpochDay.val).toNat

def filesOf (environment : Environment) (arguments : List String) : List String :=
  match Command.ofTexts (Program.standardSettings environment) arguments with
  | .ok (.run settings) => [settings.rulesPath, settings.statePath]
  | _ => []

end Main

end LedgerRules

open LedgerRules in
def main (arguments : List String) : IO UInt32 := do
  let environment ← Main.readEnvironment
  let platform ← Main.readPlatform
  let paths := (Main.filesOf environment arguments).filterMap platform.path?
  let files ← Main.readFiles paths
  let some today ← Main.today | return 1
  let replies ← Main.readReplies (← IO.getStdin)
  let result := runProgram
    { arguments, environment, files, replies, today, platform, transport := .http }
  IO.print result.output
  IO.eprint result.errors
  Main.writeChanges files result.files
  match result.exit with
  | .ok code => return code.toUInt32
  | .error fault =>
      IO.eprint (Program.errorLine fault.message)
      return 1
