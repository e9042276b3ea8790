import LedgerRules.Calendar.Date
import LedgerRules.Files.Path

/-!
Files as a value: what is stored under each path. Actions on files change this value; an action that
fails keeps what it has done up to then.
-/

namespace LedgerRules

inductive FileError where
  | notFound
  | isDirectory
  | notADirectory
  | alreadyExists
  | nameTooLong
  | busy
  deriving DecidableEq, Repr

def FileError.message : FileError → String
  | .notFound => "No such file or directory"
  | .isDirectory => "Is a directory"
  | .notADirectory => "Not a directory"
  | .alreadyExists => "File exists"
  | .nameTooLong => "File name too long"
  | .busy => "Device or resource busy"

inductive Node where
  | file (content : Bytes)
  | directory
  deriving DecidableEq, Repr

structure Files where
  nodes : List (Path × Node)

namespace Files

def empty : Files := ⟨[]⟩

/-- What is stored under a path. The two top directories always exist. -/
def node? (files : Files) (path : Path) : Option Node :=
  if path.names.isEmpty then some .directory else files.nodes.lookup path

def erase (files : Files) (path : Path) : Files :=
  ⟨files.nodes.filter fun entry => entry.1 != path⟩

def put (files : Files) (path : Path) (node : Node) : Files :=
  ⟨(path, node) :: (files.erase path).nodes⟩

def findFrom (files : Files) (start : Path) : List String → Except FileError Node
  | [] =>
      match files.node? start with
      | some node => .ok node
      | none => .error .notFound
  | name :: rest =>
      match files.node? start with
      | some .directory =>
          if Path.isTooLong name then .error .nameTooLong
          else findFrom files (start.child name) rest
      | some (.file _) => .error .notADirectory
      | none => .error .notFound

def find (files : Files) (path : Path) : Except FileError Node :=
  files.findFrom (Path.top path.isAbsolute) path.names

def hasNode (files : Files) (path : Path) : Except FileError Bool :=
  match files.find path with
  | .ok _ => .ok true
  | .error .nameTooLong => .error .nameTooLong
  | .error _ => .ok false

def read (files : Files) (path : Path) : Except FileError Bytes :=
  match files.find path with
  | .ok (.file content) => .ok content
  | .ok .directory => .error .isDirectory
  | .error error => .error error

def content? (files : Files) (path : Path) : Option Bytes := (files.read path).toOption

end Files

abbrev FileAction := ExceptT FileError (StateM Files)

namespace Files

def makeDirectoriesFrom (start : Path) : List String → FileAction Unit
  | [] => return
  | name :: rest => do
      let path := start.child name
      match (← get).find path with
      | .ok .directory => makeDirectoriesFrom path rest
      | .ok (.file _) => throw (if rest.isEmpty then .alreadyExists else .notADirectory)
      | .error .notFound =>
          modify fun files => files.put path .directory
          makeDirectoriesFrom path rest
      | .error error => throw error

def makeDirectories (path : Path) : FileAction Unit :=
  makeDirectoriesFrom (Path.top path.isAbsolute) path.names

def write (path : Path) (content : Bytes) : FileAction Unit := do
  let files ← get
  match files.find path, files.find path.parent with
  | .ok .directory, _ => throw .isDirectory
  | .ok (.file _), _ => set (files.put path (.file content))
  | .error .notFound, .ok .directory => set (files.put path (.file content))
  | .error error, _ => throw error

def remove (path : Path) : FileAction Unit := modify fun files => files.erase path

def move (source target : Path) : FileAction Unit := do
  let files ← get
  match files.find source, files.find target with
  | .error error, _ => throw error
  | .ok _, .ok .directory => throw (if target.names.isEmpty then .busy else .isDirectory)
  | .ok node, _ => set ((files.erase source).put target node)

/-- A file beside the given one that does not exist yet: the first of the numbered names that is
free. -/
def temporaryPath (files : Files) (path : Path) : Path :=
  let numbered (number : Nat) : Path :=
    path.parent.child ("." ++ path.name ++ "." ++ Date.padded 8 number)
  let free (number : Nat) : Bool := (files.nodes.lookup (numbered number)).isNone
  numbered (((List.range (files.nodes.length + 1)).find? free).getD 0)

/-- Replaces a file as a whole: the content is written to a file beside it, which then takes its
place. Directories are made where they are missing. -/
def replace (path : Path) (content : Bytes) : FileAction Unit := do
  makeDirectories path.parent
  let temporary := (← get).temporaryPath path
  write temporary content
  tryCatch (move temporary path) fun error => do
    remove temporary
    throw error

end Files

end LedgerRules
