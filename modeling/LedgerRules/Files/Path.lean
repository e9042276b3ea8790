import LedgerRules.Text.Split
import LedgerRules.Text.Utf8

/-!
Paths: the names that lead to a file. Empty names and names that are a single point lead nowhere
else and are dropped.
-/

namespace LedgerRules

structure Path where
  isAbsolute : Bool
  names : List String
  deriving DecidableEq, Repr

namespace Path

def ofText (text : String) : Path :=
  let names := (Text.splitAt '/' text.toList).map String.ofList
  ⟨text.toList.head? == some '/', names.filter fun name => !name.isEmpty && name != "."⟩

def text (path : Path) : String :=
  if path.isAbsolute then "/" ++ String.intercalate "/" path.names
  else if path.names.isEmpty then "."
  else String.intercalate "/" path.names

/-- The path in full: a first name that begins with `~` stands for the home directory of a user. It
stands for nothing if there is no such directory, or if that one begins so itself. -/
def expand? (home? : String → Option String) (path : Path) : Option Path :=
  match path.isAbsolute, path.names.map String.toList with
  | false, ('~' :: user) :: _ => do
      let home ← home? (String.ofList user)
      let trimmed := (home.toList.reverse.dropWhile (· == '/')).reverse
      if trimmed.head? == some '~' then none
      let start := if trimmed.isEmpty then ⟨true, []⟩ else ofText (String.ofList trimmed)
      some { start with names := start.names ++ path.names.drop 1 }
  | _, _ => some path

def top (isAbsolute : Bool) : Path := ⟨isAbsolute, []⟩

def child (path : Path) (name : String) : Path := { path with names := path.names ++ [name] }

def parent (path : Path) : Path := { path with names := path.names.dropLast }

def name (path : Path) : String := path.names.getLast?.getD ""

def isTooLong (name : String) : Bool := 255 < (Utf8.encode name).length

end Path

end LedgerRules
