import LedgerRules.Document.Basic
import LedgerRules.Files.Path
import LedgerRules.Json.Writer

/-!
The machine that a program runs on, as far as it decides what the program does: the names of
characters, the home directories, and the size of the stack.
-/

namespace LedgerRules

/-- What is nested, so that the stack may be too small for it: a text to be read, or a value to be
written. -/
inductive Nested where
  | pattern (text : String)
  | yaml (text : String)
  | json (content : Bytes)
  | document (document : Document)
  | entry (record : Json)
  | value (value : Json)

/-- The text of an object whose fields are texts or null. -/
def flatText (fields : List (String × Option String)) : String :=
  (Json.object (fields.map fun field => (field.1, Json.ofOption .string field.2))).indentedText 0

structure Platform where
  characterNamed? : (name : String) → Option Nat
  /-- The home directory of a user, and without a name of the one who runs the program. -/
  home? : (user : String) → Option String
  exhausts : Nested → Bool
  /-- Any stack is large enough for what is flat. -/
  reads_flatText : ∀ fields, exhausts (.json (Utf8.encode (flatText fields))) = false

namespace Platform

def stackExceeded : String := "maximum recursion depth exceeded"

def homeMissing : String := "Could not determine home directory."

/-- It knows no names and no homes, and its stack is never too small. -/
def plain : Platform where
  characterNamed? _ := none
  home? _ := none
  exhausts _ := false
  reads_flatText _ := rfl

def path? (platform : Platform) (text : String) : Option Path :=
  (Path.ofText text).expand? platform.home?

end Platform

end LedgerRules
