import LedgerRules.Yaml.Tag

/-!
What kind of value a plain scalar writes: nothing, a truth value, a number in one of several
notations, a time, or else text.
-/

namespace LedgerRules.Yaml.Plain

/-- A form that the rest of a text can have: it is removed, or the text does not begin with it. -/
abbrev Form := List Char → Option (List Char)

def isDigitOrLine (character : Char) : Bool := character.isDigit || character == '_'

def isOctalOrLine (character : Char) : Bool :=
  ('0' ≤ character && character ≤ '7') || character == '_'

def isBinaryOrLine (character : Char) : Bool :=
  character == '0' || character == '1' || character == '_'

def isHexOrLine (character : Char) : Bool :=
  (Text.hexValue? character).isSome || character == '_'

def one (isWanted : Char → Bool) : Form
  | character :: rest => if isWanted character then some rest else none
  | [] => none

def many (isWanted : Char → Bool) : Form := fun characters => some (characters.dropWhile isWanted)

def some1 (isWanted : Char → Bool) : Form := fun characters =>
  (one isWanted characters).bind (many isWanted)

def optional (form : Form) : Form := fun characters => some ((form characters).getD characters)

def both (first second : Form) : Form := fun characters => (first characters).bind second

def sign : Form := optional (one fun character => character == '+' || character == '-')

def word (expected : String) : Form := fun characters =>
  if expected.toList.isPrefixOf characters then some (characters.drop expected.length) else none

def matchesWhole (form : Form) (characters : List Char) : Bool :=
  match form characters with
  | some [] => true
  | some ['\n'] => true
  | _ => false

def digitsFrom (isLeading : Char → Bool) : Form := both (one isLeading) (many isDigitOrLine)

def sexagesimalPart : Form := fun characters =>
  match characters with
  | ':' :: first :: second :: rest =>
      if '0' ≤ first && first ≤ '5' && second.isDigit then some rest
      else if first.isDigit then some (second :: rest)
      else none
  | [':', first] => if first.isDigit then some [] else none
  | _ => none

def sexagesimalParts : (steps : Nat) → Form
  | 0, characters => some characters
  | steps + 1, characters =>
      match sexagesimalPart characters with
      | some rest => sexagesimalParts steps rest
      | none => some characters

def sexagesimalTail : Form := fun characters =>
  (sexagesimalPart characters).bind fun rest => sexagesimalParts rest.length rest

def isBool (characters : List Char) : Bool :=
  ["yes", "no", "true", "false", "on", "off"].any fun name =>
    let capitalized :=
      match name.toList with
      | first :: rest => first.toUpper :: rest
      | [] => []
    [name.toList, capitalized, name.toList.map Char.toUpper].any fun spelling =>
      spelling == characters || spelling ++ ['\n'] == characters

def isNull (characters : List Char) : Bool :=
  characters.isEmpty ||
    ["~", "null", "Null", "NULL"].any fun name => matchesWhole (word name) characters

def exponent : Form :=
  optional (both (one fun mark => mark == 'e' || mark == 'E')
    (both (one fun sign => sign == '+' || sign == '-') (some1 Char.isDigit)))

def isFloat (characters : List Char) : Bool :=
  let point := one (· == '.')
  let pointed := both (digitsFrom Char.isDigit) (both point (both (many isDigitOrLine) exponent))
  let fraction := both point (both (digitsFrom Char.isDigit) exponent)
  let sexagesimal :=
    both (digitsFrom Char.isDigit) (both sexagesimalTail (both point (many isDigitOrLine)))
  matchesWhole (both sign pointed) characters || matchesWhole fraction characters ||
    matchesWhole (both sign sexagesimal) characters ||
    [".inf", ".Inf", ".INF"].any (fun name => matchesWhole (both sign (word name)) characters) ||
    [".nan", ".NaN", ".NAN"].any (fun name => matchesWhole (word name) characters)

def isInteger (characters : List Char) : Bool :=
  let isLeading (character : Char) : Bool := character.isDigit && character != '0'
  let forms : List Form :=
    [both (word "0b") (some1 isBinaryOrLine), both (word "0") (some1 isOctalOrLine), word "0",
      digitsFrom isLeading, both (word "0x") (some1 isHexOrLine),
      both (digitsFrom isLeading) sexagesimalTail]
  forms.any fun form => matchesWhole (both sign form) characters

def digits : (count : Nat) → Form
  | 0 => some
  | count + 1 => both (one Char.isDigit) (digits count)

def oneOrTwoDigits : Form := both (one Char.isDigit) (optional (one Char.isDigit))

def hyphen : Form := one (· == '-')

def isTimeBlank (character : Char) : Bool := character == ' ' || character == '\t'

def timeSeparator : Form := fun characters =>
  match one (fun mark => mark == 'T' || mark == 't') characters with
  | some rest => some rest
  | none => some1 isTimeBlank characters

def zone : Form := fun characters =>
  match one (· == 'Z') characters with
  | some rest => some rest
  | none =>
      both (one fun mark => mark == '+' || mark == '-')
        (both oneOrTwoDigits (optional (both (one (· == ':')) (digits 2)))) characters

def timeOfDay : Form :=
  both oneOrTwoDigits
    (both (one (· == ':'))
      (both (digits 2)
        (both (one (· == ':'))
          (both (digits 2)
            (both (optional (both (one (· == '.')) (many Char.isDigit)))
              (optional (both (many isTimeBlank) zone)))))))

/-- A date with two digits for the month and the day, or a date with a time. -/
def isTimestamp (characters : List Char) : Bool :=
  let date := both (digits 4) (both hyphen (both (digits 2) (both hyphen (digits 2))))
  let looseDate :=
    both (digits 4) (both hyphen (both oneOrTwoDigits (both hyphen oneOrTwoDigits)))
  matchesWhole date characters ||
    matchesWhole (both looseDate (both timeSeparator timeOfDay)) characters

def isMark (characters : List Char) : Bool :=
  ["!", "&", "*"].any fun name => matchesWhole (word name) characters

def tag (text : String) : Tag :=
  let characters := text.toList
  if isBool characters then .bool
  else if isFloat characters then .float
  else if isInteger characters then .integer
  else if matchesWhole (word "<<") characters then .merge
  else if isNull characters then .null
  else if isTimestamp characters then .timestamp
  else if matchesWhole (word "=") characters then .value
  else if isMark characters then .unknown
  else .text

end LedgerRules.Yaml.Plain
