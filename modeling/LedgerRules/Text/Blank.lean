/-!
Blank characters: the separators and the control characters that count as white space.
-/

namespace LedgerRules.Text

def isBlank (character : Char) : Bool :=
  let code := character.toNat
  (0x09 ≤ code && code ≤ 0x0D) || (0x1C ≤ code && code ≤ 0x20) || code == 0x85 || code == 0xA0 ||
    code == 0x1680 || (0x2000 ≤ code && code ≤ 0x200A) || code == 0x2028 || code == 0x2029 ||
    code == 0x202F || code == 0x205F || code == 0x3000

def dropBlanks (characters : List Char) : List Char := characters.dropWhile isBlank

def trimBlanks (characters : List Char) : List Char :=
  (dropBlanks (dropBlanks characters).reverse).reverse

def trim (text : String) : String := String.ofList (trimBlanks text.toList)

def isBlankText (text : String) : Bool := text.toList.all isBlank

end LedgerRules.Text
