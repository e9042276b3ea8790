import LedgerRules.Service.Url
import LedgerRules.Text.Blank

/-!
What carries the requests. It does not send what it takes for no proper URL, and it decides which
answers are a success.
-/

namespace LedgerRules

namespace Url

def unwrapped (characters : List Char) : List Char :=
  let trimmed := Text.trimBlanks characters
  let bare :=
    match trimmed with
    | '<' :: rest =>
        if rest.getLast? == some '>' then Text.trimBlanks rest.dropLast else trimmed
    | _ => trimmed
  match bare with
  | 'U' :: 'R' :: 'L' :: ':' :: rest => Text.trimBlanks rest
  | _ => bare

def splitFragment (characters : List Char) : List Char × List Char :=
  match characters.reverse.dropWhile (· != '#') with
  | _ :: before => (before.reverse, (characters.reverse.takeWhile (· != '#')).reverse)
  | [] => (characters, [])

/-- What is sent to the host of a URL: all that stands behind it, but for the fragment, which is
what follows the last mark of one. -/
def selector (url : String) : List Char :=
  let (located, _) := splitFragment (unwrapped url.toList)
  let path :=
    match (located.dropWhile (· != ':')).drop 1 with
    | '/' :: '/' :: rest => rest.dropWhile (!isPathEnd ·)
    | rest => rest
  if path.head? == some '/' then path else '/' :: path

def isVisible (character : Char) : Bool := 0x20 < character.toNat && character.toNat < 0x7F

/-- Neither blanks nor control characters nor characters beyond ASCII have to be sent. -/
def IsSendable (url : String) : Prop := ∀ character ∈ selector url, isVisible character

instance (url : String) : Decidable (IsSendable url) :=
  List.decidableBAll (isVisible ·) (selector url)

end Url

inductive SelectorFault where
  | controlCharacter (selector : String) (character : Char)
  | encoding (start : Nat) (characters : List Char)
  deriving DecidableEq, Repr

def SelectorFault.message : SelectorFault → String
  | .controlCharacter selector character =>
      "URL can't contain control characters. " ++ Text.quoted selector ++ " (found at least " ++
        Text.quoted (String.singleton character) ++ ")"
  | .encoding start [character] =>
      "'ascii' codec can't encode character '" ++
        String.ofList (Text.numericEscape character.toNat) ++ "' in position " ++ toString start ++
        ": ordinal not in range(128)"
  | .encoding start characters =>
      "'ascii' codec can't encode characters in position " ++ toString start ++ "-" ++
        toString (start + characters.length - 1) ++ ": ordinal not in range(128)"

structure Transport where
  refusal? : (method : String) → (url : String) → Option SelectorFault
  isSuccess : (status : Int) → Bool
  carries : ∀ method url, Url.IsSendable url → refusal? method url = none
  succeeds : ∀ status, 200 ≤ status ∧ status < 300 → isSuccess status = true

namespace Transport

def isControl (character : Char) : Bool := character.toNat ≤ 0x20 || character.toNat == 0x7F

def isAscii (character : Char) : Bool := character.toNat < 0x80

/-- The line that begins a request holds the method and a blank before the selector. -/
def selectorFault? (method url : String) : Option SelectorFault :=
  let selector := Url.selector url
  match selector.find? isControl with
  | some character => some (.controlCharacter (String.ofList selector) character)
  | none =>
      (selector.findIdx? (!isAscii ·)).map fun place =>
        .encoding (method.length + 1 + place) ((selector.drop place).takeWhile (!isAscii ·))

theorem isVisible_iff {character : Char} :
    Url.isVisible character ↔ isControl character = false ∧ isAscii character := by
  simp only [Url.isVisible, isControl, isAscii, Bool.and_eq_true, decide_eq_true_eq,
    Bool.or_eq_false_iff, decide_eq_false_iff_not, beq_eq_false_iff_ne]
  omega

theorem selectorFault?_eq_none {method url : String} :
    selectorFault? method url = none ↔ Url.IsSendable url := by
  simp only [selectorFault?, Url.IsSendable, isVisible_iff]
  cases found : (Url.selector url).find? isControl with
  | some character =>
      refine iff_of_false nofun fun sendable => ?_
      have free := (sendable character (List.mem_of_find?_eq_some found)).1
      rw [List.find?_some found] at free
      cases free
  | none =>
      have free : ∀ character ∈ Url.selector url, isControl character = false := by
        simpa using found
      simp only [Option.map_eq_none_iff, List.findIdx?_eq_none_iff, Bool.not_eq_false']
      exact ⟨fun ascii character member => ⟨free character member, ascii character member⟩,
        fun sendable character member => (sendable character member).2⟩

/-- The client of the web. It checks the line that it would send. -/
def http : Transport where
  refusal? := selectorFault?
  isSuccess status := 200 ≤ status && status < 300
  carries _ _ := selectorFault?_eq_none.mpr
  succeeds status success := by simpa using success

theorem http_refusal?_eq_none {method url : String} :
    http.refusal? method url = none ↔ Url.IsSendable url := by
  simp only [http, selectorFault?_eq_none]

end Transport

end LedgerRules
