import LedgerRules.Json.Reader
import LedgerRules.Json.Writer
import LedgerRules.Proofs.Text.Utf8
import Mathlib.Data.List.Basic

/-!
Written strings are read back as they were, those in ASCII and those in which only the required
escapes are made. In ASCII a character outside the basic plane is written as two code units, which
the reader joins again; the closing quote keeps an escape from ending the text, which the reader
would refuse.
-/

namespace LedgerRules

namespace Text

theorem hexValue?_hexDigit : ∀ value < 16, hexValue? (hexDigit value) = some value := by
  decide

theorem hexDigits_four (value : Nat) :
    hexDigits 4 value =
      [hexDigit (value / 4096 % 16), hexDigit (value / 256 % 16), hexDigit (value / 16 % 16),
        hexDigit (value % 16)] := by
  simp [hexDigits, Nat.div_div_eq_div_mul]

theorem printable_of_mem_hexDigits {width value : Nat} {digit : Char}
    (member : digit ∈ hexDigits width value) : 0x20 ≤ digit.toNat := by
  induction width generalizing value with
  | zero => simp [hexDigits] at member
  | succ width ih =>
      simp only [hexDigits, List.mem_append, List.mem_singleton] at member
      rcases member with earlier | rfl
      · exact ih earlier
      · exact (by decide : ∀ value < 16, 0x20 ≤ (hexDigit value).toNat) _
          (Nat.mod_lt _ (by decide))

end Text

namespace Json

theorem readFourHex_hexDigits {value : Nat} (bound : value < 65536) (rest : List Char) :
    readFourHex (Text.hexDigits 4 value ++ rest) = some (value, rest) := by
  rw [Text.hexDigits_four]
  simp only [List.cons_append, List.nil_append, readFourHex]
  rw [Text.hexValue?_hexDigit _ (by omega), Text.hexValue?_hexDigit _ (by omega),
    Text.hexValue?_hexDigit _ (by omega), Text.hexValue?_hexDigit _ (by omega)]
  simp [Text.ofDigitValues]
  omega

theorem readUnicodeEscape_basic (character : Char) (bound : character.toNat < 0x10000)
    (marker : List Char) {rest : List Char} (more : rest ≠ []) :
    readUnicodeEscape marker (Text.hexDigits 4 character.toNat ++ rest) =
      .ok (character, rest) := by
  have range := Text.toNat_scalar character
  have noPair : isHighSurrogate character.toNat = false := by
    simp only [isHighSurrogate, Bool.and_eq_false_iff, decide_eq_false_iff_not]
    omega
  have same : characterOf character.toNat = character := by
    simp only [characterOf]
    rw [if_neg]
    · exact Char.ofNat_toNat character
    · simp only [Bool.and_eq_true, decide_eq_true_eq]
      omega
  simp only [readUnicodeEscape]
  rw [readFourHex_hexDigits (by omega)]
  cases rest with
  | nil => exact absurd rfl more
  | cons next rest => simp [noPair, same]

theorem readUnicodeEscape_surrogates {first second : Nat} (high : isHighSurrogate first = true)
    (low : isLowSurrogate second = true) (marker : List Char) {rest : List Char}
    (more : rest ≠ []) :
    readUnicodeEscape marker
        (Text.hexDigits 4 first ++ '\\' :: 'u' :: (Text.hexDigits 4 second ++ rest)) =
      .ok (Char.ofNat (0x10000 + (first - 0xD800) * 1024 + (second - 0xDC00)), rest) := by
  have firstBound : first < 65536 := by
    simp only [isHighSurrogate, Bool.and_eq_true, decide_eq_true_eq] at high
    omega
  have secondBound : second < 65536 := by
    simp only [isLowSurrogate, Bool.and_eq_true, decide_eq_true_eq] at low
    omega
  have long : ¬ (Text.hexDigits 4 second ++ rest).length ≤ 4 := by
    have := List.length_pos_iff.mpr more
    simp only [Text.hexDigits_four, List.length_append, List.length_cons, List.length_nil]
    omega
  simp only [readUnicodeEscape]
  rw [readFourHex_hexDigits firstBound]
  simp only [high, if_neg long]
  rw [readFourHex_hexDigits secondBound]
  simp only [low, if_true]

theorem surrogates_join {code : Nat} (lower : 0x10000 ≤ code) (upper : code < 0x110000) :
    isHighSurrogate (0xD800 + (code - 0x10000) / 1024) = true ∧
      isLowSurrogate (0xDC00 + (code - 0x10000) % 1024) = true ∧
      0x10000 + (0xD800 + (code - 0x10000) / 1024 - 0xD800) * 1024 +
        (0xDC00 + (code - 0x10000) % 1024 - 0xDC00) = code := by
  refine ⟨?_, ?_, ?_⟩
  · simp only [isHighSurrogate, Bool.and_eq_true, decide_eq_true_eq]
    omega
  · simp only [isLowSurrogate, Bool.and_eq_true, decide_eq_true_eq]
    omega
  · omega

def consRead (character : Char) (result : Attempt (List Char × List Char)) :
    Attempt (List Char × List Char) :=
  result.map fun read => (character :: read.1, read.2)

theorem readStringFrom_simpleEscape {escape character : Char}
    (known : simpleEscape? escape = some character) (marker : escape ≠ 'u')
    (opening : List Char) (steps : Nat) (rest : List Char) :
    readStringFrom opening (steps + 1) ('\\' :: escape :: rest) =
      consRead character (readStringFrom opening steps rest) := by
  simp only [readStringFrom, known]
  cases readStringFrom opening steps rest <;> rfl

theorem readStringFrom_unicodeEscape (character : Char) (opening : List Char) (steps : Nat)
    {rest : List Char} (more : rest ≠ []) :
    readStringFrom opening (steps + 1) (unicodeEscape character ++ rest) =
      consRead character (readStringFrom opening steps rest) := by
  have range := Text.toNat_scalar character
  by_cases basic : character.toNat < 0x10000
  · simp only [unicodeEscape, basic, if_true, List.cons_append, readStringFrom]
    rw [readUnicodeEscape_basic character basic _ more]
    simp only [bind, Except.bind]
    cases readStringFrom opening steps rest <;> rfl
  · obtain ⟨high, low, joined⟩ :=
      surrogates_join (Nat.le_of_not_lt basic) (by omega : character.toNat < 0x110000)
    simp only [unicodeEscape, basic, if_false, List.cons_append, List.append_assoc, readStringFrom]
    rw [readUnicodeEscape_surrogates high low _ more, joined, Char.ofNat_toNat]
    simp only [bind, Except.bind]
    cases readStringFrom opening steps rest <;> rfl

theorem readStringFrom_plain {character : Char} (quote : character ≠ '"')
    (backslash : character ≠ '\\') (printable : 0x20 ≤ character.toNat)
    (opening : List Char) (steps : Nat) (rest : List Char) :
    readStringFrom opening (steps + 1) (character :: rest) =
      consRead character (readStringFrom opening steps rest) := by
  have control : ¬ character.toNat ≤ 0x1F := by omega
  simp only [readStringFrom, beq_iff_eq, quote, backslash, control, if_false]
  cases readStringFrom opening steps rest <;> rfl

theorem requiredEscape?_some {character : Char} {escape : List Char}
    (found : requiredEscape? character = some escape) :
    (∃ letter ∈ ['"', '\\', 'n', 'r', 't', 'b', 'f'],
      simpleEscape? letter = some character ∧ escape = ['\\', letter]) ∨
        escape = unicodeEscape character := by
  simp only [requiredEscape?] at found
  repeat' split at found
  all_goals simp_all [simpleEscape?]
  have basic : character.toNat < 0x10000 := by omega
  simp [unicodeEscape, basic, found]

theorem requiredEscape?_none {character : Char} (plain : requiredEscape? character = none) :
    character ≠ '"' ∧ character ≠ '\\' ∧ 0x20 ≤ character.toNat := by
  simp only [requiredEscape?] at plain
  repeat' split at plain
  all_goals simp_all

/-- The reader gets a character back from the way it is written. -/
def IsReadBack (write : Char → List Char) : Prop :=
  ∀ (character : Char) (opening : List Char) (steps : Nat) (rest : List Char), rest ≠ [] →
    readStringFrom opening (steps + 1) (write character ++ rest) =
      consRead character (readStringFrom opening steps rest)

theorem readStringFrom_requiredEscape {character : Char} {escape : List Char}
    (found : requiredEscape? character = some escape) (opening : List Char) (steps : Nat)
    {rest : List Char} (more : rest ≠ []) :
    readStringFrom opening (steps + 1) (escape ++ rest) =
      consRead character (readStringFrom opening steps rest) := by
  rcases requiredEscape?_some found with ⟨letter, listed, known, rfl⟩ | rfl
  · have marker : letter ≠ 'u' := by
      rintro rfl
      simp at listed
    exact readStringFrom_simpleEscape known marker opening steps rest
  · exact readStringFrom_unicodeEscape character opening steps more

theorem isReadBack_asciiCharacter : IsReadBack asciiCharacter := by
  intro character opening steps rest more
  cases found : requiredEscape? character with
  | some escape =>
      simp only [asciiCharacter, found]
      exact readStringFrom_requiredEscape found opening steps more
  | none =>
      simp only [asciiCharacter, found]
      split
      · obtain ⟨quote, backslash, printable⟩ := requiredEscape?_none found
        exact readStringFrom_plain quote backslash printable opening steps rest
      · exact readStringFrom_unicodeEscape character opening steps more

theorem isReadBack_rawCharacter : IsReadBack rawCharacter := by
  intro character opening steps rest more
  cases found : requiredEscape? character with
  | some escape =>
      simp only [rawCharacter, found, Option.getD_some]
      exact readStringFrom_requiredEscape found opening steps more
  | none =>
      simp only [rawCharacter, found, Option.getD_none]
      obtain ⟨quote, backslash, printable⟩ := requiredEscape?_none found
      exact readStringFrom_plain quote backslash printable opening steps rest

theorem readStringFrom_flatMap {write : Char → List Char} (back : IsReadBack write)
    (opening : List Char) (characters rest : List Char) (steps : Nat)
    (enough : characters.length < steps) :
    readStringFrom opening steps (characters.flatMap write ++ '"' :: rest) =
      .ok (characters, rest) := by
  induction characters generalizing steps with
  | nil =>
      cases steps with
      | zero => omega
      | succ steps => simp [readStringFrom]
  | cons character others ih =>
      cases steps with
      | zero => omega
      | succ steps =>
          simp only [List.length_cons] at enough
          rw [List.flatMap_cons, List.append_assoc, back character opening steps _ (by simp),
            ih steps (by omega)]
          rfl

theorem unicodeEscape_ne_nil (character : Char) : unicodeEscape character ≠ [] := by
  simp only [unicodeEscape]
  split <;> simp

theorem requiredEscape?_ne_nil (character : Char) : requiredEscape? character ≠ some [] := by
  simp only [requiredEscape?]
  repeat' split
  all_goals simp

theorem asciiCharacter_ne_nil (character : Char) : asciiCharacter character ≠ [] := by
  simp only [asciiCharacter]
  split
  · rename_i escape found
    intro empty
    exact requiredEscape?_ne_nil character (by rw [found, empty])
  · split
    · simp
    · exact unicodeEscape_ne_nil character

theorem rawCharacter_ne_nil (character : Char) : rawCharacter character ≠ [] := by
  cases found : requiredEscape? character with
  | some escape =>
      simp only [rawCharacter, found, Option.getD_some]
      intro empty
      exact requiredEscape?_ne_nil character (by rw [found, empty])
  | none => simp [rawCharacter, found]

theorem readString_flatMap {write : Char → List Char} (back : IsReadBack write)
    (filled : ∀ character, write character ≠ []) (text : String) (opening rest : List Char) :
    readString opening (text.toList.flatMap write ++ '"' :: rest) = .ok (text, rest) := by
  have short := Utf8.length_le_flatMap filled text.toList
  simp only [readString]
  rw [readStringFrom_flatMap back]
  · simp [Except.map, String.ofList_toList]
  · simp only [List.length_append, List.length_cons]
    omega

theorem readString_ascii (text : String) (opening rest : List Char) :
    readString opening (text.toList.flatMap asciiCharacter ++ '"' :: rest) = .ok (text, rest) :=
  readString_flatMap isReadBack_asciiCharacter asciiCharacter_ne_nil text opening rest

theorem readString_raw (text : String) (opening rest : List Char) :
    readString opening (text.toList.flatMap rawCharacter ++ '"' :: rest) = .ok (text, rest) :=
  readString_flatMap isReadBack_rawCharacter rawCharacter_ne_nil text opening rest

theorem printable_of_mem_unicodeEscape {character part : Char}
    (member : part ∈ unicodeEscape character) : 0x20 ≤ part.toNat := by
  simp only [unicodeEscape] at member
  split at member
  · simp only [List.mem_cons] at member
    rcases member with rfl | rfl | digit
    · decide
    · decide
    · exact Text.printable_of_mem_hexDigits digit
  · simp only [List.cons_append, List.mem_cons, List.mem_append] at member
    rcases member with rfl | rfl | digit | rfl | rfl | digit
    · decide
    · decide
    · exact Text.printable_of_mem_hexDigits digit
    · decide
    · decide
    · exact Text.printable_of_mem_hexDigits digit

theorem printable_of_mem_requiredEscape? {character part : Char} {escape : List Char}
    (found : requiredEscape? character = some escape) (member : part ∈ escape) :
    0x20 ≤ part.toNat := by
  rcases requiredEscape?_some found with ⟨letter, listed, _, rfl⟩ | rfl
  · rcases List.mem_cons.mp member with rfl | member
    · decide
    · obtain rfl := List.mem_singleton.mp member
      simp only [List.mem_cons, List.not_mem_nil, or_false] at listed
      rcases listed with rfl | rfl | rfl | rfl | rfl | rfl | rfl <;> decide
  · exact printable_of_mem_unicodeEscape member

/-- Written strings hold no control characters, so no line break either. -/
theorem printable_of_mem_asciiCharacter {character part : Char}
    (member : part ∈ asciiCharacter character) : 0x20 ≤ part.toNat := by
  simp only [asciiCharacter] at member
  split at member
  · rename_i found
    exact printable_of_mem_requiredEscape? found member
  · rename_i plain
    split at member
    · obtain ⟨_, _, printable⟩ := requiredEscape?_none plain
      rw [List.mem_singleton.mp member]
      exact printable
    · exact printable_of_mem_unicodeEscape member

end Json

end LedgerRules
