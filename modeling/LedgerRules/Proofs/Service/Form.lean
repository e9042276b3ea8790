import LedgerRules.Proofs.Service.FirstPage
import LedgerRules.Proofs.Text.Utf8
import LedgerRules.Proofs.Json.AsciiString

/-!
Reading the query of a URL as a form, as its receiver does. What has been encoded is read back,
whatever the texts hold: the marks of the form itself are encoded as well.
-/

namespace LedgerRules

/-- What stands between the question mark of a URL and its fragment. -/
def Url.queryOf (url : List Char) : List Char :=
  (Text.splitOnce '?' (Text.splitOnce '#' url).1).2.getD []

namespace Form

/-- A plus sign is a space, and a percent sign before two hexadecimal digits is the byte that they
write. -/
def bytes : List Char → Bytes
  | [] => []
  | '%' :: first :: second :: rest =>
      match Text.hexValue? first, Text.hexValue? second with
      | some high, some low => UInt8.ofNat (16 * high + low) :: bytes rest
      | _, _ => 0x25 :: bytes (first :: second :: rest)
  | character :: rest =>
      (if character = '+' then [0x20] else Utf8.encodeCharacter character) ++ bytes rest

def text (part : List Char) : String := Utf8.decodeLenient (bytes part)

/-- The name stands before the first equals sign. -/
def parameter (part : List Char) : String × String :=
  let (name, value?) := Text.splitOnce '=' part
  (text name, text (value?.getD []))

def parameters (query : List Char) : List (String × String) :=
  ((Text.splitAt '&' query).filter fun part => !part.isEmpty).map parameter

theorem bytes_cons {character : Char} (unmarked : character ≠ '%') (rest : List Char) :
    bytes (character :: rest) =
      (if character = '+' then [0x20] else Utf8.encodeCharacter character) ++ bytes rest := by
  rw [bytes]
  rintro first second others rfl
  exact absurd rfl unmarked

theorem bytes_percent {first second : Char} {high low : Nat}
    (readHigh : Text.hexValue? first = some high) (readLow : Text.hexValue? second = some low)
    (rest : List Char) :
    bytes ('%' :: first :: second :: rest) = UInt8.ofNat (16 * high + low) :: bytes rest := by
  rw [bytes]
  simp only [readHigh, readLow]

theorem hexValue?_upper : ∀ value < 16,
    Text.hexValue? (Text.hexDigit value).toUpper = some value := by
  decide

def plainMarks : List Char := ['_', '.', '-', '~']

theorem plain_character {byte : UInt8} (plain : Url.isPlainByte byte) :
    (Char.ofNat byte.toNat).isAlphanum ∨ Char.ofNat byte.toNat ∈ plainMarks := by
  simp only [Url.isPlainByte, Bool.and_eq_true, Bool.or_eq_true, beq_iff_eq] at plain
  rcases plain.2 with (((word | mark) | mark) | mark) | mark
  · exact .inl word
  all_goals
    rw [mark]
    exact .inr (by decide)

theorem encodeByte_eq (byte : UInt8) :
    Url.isPlainByte byte ∧ Url.encodeByte byte = [Char.ofNat byte.toNat] ∨
    byte = 0x20 ∧ Url.encodeByte byte = ['+'] ∨
    Url.encodeByte byte = ['%', (Text.hexDigit (byte.toNat / 16 % 16)).toUpper,
      (Text.hexDigit (byte.toNat % 16)).toUpper] := by
  by_cases plain : Url.isPlainByte byte = true
  · exact .inl ⟨plain, by rw [Url.encodeByte, if_pos plain]⟩
  · by_cases space : byte = 0x20
    · refine .inr (.inl ⟨space, ?_⟩)
      rw [Url.encodeByte, if_neg plain, if_pos (by simpa using space)]
    · refine .inr (.inr ?_)
      rw [Url.encodeByte, if_neg plain, if_neg (by simpa using space)]
      rfl

/-- Only letters, digits and certain marks are written; neither those that part a form are. -/
theorem not_mem_encodeText {mark : Char} (symbol : ¬mark.isAlphanum)
    (other : mark ∉ '+' :: '%' :: plainMarks) (text : String) : mark ∉ Url.encodeText text := by
  intro member
  obtain ⟨byte, _, inside⟩ := List.mem_flatMap.mp member
  have digit : ∀ value < 16, (Text.hexDigit value).toUpper.isAlphanum := by decide
  have differs {value : Nat} (bound : value < 16) : mark ≠ (Text.hexDigit value).toUpper := by
    rintro rfl
    exact symbol (digit value bound)
  simp only [List.mem_cons, not_or] at other
  rcases encodeByte_eq byte with ⟨plain, written⟩ | ⟨_, written⟩ | written
  · rw [written, List.mem_singleton] at inside
    rw [inside] at symbol other
    exact (plain_character plain).elim symbol other.2.2
  · rw [written, List.mem_singleton] at inside
    exact other.1 inside
  · rw [written] at inside
    simp only [List.mem_cons, List.not_mem_nil, or_false] at inside
    rcases inside with percent | high | low
    · exact other.2.1 percent
    · exact differs (Nat.mod_lt _ (by decide)) high
    · exact differs (Nat.mod_lt _ (by decide)) low

theorem encodeCharacter_plain {byte : UInt8} (plain : Url.isPlainByte byte) :
    Utf8.encodeCharacter (Char.ofNat byte.toNat) = [byte] := by
  have small : byte.toNat < 0x80 := by
    simp only [Url.isPlainByte, Bool.and_eq_true, decide_eq_true_eq] at plain
    exact plain.1
  have code : (Char.ofNat byte.toNat).toNat = byte.toNat := by
    rw [Char.toNat_ofNat, if_pos (.inl (by omega))]
  simp only [Utf8.encodeCharacter, code, if_pos small, UInt8.ofNat_toNat]

theorem bytes_encodeByte (byte : UInt8) (rest : List Char) :
    bytes (Url.encodeByte byte ++ rest) = byte :: bytes rest := by
  rcases encodeByte_eq byte with ⟨plain, written⟩ | ⟨rfl, written⟩ | written
  · have differs {mark : Char} (symbol : ¬mark.isAlphanum) (other : mark ∉ plainMarks) :
        Char.ofNat byte.toNat ≠ mark := by
      rintro rfl
      exact (plain_character plain).elim symbol other
    rw [written, List.singleton_append, bytes_cons (differs (by decide) (by decide)),
      if_neg (differs (by decide) (by decide)), encodeCharacter_plain plain, List.singleton_append]
  · rw [written, List.singleton_append, bytes_cons (by decide), if_pos rfl, List.singleton_append]
  · have bound : byte.toNat < 256 := byte.toNat_lt
    have whole : 16 * (byte.toNat / 16 % 16) + byte.toNat % 16 = byte.toNat := by omega
    rw [written]
    simp only [List.cons_append, List.nil_append]
    rw [bytes_percent (hexValue?_upper _ (Nat.mod_lt _ (by decide)))
      (hexValue?_upper _ (Nat.mod_lt _ (by decide))), whole, UInt8.ofNat_toNat]

theorem text_encodeText (content : String) : text (Url.encodeText content) = content := by
  have each (content : Bytes) : bytes (content.flatMap Url.encodeByte) = content := by
    induction content with
    | nil => rfl
    | cons byte rest ih => rw [List.flatMap_cons, bytes_encodeByte, ih]
  rw [text, Url.encodeText, each, Utf8.decodeLenient_encode]

theorem parameter_encodeParameter (given : String × String) :
    parameter (Url.encodeParameter given) = given := by
  have absent : '=' ∉ Url.encodeText given.1 := not_mem_encodeText (by decide) (by decide) given.1
  have separated := Text.splitOnce_separated absent (Url.encodeText given.2)
  simp only [parameter, Url.encodeParameter, separated, Option.getD_some, text_encodeText]

/-- A form that has been encoded is read back. -/
theorem parameters_encodeParameters (given : List (String × String)) :
    parameters (Url.encodeParameters given).toList = given := by
  by_cases filled : given = []
  · subst given
    rfl
  have unmarked : ∀ part ∈ given.map Url.encodeParameter, '&' ∉ part := by
    intro part member
    obtain ⟨one, _, rfl⟩ := List.mem_map.mp member
    have absent : ∀ text, '&' ∉ Url.encodeText text :=
      not_mem_encodeText (by decide) (by decide)
    rw [Url.encodeParameter, List.mem_append, List.mem_cons]
    rintro (name | sign | value)
    · exact absent _ name
    · exact absurd sign (by decide)
    · exact absent _ value
  have kept : (given.map Url.encodeParameter).filter (fun part => !part.isEmpty) =
      given.map Url.encodeParameter := by
    rw [List.filter_eq_self]
    intro part member
    obtain ⟨one, _, rfl⟩ := List.mem_map.mp member
    simp [Url.encodeParameter]
  rw [parameters, Url.encodeParameters, String.toList_ofList,
    Text.splitAt_intercalate (by simpa using filled) unmarked, kept, List.map_map]
  simp [Function.comp_def, parameter_encodeParameter]

example : parameters "since=2024-04-01T00%3A00%3A00%2B00%3A00&note=&q=a+b%26c".toList =
    [("since", "2024-04-01T00:00:00+00:00"), ("note", ""), ("q", "a b&c")] := by
  decide +kernel

end Form

end LedgerRules
