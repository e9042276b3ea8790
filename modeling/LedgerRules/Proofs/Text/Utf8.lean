import LedgerRules.Text.Utf8
import Mathlib.Data.List.Basic

/-!
Every text survives being written as UTF-8 and read again. The bytes of a character announce their
own number, so that reading goes past exactly these bytes and then past those of the next one.
-/

namespace LedgerRules

theorem Text.toNat_scalar (character : Char) :
    character.toNat < 0xD800 ∨ 0xDFFF < character.toNat ∧ character.toNat < 0x110000 := by
  have valid := character.valid
  simp only [UInt32.isValidChar, Nat.isValidChar] at valid
  exact valid

namespace Utf8

theorem toNat_ofNat (code : Nat) (bound : code < 256) : (UInt8.ofNat code).toNat = code := by
  simp only [UInt8.toNat_ofNat']
  omega

@[simp] theorem toNat_continuation (bits : Nat) :
    (UInt8.ofNat (0x80 + bits % 64)).toNat = 0x80 + bits % 64 := toNat_ofNat _ (by omega)

@[simp] theorem isContinuation_continuation (bits : Nat) :
    isContinuation (UInt8.ofNat (0x80 + bits % 64)) = true := by
  simp only [isContinuation, toNat_continuation, Bool.and_eq_true, decide_eq_true_eq]
  omega

def Announces (first count second : Nat) : Prop :=
  ∃ low high, followers? first = some (count, low, high) ∧ low ≤ second ∧ second ≤ high

theorem announces_two {code : Nat} (lower : 0x80 ≤ code) (upper : code < 0x800) :
    Announces (0xC0 + code / 64) 1 (0x80 + code % 64) := by
  refine ⟨0x80, 0xBF, ?_, by omega, by omega⟩
  simp only [followers?]
  rw [if_pos]
  simp only [Bool.and_eq_true, decide_eq_true_eq]
  omega

theorem announces_three {code : Nat} (lower : 0x800 ≤ code) (upper : code < 0x10000)
    (scalar : code < 0xD800 ∨ 0xDFFF < code) :
    Announces (0xE0 + code / 4096) 2 (0x80 + code / 64 % 64) := by
  simp only [Announces, followers?, Bool.and_eq_true, decide_eq_true_eq, beq_iff_eq]
  rw [if_neg (by omega)]
  by_cases least : 0xE0 + code / 4096 = 0xE0
  · exact ⟨0xA0, 0xBF, by rw [if_pos least], by omega, by omega⟩
  by_cases surrogate : 0xE0 + code / 4096 = 0xED
  · exact ⟨0x80, 0x9F, by rw [if_neg least, if_pos surrogate], by omega, by omega⟩
  · refine ⟨0x80, 0xBF, ?_, by omega, by omega⟩
    rw [if_neg least, if_neg surrogate, if_pos (by omega)]

theorem announces_four {code : Nat} (lower : 0x10000 ≤ code) (upper : code < 0x110000) :
    Announces (0xF0 + code / 262144) 3 (0x80 + code / 4096 % 64) := by
  simp only [Announces, followers?, Bool.and_eq_true, decide_eq_true_eq, beq_iff_eq]
  rw [if_neg (by omega), if_neg (by omega), if_neg (by omega), if_neg (by omega)]
  by_cases least : 0xF0 + code / 262144 = 0xF0
  · exact ⟨0x90, 0xBF, by rw [if_pos least], by omega, by omega⟩
  by_cases greatest : 0xF0 + code / 262144 = 0xF4
  · exact ⟨0x80, 0x8F, by rw [if_neg least, if_pos greatest], by omega, by omega⟩
  · refine ⟨0x80, 0xBF, ?_, by omega, by omega⟩
    rw [if_neg least, if_neg greatest, if_pos (by omega)]

theorem decodeCharacter_announced {first second : UInt8} (count : Nat)
    (several : 0x80 ≤ first.toNat) (announced : Announces first.toNat count second.toNat)
    (rest : Bytes) :
    decodeCharacter first (second :: rest) =
      (readContinuations (count - 1) 2
        (first.toNat % (if count = 1 then 32 else if count = 2 then 16 else 8) * 64 +
          (second.toNat - 0x80)) rest).map fun read => (Char.ofNat read.1, read.2) := by
  obtain ⟨low, high, follows, above, below⟩ := announced
  simp only [decodeCharacter]
  rw [if_neg (by omega)]
  simp only [follows]
  rw [if_neg]
  simp only [Bool.or_eq_true, decide_eq_true_eq]
  omega

theorem decodeFrom_encodeCharacter (character : Char) (steps position : Nat) (rest : Bytes) :
    decodeFrom (steps + 1) position (encodeCharacter character ++ rest) =
      (decodeFrom steps (position + (encodeCharacter character).length) rest).map
        (character :: ·) := by
  suffices decoded : ∃ first others, encodeCharacter character = first :: others ∧
      decodeCharacter first (others ++ rest) = .ok (character, rest) by
    obtain ⟨first, others, encoded, read⟩ := decoded
    rw [encoded, List.cons_append, decodeFrom]
    simp only [read, encoded]
  have range := Text.toNat_scalar character
  by_cases one : character.toNat < 0x80
  · have first : (UInt8.ofNat character.toNat).toNat = character.toNat := toNat_ofNat _ (by omega)
    refine ⟨UInt8.ofNat character.toNat, [], by simp only [encodeCharacter, one, if_true], ?_⟩
    simp only [decodeCharacter, first, one, if_true, Char.ofNat_toNat, List.nil_append]
  by_cases two : character.toNat < 0x800
  · have first := toNat_ofNat (0xC0 + character.toNat / 64) (by omega)
    have whole : (0xC0 + character.toNat / 64) % 32 * 64 + (0x80 + character.toNat % 64 - 0x80) =
        character.toNat := by omega
    refine ⟨UInt8.ofNat (0xC0 + character.toNat / 64), _,
      by simp only [encodeCharacter, one, two, if_true, if_false]; rfl, ?_⟩
    rw [List.singleton_append, decodeCharacter_announced 1 (by omega)
      (by simpa only [first, toNat_continuation] using announces_two (by omega) two)]
    simp only [first, toNat_continuation, if_true, Nat.sub_self, readContinuations, whole,
      Except.map, Char.ofNat_toNat]
  by_cases three : character.toNat < 0x10000
  · have first := toNat_ofNat (0xE0 + character.toNat / 4096) (by omega)
    have whole : ((0xE0 + character.toNat / 4096) % 16 * 64 +
        (0x80 + character.toNat / 64 % 64 - 0x80)) * 64 + (0x80 + character.toNat % 64 - 0x80) =
        character.toNat := by omega
    refine ⟨UInt8.ofNat (0xE0 + character.toNat / 4096), _,
      by simp only [encodeCharacter, one, two, three, if_true, if_false]; rfl, ?_⟩
    rw [List.cons_append, List.singleton_append, decodeCharacter_announced 2 (by omega)
      (by
        simpa only [first, toNat_continuation] using
          announces_three (by omega) three (by omega))]
    simp only [first, toNat_continuation, Nat.reduceEqDiff, if_true, if_false,
      Nat.add_one_sub_one, readContinuations, isContinuation_continuation, whole, Except.map,
      Char.ofNat_toNat]
  · have first := toNat_ofNat (0xF0 + character.toNat / 262144) (by omega)
    have whole : (((0xF0 + character.toNat / 262144) % 8 * 64 +
        (0x80 + character.toNat / 4096 % 64 - 0x80)) * 64 +
        (0x80 + character.toNat / 64 % 64 - 0x80)) * 64 + (0x80 + character.toNat % 64 - 0x80) =
        character.toNat := by omega
    refine ⟨UInt8.ofNat (0xF0 + character.toNat / 262144), _,
      by simp only [encodeCharacter, one, two, three, if_false]; rfl, ?_⟩
    rw [List.cons_append, List.cons_append, List.singleton_append,
      decodeCharacter_announced 3 (by omega)
      (by
        simpa only [first, toNat_continuation] using announces_four (by omega) (by omega))]
    simp only [first, toNat_continuation, Nat.reduceEqDiff, if_true, if_false,
      Nat.add_one_sub_one, readContinuations, isContinuation_continuation, whole, Except.map,
      Char.ofNat_toNat]

theorem encodeCharacter_ne_nil (character : Char) : encodeCharacter character ≠ [] := by
  simp only [encodeCharacter]
  repeat' split
  all_goals simp

theorem decodeFrom_encode (characters : List Char) (steps position : Nat)
    (enough : characters.length ≤ steps) :
    decodeFrom steps position (characters.flatMap encodeCharacter) = .ok characters := by
  induction characters generalizing steps position with
  | nil => simp [decodeFrom]
  | cons character others ih =>
      cases steps with
      | zero => simp at enough
      | succ steps =>
          rw [List.flatMap_cons, decodeFrom_encodeCharacter,
            ih steps _ (by simpa using enough)]
          rfl

theorem length_le_flatMap {β : Type} {code : Char → List β}
    (coded : ∀ character, code character ≠ []) (characters : List Char) :
    characters.length ≤ (characters.flatMap code).length := by
  induction characters with
  | nil => simp
  | cons character others ih =>
      have := List.length_pos_iff.mpr (coded character)
      simp only [List.flatMap_cons, List.length_append, List.length_cons]
      omega

theorem decode?_encode (text : String) : decode? (encode text) = .ok text := by
  simp only [decode?, encode]
  rw [decodeFrom_encode text.toList _ 0 (length_le_flatMap encodeCharacter_ne_nil text.toList)]
  simp [Except.map, String.ofList_toList]

/-- What is decoded without a fault is decoded in the same way if faults are allowed. -/
theorem decodeLenientFrom_of_decodeFrom {steps position : Nat} {bytes : Bytes}
    {characters : List Char} (decoded : decodeFrom steps position bytes = .ok characters) :
    decodeLenientFrom steps bytes = characters := by
  induction steps generalizing position bytes characters with
  | zero => cases bytes <;> simpa [decodeFrom, decodeLenientFrom] using decoded
  | succ steps ih =>
      cases bytes with
      | nil => simpa [decodeFrom, decodeLenientFrom] using decoded
      | cons first rest =>
          rw [decodeFrom] at decoded
          rw [decodeLenientFrom]
          cases read : decodeCharacter first rest with
          | error fault => simp [read] at decoded
          | ok result =>
              obtain ⟨character, remaining⟩ := result
              simp only [read] at decoded ⊢
              generalize later : decodeFrom steps _ remaining = others at decoded
              cases others with
              | error fault => cases decoded
              | ok others =>
                  obtain rfl := Except.ok.inj decoded
                  rw [ih later]

theorem decodeLenient_encode (text : String) : decodeLenient (encode text) = text := by
  have decoded : decodeFrom (encode text).length 0 (encode text) = .ok text.toList :=
    decodeFrom_encode text.toList _ 0 (length_le_flatMap encodeCharacter_ne_nil text.toList)
  rw [decodeLenient, decodeLenientFrom_of_decodeFrom decoded, String.ofList_toList]

end Utf8

end LedgerRules
