import LedgerRules.Proofs.Text.Utf8

/-!
One segment of a path as a text. A percent sign before two hexadecimal digits is the byte that they
write, and every other character stands for itself. So a segment is at least as long as the text
that it writes, and as long only if it is that text.
-/

namespace LedgerRules

namespace Utf8

/-- How many characters begin in a sequence of bytes. -/
def beginnings (bytes : Bytes) : Nat := bytes.countP fun byte => !isContinuation byte

theorem beginnings_append (left right : Bytes) :
    beginnings (left ++ right) = beginnings left + beginnings right :=
  List.countP_append

theorem beginnings_cons {code : Nat} (bound : code < 256) (begins : code < 0x80 ∨ 0xBF < code)
    {others : Bytes} (continued : ∀ byte ∈ others, isContinuation byte = true) :
    beginnings (UInt8.ofNat code :: others) = 1 := by
  have first : isContinuation (UInt8.ofNat code) = false := by
    simp only [isContinuation, toNat_ofNat code bound, Bool.and_eq_false_iff,
      decide_eq_false_iff_not]
    omega
  have nothing : others.countP (fun byte => !isContinuation byte) = 0 :=
    List.countP_eq_zero.mpr fun byte member => by simp [continued byte member]
  rw [beginnings, List.countP_cons_of_pos (by simp [first]), nothing]

theorem beginnings_encodeCharacter (character : Char) :
    beginnings (encodeCharacter character) = 1 := by
  have range := Text.toNat_scalar character
  have one {bits : Nat} {others : Bytes}
      (continued : ∀ byte ∈ others, isContinuation byte = true) :
      ∀ byte ∈ UInt8.ofNat (0x80 + bits % 64) :: others, isContinuation byte = true :=
    List.forall_mem_cons.mpr ⟨isContinuation_continuation bits, continued⟩
  have none := List.forall_mem_nil fun byte => isContinuation byte = true
  simp only [encodeCharacter]
  split
  · exact beginnings_cons (by omega) (by omega) none
  · split
    · exact beginnings_cons (by omega) (by omega) (one none)
    · split
      · exact beginnings_cons (by omega) (by omega) (one (one none))
      · exact beginnings_cons (by omega) (by omega) (one (one (one none)))

theorem beginnings_flatMap (characters : List Char) :
    beginnings (characters.flatMap encodeCharacter) = characters.length := by
  induction characters with
  | nil => rfl
  | cons character rest ih =>
      rw [List.flatMap_cons, beginnings_append, beginnings_encodeCharacter, ih, List.length_cons,
        Nat.add_comm]

theorem encode_injective {left right : String} (same : encode left = encode right) :
    left = right := by
  have read := decode?_encode left
  rw [same, decode?_encode right] at read
  exact (Except.ok.inj read).symm

end Utf8

namespace Segment

open Text (hexValue?)

def bytes : List Char → Bytes
  | [] => []
  | '%' :: first :: second :: rest =>
      match hexValue? first, hexValue? second with
      | some high, some low => UInt8.ofNat (16 * high + low) :: bytes rest
      | _, _ => 0x25 :: bytes (first :: second :: rest)
  | character :: rest => Utf8.encodeCharacter character ++ bytes rest

/-- Somewhere two hexadecimal digits stand behind a percent sign. -/
def HasEscape (text : List Char) : Prop :=
  ∃ before first second after, text = before ++ '%' :: first :: second :: after ∧
    (hexValue? first).isSome ∧ (hexValue? second).isSome

theorem not_hasEscape_of_not_mem {text : List Char} (absent : '%' ∉ text) : ¬HasEscape text := by
  rintro ⟨before, _, _, _, rfl, _⟩
  exact absent (List.mem_append_right before List.mem_cons_self)

theorem HasEscape.cons {text : List Char} (escaped : HasEscape text) (character : Char) :
    HasEscape (character :: text) := by
  obtain ⟨before, first, second, after, rfl, digits⟩ := escaped
  exact ⟨character :: before, first, second, after, rfl, digits⟩

theorem hasEscape_cons {character : Char} {rest : List Char}
    (escaped : HasEscape (character :: rest)) : HasEscape rest ∨
      ∃ first second after, character :: rest = '%' :: first :: second :: after ∧
        (hexValue? first).isSome ∧ (hexValue? second).isSome := by
  obtain ⟨before, first, second, after, split, digits⟩ := escaped
  cases before with
  | nil => exact .inr ⟨first, second, after, split, digits⟩
  | cons _ before =>
      obtain ⟨rfl, rfl⟩ := List.cons.inj split
      exact .inl ⟨before, first, second, after, rfl, digits⟩

/-- A text without an escape writes itself, and any other is longer than what it writes. -/
def IsItselfOrLonger (text : List Char) : Prop :=
  ¬HasEscape text ∧ bytes text = text.flatMap Utf8.encodeCharacter ∨
    HasEscape text ∧ Utf8.beginnings (bytes text) < text.length

theorem IsItselfOrLonger.beginnings_le {text : List Char} (either : IsItselfOrLonger text) :
    Utf8.beginnings (bytes text) ≤ text.length := by
  rcases either with ⟨_, same⟩ | ⟨_, shorter⟩
  · have count := Utf8.beginnings_flatMap text
    rw [← same] at count
    exact Nat.le_of_eq count
  · exact Nat.le_of_lt shorter

theorem IsItselfOrLonger.cons {character : Char} {rest : List Char} (either : IsItselfOrLonger rest)
    (written : bytes (character :: rest) = Utf8.encodeCharacter character ++ bytes rest)
    (unescaped : ∀ first second after, character :: rest = '%' :: first :: second :: after →
      ¬((hexValue? first).isSome ∧ (hexValue? second).isSome)) :
    IsItselfOrLonger (character :: rest) := by
  rcases either with ⟨plain, same⟩ | ⟨escaped, shorter⟩
  · refine .inl ⟨fun escaped => ?_, by rw [written, same, List.flatMap_cons]⟩
    rcases hasEscape_cons escaped with later | ⟨first, second, after, split, digits⟩
    · exact plain later
    · exact unescaped first second after split digits
  · refine .inr ⟨escaped.cons character, ?_⟩
    rw [written, Utf8.beginnings_append, Utf8.beginnings_encodeCharacter, List.length_cons]
    omega

theorem isItselfOrLonger (text : List Char) : IsItselfOrLonger text := by
  induction text using bytes.induct with
  | case1 =>
      refine .inl ⟨?_, rfl⟩
      rintro ⟨before, _, _, _, split, _⟩
      cases before <;> cases split
  | case2 first second rest high low readLow readHigh ih =>
      refine .inr ⟨⟨[], first, second, rest, rfl, by simp [readHigh], by simp [readLow]⟩, ?_⟩
      have atMostOne (byte : UInt8) (others : Bytes) :
          Utf8.beginnings (byte :: others) ≤ 1 + Utf8.beginnings others := by
        rw [← List.singleton_append, Utf8.beginnings_append]
        exact Nat.add_le_add_right List.countP_le_length _
      have later := ih.beginnings_le
      rw [bytes]
      simp only [readHigh, readLow, List.length_cons]
      exact Nat.lt_of_le_of_lt (atMostOne _ _) (by omega)
  | case3 first second rest unread ih =>
      apply ih.cons
      · rw [bytes]
        split
        · rename_i high low readHigh readLow
          exact absurd readLow (unread high low readHigh)
        · rfl
      · rintro _ _ _ split ⟨readHigh, readLow⟩
        obtain ⟨rfl, rfl, -⟩ : first = _ ∧ second = _ ∧ rest = _ := by simpa using split
        obtain ⟨high, readHigh⟩ := Option.isSome_iff_exists.mp readHigh
        obtain ⟨low, readLow⟩ := Option.isSome_iff_exists.mp readLow
        exact unread high low readHigh readLow
  | case4 character rest unmarked ih =>
      apply ih.cons
      · rw [bytes]
        exact unmarked
      · intro first second after split
        obtain ⟨rfl, rfl⟩ := List.cons.inj split
        exact absurd rfl (unmarked first second after rfl)

/-- One segment of a path that is read as a text. -/
structure Writes (segment : List Char) (text : String) : Prop where
  whole : ∀ mark ∈ ['/', '?', '#'], mark ∉ segment
  bytes : bytes segment = Utf8.encode text

theorem bytes_eq_encode_iff {text : String} :
    bytes text.toList = Utf8.encode text ↔ ¬HasEscape text.toList := by
  rcases isItselfOrLonger text.toList with ⟨plain, same⟩ | ⟨escaped, shorter⟩
  · exact iff_of_true same plain
  · refine iff_of_false (fun same => ?_) (not_not_intro escaped)
    rw [same, Utf8.encode, Utf8.beginnings_flatMap] at shorter
    exact Nat.lt_irrefl _ shorter

theorem Writes.length_le {segment : List Char} {text : String} (writes : Writes segment text) :
    text.toList.length ≤ segment.length := by
  rw [← Utf8.beginnings_flatMap text.toList, ← Utf8.encode, ← writes.bytes]
  exact (isItselfOrLonger segment).beginnings_le

theorem Writes.eq_of_length_le {segment : List Char} {text : String} (writes : Writes segment text)
    (enough : segment.length ≤ text.toList.length) : segment = text.toList := by
  have written := writes.bytes
  rcases isItselfOrLonger segment with ⟨_, same⟩ | ⟨_, shorter⟩
  · have encoded : Utf8.encode (String.ofList segment) = Utf8.encode text := by
      rw [← written, same, Utf8.encode, String.toList_ofList]
    rw [← Utf8.encode_injective encoded, String.toList_ofList]
  · rw [written, Utf8.encode, Utf8.beginnings_flatMap] at shorter
    omega

end Segment

end LedgerRules
