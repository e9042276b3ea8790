import LedgerRules.Proofs.Number.Digits
import LedgerRules.Proofs.Pattern.Reading

/-!
Patterns that are refused without being malformed. The reasons can be seen in the text: a number of
repetitions that is too large or has too many digits, a code that is too large, and flags for two
kinds of characters at once. Only how deep a pattern may be is up to the machine.
-/

namespace LedgerRules.Pattern

open Text Reading

structure IsBounds (bounds least most : List Char) : Prop where
  form : bounds = least ∧ most = least ∨ bounds = least ++ ',' :: most
  least_digits : ∀ digit ∈ least, digit.isDigit
  most_digits : ∀ digit ∈ most, digit.isDigit

def Repeats (text least most : List Char) : Prop :=
  ∃ bounds, IsBounds bounds least most ∧ '\x7b' :: bounds ++ ['\x7d'] <:+: text

def RepeatsTooOften (text : List Char) : Prop :=
  ∃ least most, Repeats text least most ∧
    (repetitionLimit ≤ codeOf 10 least ∨ repetitionLimit ≤ codeOf 10 most)

def HasLongNumber (text : List Char) (digits : Nat) : Prop :=
  mostDigits < digits ∧ ∃ least most, Repeats text least most ∧
    (least.length = digits ∨ most.length = digits)

def HasLargeCode (text : List Char) : Prop :=
  ∃ digits, digits.length = 8 ∧ (∀ digit ∈ digits, isHexDigit digit) ∧
    '\\' :: 'U' :: digits <:+: text ∧ 0x7FFFFFFF < codeOf 16 digits

def TurnsOn (text : List Char) (letter : Char) : Prop :=
  ∃ letters, letter ∈ letters ∧ (∀ other ∈ letters, (flagLetter? [other]).isSome) ∧
    '(' :: '?' :: letters ++ [')'] <:+: text

/-- What in the text is to blame for a refusal. What is malformed may be so for many reasons, and no
text is too deep by itself. -/
def Refusal.IsBlamedOn (text : List Char) : Refusal → Prop
  | .malformed _ _ => True
  | .repetitionTooLarge => RepeatsTooOften text
  | .repetitionTooLong digits => HasLongNumber text digits
  | .codeTooLarge => HasLargeCode text
  | .kindsIncompatible => TurnsOn text 'a' ∧ TurnsOn text 'u'
  | .tooDeep => False

structure Within (text taken : List Char) (state : Scope × Place) : Prop where
  located : taken ++ state.2.rest <:+ text
  ascii : state.1.flags.ascii = true → TurnsOn text 'a'
  unicode : state.1.flags.unicode = true → TurnsOn text 'u'

theorem Within.infix {text taken : List Char} {state : Scope × Place}
    (within : Within text taken state) : taken <:+: text :=
  (List.prefix_append taken state.2.rest).isInfix.trans within.located.isInfix

/-- Wherever some characters have just been taken, a reading ends after others, or its refusal is
blamed on the text. -/
def Reads {α : Type} (text before : List Char) (reading : Reading α)
    (after : α → List Char → Prop) : Prop :=
  ∀ state, Within text before state →
    Ends (Refusal.IsBlamedOn text)
      (fun reached => ∃ taken, after reached.1 taken ∧ Within text taken reached.2)
      (reading.run state)

def Sound {α : Type} (text : List Char) (reading : Reading α) : Prop :=
  Reads text [] reading fun _ _ => True

section Reads

variable {α β : Type} {text before : List Char} {after : α → List Char → Prop}
  {reading : Reading α}

theorem Reads.pure {value : α} (ends : after value before) :
    Reads text before (Pure.pure value) after :=
  fun _ within => ⟨before, ends, within⟩

theorem Reads.bind {later : β → List Char → Prop} {next : α → Reading β}
    (first : Reads text before reading after)
    (second : ∀ value taken, after value taken → Reads text taken (next value) later) :
    Reads text before (reading >>= next) later := by
  intro state within
  refine (first state within).bind ?_
  rintro ⟨value, middle⟩ ⟨taken, ends, within⟩
  exact second value taken ends middle within

theorem Reads.ite {condition : Prop} [Decidable condition] {other : Reading α}
    (first : condition → Reads text before reading after)
    (second : ¬condition → Reads text before other after) :
    Reads text before (if condition then reading else other) after := by
  split
  · rename_i holds
    exact first holds
  · rename_i fails
    exact second fails

theorem Reads.mono {later : α → List Char → Prop} (first : Reads text before reading after)
    (second : ∀ value taken, after value taken → later value taken) :
    Reads text before reading later := by
  intro state within
  refine (first state within).mono (fun _ => id) ?_
  rintro ⟨value, reached⟩ ⟨taken, ends, within⟩
  exact ⟨taken, second value taken ends, within⟩

theorem Reads.anywhere (first : Reads text [] reading after) : Reads text before reading after :=
  fun state within =>
    first state ⟨(List.suffix_append before _).trans within.located, within.ascii, within.unicode⟩

theorem Refusal.IsMalformed.isBlamedOn {refusal : Refusal} (malformed : refusal.IsMalformed) :
    refusal.IsBlamedOn text := by
  cases refusal with
  | malformed _ _ => trivial
  | _ => exact malformed.elim

theorem Calm.reads (calm : Calm reading) :
    Reads text before reading fun _ taken => taken = [] := by
  refine Reads.anywhere fun state within => ?_
  refine (calm state).mono (fun _ malformed => malformed.isBlamedOn) ?_
  rintro ⟨value, reached⟩ ⟨onward, flags⟩
  refine ⟨[], rfl, onward.trans within.located, ?_, ?_⟩
  · rw [flags]
    exact within.ascii
  · rw [flags]
    exact within.unicode

theorem Calm.sound (calm : Calm reading) : Sound text reading :=
  calm.reads.mono fun _ _ _ => trivial

theorem Reads.thenSound {next : α → Reading β} (first : Reads text before reading after)
    (second : ∀ value, Sound text (next value)) :
    Reads text before (reading >>= next) fun _ _ => True :=
  first.bind fun value _ _ => (second value).anywhere

theorem Sound.bind {next : α → Reading β} (first : Sound text reading)
    (second : ∀ value, Sound text (next value)) : Sound text (reading >>= next) :=
  first.thenSound second

theorem Sound.pure (value : α) : Sound text (Pure.pure value) := Reads.pure trivial

theorem Sound.ite {condition : Prop} [Decidable condition] {other : Reading α}
    (first : Sound text reading) (second : Sound text other) :
    Sound text (if condition then reading else other) :=
  Reads.ite (fun _ => first) fun _ => second

theorem reads_refused {fault : Fault} {offset : Nat} {next : β → Reading α} :
    Reads text before (refuse fault offset >>= next) after :=
  fun _ _ => trivial

theorem reads_refusedAt {fault : Fault} {position : Nat} {next : β → Reading α} :
    Reads text before (refuseAt fault position >>= next) after :=
  fun _ _ => trivial

theorem reads_thrown {refusal : Refusal} {next : β → Reading α}
    (blamed : before <:+: text → refusal.IsBlamedOn text) :
    Reads text before ((throw refusal : Reading β) >>= next) after :=
  fun _ within => blamed within.infix

theorem reads_place :
    Reads text before place fun place taken => taken = before ∧ before ++ place.rest <:+ text :=
  fun _ within => ⟨before, ⟨rfl, within.located⟩, within⟩

theorem reads_setPlace {place : Place} (located : place.rest <:+ text) :
    Reads text before (setPlace place) fun _ taken => taken = [] :=
  fun _ within => ⟨[], rfl, located, within.ascii, within.unicode⟩

theorem reads_takePiece :
    Reads text before takePiece fun piece taken => taken = before ++ piece := by
  rintro ⟨scope, place⟩ within
  rw [run_takePiece]
  refine (place.ends_take.mono (fun _ malformed => malformed.isBlamedOn) fun _ => id).map ?_
  rintro ⟨piece, after⟩ ⟨-, rest⟩
  refine ⟨_, rfl, ?_, within.ascii, within.unicode⟩
  rw [List.append_assoc]
  exact rest ▸ within.located

theorem reads_piece : Reads text [] takePiece fun piece taken => taken = piece := reads_takePiece

theorem reads_takeIf (character : Char) :
    Reads text before (takeIf character) fun found taken =>
      taken = if found then before ++ [character] else before := by
  rintro ⟨scope, place⟩ within
  rw [run_takeIf]
  refine ((place.ends_takeIf character).mono (fun _ malformed => malformed.isBlamedOn)
    fun _ => id).map ?_
  rintro (_ | after) rest
  · exact ⟨_, rfl, within⟩
  · refine ⟨_, rfl, ?_, within.ascii, within.unicode⟩
    have taken : character :: after.rest = place.rest := rest after rfl
    simpa [← taken] using within.located

theorem reads_takeWhile (test : Char → Bool) (count : Nat) :
    Reads text before (takeWhile test count) fun characters taken =>
      taken = before ++ characters ∧ (∀ character ∈ characters, test character) ∧
        characters.length ≤ count := by
  rintro ⟨scope, place⟩ within
  rw [run_takeWhile]
  refine ((place.ends_takeWhile test count).mono (fun _ malformed => malformed.isBlamedOn)
    fun _ => id).map ?_
  rintro ⟨characters, after⟩ ⟨rest, all, short⟩
  refine ⟨_, ⟨rfl, all, short⟩, ?_, within.ascii, within.unicode⟩
  rw [List.append_assoc]
  exact rest ▸ within.located

theorem reads_takeDecimal :
    Reads text before takeDecimal fun digits taken =>
      taken = before ++ digits ∧ ∀ digit ∈ digits, digit.isDigit := by
  refine reads_place.bind ?_
  rintro place _ ⟨rfl, -⟩
  exact (reads_takeWhile _ _).mono fun digits taken read => ⟨read.1, read.2.1⟩

theorem reads_takeRequired (fault : Fault) :
    Reads text before (takeRequired fault) fun piece taken => taken = before ++ piece := by
  refine reads_place.bind ?_
  rintro place _ ⟨rfl, -⟩
  exact .ite (fun _ => reads_refused) fun _ => reads_takePiece

end Reads

/-! Numbers of repetitions. -/

section Bounds

variable {text : List Char}

theorem reads_checkLength {digits taken : List Char}
    (blamed : mostDigits < digits.length → taken <:+: text → HasLongNumber text digits.length) :
    Reads text taken (checkLength digits) fun _ after => after = taken :=
  .ite (fun long _ within => blamed long within.infix) fun _ => .pure rfl

theorem reads_closedBraces {bounds least most : List Char} (isBounds : IsBounds bounds least most)
    {start : Place} (located : start.rest <:+ text) :
    Reads text ('\x7b' :: bounds) (do
      unless ← takeIf '\x7d' do
        setPlace start
        return none
      checkLength least
      let leastNumber := codeOf 10 least
      if repetitionLimit ≤ leastNumber then throw .repetitionTooLarge
      if most.isEmpty then return some ⟨leastNumber, none⟩
      checkLength most
      let mostNumber := codeOf 10 most
      if repetitionLimit ≤ mostNumber then throw .repetitionTooLarge
      if mostNumber < leastNumber then refuseAt .leastAboveMost start.position
      return some ⟨leastNumber, some mostNumber⟩ : Reading (Option Bounds)) fun _ _ => True := by
  refine (reads_takeIf _).bind ?_
  rintro found taken rfl
  refine .ite (fun closed => ?_) fun _ => (reads_setPlace located).bind fun _ _ _ => .pure trivial
  rw [if_pos closed]
  have repeats (written : '\x7b' :: bounds ++ ['\x7d'] <:+: text) : Repeats text least most :=
    ⟨bounds, isBounds, written⟩
  have blamed {digits : List Char} (one : least = digits ∨ most = digits)
      (long : mostDigits < digits.length) (written : '\x7b' :: bounds ++ ['\x7d'] <:+: text) :
      HasLongNumber text digits.length :=
    ⟨long, least, most, repeats written, one.imp (congrArg _) (congrArg _)⟩
  refine (reads_checkLength (blamed (.inl rfl))).bind ?_
  rintro _ _ rfl
  refine .ite (fun tooLarge => reads_thrown fun written =>
    ⟨least, most, repeats written, .inl tooLarge⟩)
    fun _ => .ite (fun _ => .pure trivial) fun _ => ?_
  refine (reads_checkLength (blamed (.inr rfl))).bind ?_
  rintro _ _ rfl
  refine .ite (fun tooLarge => reads_thrown fun written =>
    ⟨least, most, repeats written, .inr tooLarge⟩) fun _ => ?_
  exact .ite (fun _ => reads_refusedAt) fun _ => .pure trivial

theorem reads_readBraces : Reads text ['\x7b'] readBraces fun _ _ => True := by
  refine reads_place.bind ?_
  rintro start _ ⟨rfl, located⟩
  have rest : start.rest <:+ text := (List.suffix_append _ _).trans located
  refine .ite (fun _ => .pure trivial) fun _ => reads_takeDecimal.bind ?_
  rintro least _ ⟨rfl, leastDigits⟩
  refine (reads_takeIf _).bind ?_
  rintro found _ rfl
  refine .ite (fun comma => ?_) fun single => ?_
  · rw [if_pos comma]
    refine reads_takeDecimal.bind ?_
    rintro most _ ⟨rfl, areDigits⟩
    have isBounds : IsBounds (least ++ ',' :: most) least most :=
      ⟨.inr rfl, leastDigits, areDigits⟩
    have taken : ['\x7b'] ++ least ++ [','] ++ most = '\x7b' :: (least ++ ',' :: most) := by simp
    rw [taken]
    exact reads_closedBraces isBounds rest
  · rw [if_neg single]
    exact reads_closedBraces ⟨.inl ⟨rfl, rfl⟩, leastDigits, leastDigits⟩ rest

theorem reads_readBounds {quantifier : Char} (known : quantifier ∈ ['*', '+', '?', '\x7b']) :
    Reads text [quantifier] (readBounds quantifier) fun _ _ => True := by
  simp only [List.mem_cons, List.not_mem_nil, or_false] at known
  rcases known with rfl | rfl | rfl | rfl
  · exact .pure trivial
  · exact .pure trivial
  · exact .pure trivial
  · exact reads_readBraces

end Bounds

/-! Escapes. -/

theorem codeOf_lt {digits : List Char} {count : Nat} (few : digits.length ≤ count) :
    codeOf 16 digits < 16 ^ count := by
  refine ofDigitValues_lt (by decide) ((List.length_map _).trans_le few) ?_
  rw [List.forall_mem_map]
  intro digit _
  cases found : hexValue? digit with
  | none => exact Nat.zero_lt_succ _
  | some value => exact hexValue?_lt found

section Escapes

variable {text : List Char}

theorem reads_readHexEscape {marker : Char} {count : Nat}
    (short : count ≤ 4 ∨ marker = 'U' ∧ count = 8) :
    Reads text ['\\', marker] (readHexEscape marker count) fun _ _ => True := by
  refine (reads_takeWhile _ _).bind ?_
  rintro digits _ ⟨rfl, hexDigits, -⟩
  refine .ite (fun _ => reads_refused) fun complete => ?_
  have length : digits.length = count := not_not.mp complete
  refine .ite (fun tooLarge => reads_thrown fun written => ?_) fun _ =>
    .ite (fun _ => reads_refused) fun _ => .pure trivial
  -- Only the longest of these escapes can name a code that is too large.
  rcases short with short | ⟨rfl, rfl⟩
  · have small : codeOf 16 digits < 16 ^ 4 := codeOf_lt (length ▸ short)
    omega
  · exact ⟨digits, length, hexDigits, written, tooLarge⟩

theorem reads_readCommonEscape? (character : Char) :
    Reads text ['\\', character] (readCommonEscape? character) fun _ _ => True := by
  unfold readCommonEscape?
  split
  · exact (reads_readHexEscape (.inl (by decide))).thenSound fun _ => .pure _
  · exact (reads_readHexEscape (.inl (by decide))).thenSound fun _ => .pure _
  · exact (reads_readHexEscape (.inr ⟨rfl, rfl⟩)).thenSound fun _ => .pure _
  · exact (calm_readNamedCharacter.bind fun _ => .pure _).sound.anywhere
  · exact .pure trivial

theorem reads_readSetEscape (character : Char) :
    Reads text ['\\', character] (readSetEscape character) fun _ _ => True := by
  simp only [readSetEscape]
  split
  · exact .pure trivial
  · split
    · exact .pure trivial
    · refine (reads_readCommonEscape? character).thenSound fun code? => ?_
      split
      · exact .pure _
      · refine .ite (Calm.sound ?_) (Calm.sound ?_)
        · exact (calm_takeWhile _ _).bind fun _ => (calm_checkOctal _).bind fun _ => .pure _
        · exact (calm_readPlainEscape _).bind fun _ => .pure _

theorem reads_readEscape (character : Char) :
    Reads text ['\\', character] (readEscape character) fun _ _ => True := by
  simp only [readEscape]
  split
  · exact .pure trivial
  · split
    · exact .pure trivial
    · split
      · exact .pure trivial
      · refine (reads_readCommonEscape? character).thenSound fun code? => ?_
        split
        · exact .pure _
        · refine .ite (Calm.sound ?_) (.ite (Calm.sound ?_) (Calm.sound ?_))
          · exact (calm_takeWhile _ _).bind fun _ => .pure _
          · exact calm_readNumberEscape character
          · exact (calm_readPlainEscape _).bind fun _ => .pure _

theorem reads_readSetItem (piece : List Char) :
    Reads text piece (readSetItem piece) fun _ _ => True := by
  unfold readSetItem
  split
  · exact reads_readSetEscape _
  · exact .pure trivial
  · exact .pure trivial

theorem sound_readSetItems (opening steps : Nat) (items : List SetItem) (isFirst : Bool) :
    Sound text (readSetItems opening steps items isFirst) := by
  induction steps generalizing items isFirst with
  | zero => exact .pure _
  | succ steps ih =>
      refine calm_place.sound.bind fun place => .ite reads_refusedAt (reads_piece.bind ?_)
      rintro _ piece rfl
      refine .ite (fun _ => .pure trivial) fun _ =>
        (reads_readSetItem piece).thenSound fun item => ?_
      refine (calm_takeIf _).sound.bind fun isRange => .ite ?_ (ih _ _)
      refine calm_place.sound.bind fun place => .ite reads_refusedAt (reads_piece.bind ?_)
      rintro _ last rfl
      refine .ite (fun _ => .pure trivial) fun _ => (reads_readSetItem last).thenSound fun _ => ?_
      exact (calm_readRange _ _ _ _).sound.bind fun _ => ih _ _

theorem sound_readSet : Sound text readSet := by
  refine calm_position.sound.bind fun opening => (calm_takeIf _).sound.bind fun negated =>
    calm_place.sound.bind fun place => (sound_readSetItems _ _ _ _).bind fun items => ?_
  split <;> exact .pure _

end Escapes

/-! Flags. -/

theorem flagLetter?_eq_some {piece : List Char} {letter : FlagLetter}
    (found : flagLetter? piece = some letter) : ∃ character, piece = [character] := by
  unfold flagLetter? at found
  split at found <;> first | exact ⟨_, rfl⟩ | cases found

theorem flagLetter?_kinds {character : Char} {flags : Flags}
    (found : flagLetter? [character] = some (.flag flags)) :
    (flags.ascii = true → character = 'a') ∧ (flags.unicode = true → character = 'u') := by
  unfold flagLetter? at found
  split at found <;> simp_all <;> subst found <;> simp

structure Spells (letters : List Char) (flags : Flags) : Prop where
  known : ∀ letter ∈ letters, (flagLetter? [letter]).isSome
  ascii : flags.ascii = true → 'a' ∈ letters
  unicode : flags.unicode = true → 'u' ∈ letters

theorem Spells.append {letters : List Char} {flags : Flags} (spells : Spells letters flags)
    {character : Char} {letter : FlagLetter} (found : flagLetter? [character] = some letter) :
    Spells (letters ++ [character]) flags := by
  refine ⟨List.forall_mem_append.mpr ⟨spells.known, List.forall_mem_singleton.mpr ?_⟩,
    fun on => List.mem_append_left _ (spells.ascii on),
    fun on => List.mem_append_left _ (spells.unicode on)⟩
  rw [found]
  rfl

theorem Spells.union {letters : List Char} {flags added : Flags} (spells : Spells letters flags)
    {character : Char} (found : flagLetter? [character] = some (.flag added)) :
    Spells (letters ++ [character]) (flags.union added) := by
  obtain ⟨ascii, unicode⟩ := flagLetter?_kinds found
  have more := spells.append found
  refine ⟨more.known, fun on => ?_, fun on => ?_⟩
  · rcases Bool.or_eq_true_iff.mp on with before | own
    · exact more.ascii before
    · simp [ascii own]
  · rcases Bool.or_eq_true_iff.mp on with before | own
    · exact more.unicode before
    · simp [unicode own]

section Flags

variable {text : List Char}

def Spelled (read : Flags × List Char) (taken : List Char) : Prop :=
  ∃ letters, Spells letters read.1 ∧ taken = ['(', '?'] ++ letters ++ read.2

theorem reads_readFlagsOn {letters : List Char} {flags : Flags} (spells : Spells letters flags)
    {character : Char} {letter : FlagLetter} (found : flagLetter? [character] = some letter)
    (steps : Nat) :
    Reads text (['(', '?'] ++ letters ++ [character]) (readFlagsOn steps flags letter) Spelled := by
  induction steps generalizing letters flags character letter with
  | zero =>
      exact .pure ⟨letters ++ [character], spells.append found, by simp⟩
  | succ steps ih =>
      cases letter with
      | locale => exact fun _ _ => trivial
      | flag added =>
          have more := spells.union found
          refine .ite (fun _ => reads_refused) fun _ => (reads_takeRequired _).bind ?_
          rintro piece _ rfl
          refine .ite (fun _ => .pure ⟨_, more, by simp⟩) fun _ => ?_
          cases next : flagLetter? piece with
          | none => exact fun _ _ => trivial
          | some letter =>
              obtain ⟨character, rfl⟩ := flagLetter?_eq_some next
              have reads := ih more next
              simp only [List.append_assoc] at reads ⊢
              exact reads

theorem Spells.turnsOn {letters : List Char} {flags : Flags} (spells : Spells letters flags)
    (written : ['(', '?'] ++ letters ++ [')'] <:+: text) :
    (flags.ascii = true → TurnsOn text 'a') ∧ (flags.unicode = true → TurnsOn text 'u') :=
  ⟨fun on => ⟨letters, spells.ascii on, spells.known, written⟩,
    fun on => ⟨letters, spells.unicode on, spells.known, written⟩⟩

theorem reads_turnOn {letters : List Char} {flags : Flags} (spells : Spells letters flags) :
    Reads text (['(', '?'] ++ letters ++ [')'])
      (changeScope fun scope => { scope with flags := scope.flags.union flags })
      fun _ _ => True := by
  rintro ⟨scope, place⟩ within
  obtain ⟨ascii, unicode⟩ := spells.turnsOn within.infix
  refine ⟨_, trivial, within.located, fun on => ?_, fun on => ?_⟩
  · exact (Bool.or_eq_true_iff.mp on).elim within.ascii ascii
  · exact (Bool.or_eq_true_iff.mp on).elim within.unicode unicode

theorem reads_endedFlags {add : Flags} {ending taken : List Char}
    (spelled : Spelled (add, ending) taken) (steps : Nat) :
    Reads text taken (do
      if ending == [')'] then
        changeScope fun scope => { scope with flags := scope.flags.union add }
        return none
      if add.template then refuse .globalFlagOn 1
      let remove ←
        if ending == ['-'] then do
          let piece ← takeRequired (.missing "flag")
          match flagLetter? piece with
          | some letter => readFlagsOff steps {} letter
          | none => refuseFlag piece "flag"
        else pure {}
      if remove.template then refuse .globalFlagOff 1
      if add.meets remove then refuse .flagOnAndOff 1
      return some (add, remove) : Reading (Option (Flags × Flags))) fun _ _ => True := by
  obtain ⟨letters, spells, rfl⟩ := spelled
  refine .ite (fun closed => ?_) fun _ => (Calm.sound (.ite (calm_refused _) ?_)).anywhere
  · obtain rfl := eq_of_beq closed
    exact (reads_turnOn spells).thenSound fun _ => .pure _
  have last (remove : Flags) : Calm (do
      if remove.template then refuse .globalFlagOff 1
      if add.meets remove then refuse .flagOnAndOff 1
      return some (add, remove) : Reading (Option (Flags × Flags))) :=
    .ite (calm_refused _) (.ite (calm_refused _) (.pure _))
  refine .ite ((calm_takeRequired _).bind fun piece => ?_) ((Calm.pure _).bind last)
  cases flagLetter? piece with
  | none => exact (calm_refuseFlag _ _).bind last
  | some letter => exact (calm_readFlagsOff _ _ _).bind last

theorem reads_readFlags (piece : List Char) :
    Reads text (['(', '?'] ++ piece) (readFlags piece) fun _ _ => True := by
  have nothing : Spells [] {} := ⟨by simp, by simp, by simp⟩
  refine reads_place.bind ?_
  rintro place _ ⟨rfl, -⟩
  dsimp only
  split
  · rename_i letter found
    obtain ⟨character, rfl⟩ := flagLetter?_eq_some found
    refine (reads_readFlagsOn nothing found _).bind ?_
    rintro ⟨add, ending⟩ taken spelled
    exact reads_endedFlags spelled _
  · have unspelled : Spelled ({}, piece) (['(', '?'] ++ piece) := ⟨[], nothing, rfl⟩
    exact reads_endedFlags unspelled _

theorem reads_readOpening (opening : Nat) :
    Reads text ['('] (readOpening opening) fun _ _ => True := by
  refine (reads_takeIf _).bind ?_
  rintro extended _ rfl
  refine .ite (fun extended => ?_) fun _ => .pure trivial
  rw [if_pos extended]
  refine (reads_takeRequired _).bind ?_
  rintro piece _ rfl
  split
  · exact calm_readNamedOpening.sound.anywhere
  · exact .pure trivial
  · refine (calm_place.bind fun place => ?_).sound.anywhere
    exact (calm_skipComment _ _).bind fun _ => .pure _
  · exact .pure trivial
  · exact .pure trivial
  · exact calm_readLookbehindOpening.sound.anywhere
  · exact .pure trivial
  · exact .pure trivial
  · refine .ite (fun _ => ?_) fun _ => (calm_refuse _ _).sound.anywhere
    refine (reads_readFlags piece).thenSound fun flags? => ?_
    split <;> exact .pure _

end Flags

/-! The whole pattern. -/

structure AreSound (text : List Char) (steps : Nat) : Prop where
  branches : ∀ verbose standing, Sound text (readBranches steps verbose standing)
  sequence : ∀ verbose standing parts, Sound text (readSequence steps verbose standing parts)
  look : ∀ verbose opening behind negated,
    Sound text (readLook steps verbose opening behind negated)
  conditional : ∀ verbose opening, Sound text (readConditional steps verbose opening)

namespace AreSound

variable {text : List Char} {steps : Nat}

theorem branches_succ (areSound : AreSound text steps) (verbose : Bool) (standing : Standing) :
    Sound text (readBranches (steps + 1) verbose standing) := by
  unfold readBranches
  refine (areSound.sequence _ _ _).bind fun branch => (calm_takeIf _).sound.bind fun more =>
    .ite ?_ (.pure _)
  exact calm_scope.sound.bind fun scope => (areSound.branches _ _).bind fun rest => .pure _

theorem look_succ (areSound : AreSound text steps) (verbose : Bool) (opening : Nat)
    (behind negated : Bool) :
    Sound text (readLook (steps + 1) verbose opening behind negated) := by
  unfold readLook
  refine calm_scope.sound.bind fun scope => ?_
  have closed (body : List Node) : Calm (do
      closeParenthesis opening
      return .look behind negated (.ofList body) : Reading Node) :=
    (calm_closeParenthesis _).bind fun _ => .pure _
  refine .ite ((calm_changeScope (by exact fun _ => rfl)).sound.bind fun _ => ?_) ?_
  all_goals
    refine (areSound.branches _ _).bind fun branches => Calm.sound (.ite ?_ (closed _))
    exact (calm_changeScope (by exact fun _ => rfl)).bind fun _ => closed _

theorem conditional_succ (areSound : AreSound text steps) (verbose : Bool) (opening : Nat) :
    Sound text (readConditional (steps + 1) verbose opening) := by
  unfold readConditional
  refine calm_readCondition.sound.bind fun number =>
    (calm_checkLookbehind _).sound.bind fun _ => (areSound.sequence _ _ _).bind fun yes =>
    (calm_takeIf _).sound.bind fun more => ?_
  have closed (no : List Node) : Calm (do
      closeParenthesis opening
      return .conditional number (.ofList yes) (.ofList no) : Reading Node) :=
    (calm_closeParenthesis _).bind fun _ => .pure _
  refine .ite ((areSound.sequence _ _ _).bind fun no => Calm.sound ?_) (closed []).sound
  exact calm_place.bind fun place => .ite (calm_refused _) (closed no)

theorem sequence_succ (areSound : AreSound text steps) (verbose : Bool) (standing : Standing)
    (parts : List Part) : Sound text (readSequence (steps + 1) verbose standing parts) := by
  have goesOn (parts : List Part) : Sound text (readSequence steps verbose standing parts) :=
    areSound.sequence verbose standing parts
  refine calm_place.sound.bind fun place => .ite (.pure _) (reads_piece.bind ?_)
  rintro _ piece rfl
  refine .ite (fun _ => (goesOn _).anywhere) fun _ => .ite (fun _ => ?_) fun _ => ?_
  · exact ((calm_skipLine _).sound.bind fun _ => goesOn _).anywhere
  split
  · rename_i character
    refine .ite (fun _ => (sound_readSet.bind fun _ => goesOn _).anywhere) fun _ =>
      .ite (fun _ => (goesOn _).anywhere) fun _ => .ite (fun _ => (goesOn _).anywhere) fun _ =>
      .ite (fun _ => (goesOn _).anywhere) fun _ => .ite (fun opens => ?_) fun _ =>
      .ite (fun known => ?_) fun _ => (goesOn _).anywhere
    · obtain rfl := eq_of_beq opens
      refine (reads_readOpening _).thenSound fun opening => ?_
      cases opening with
      | comment => exact goesOn _
      | globalFlags =>
          exact .ite reads_refusedAt (calm_scope.sound.bind fun scope => areSound.sequence _ _ _)
      | reference node => exact goesOn _
      | look behind negated => exact (areSound.look _ _ _ _).bind fun _ => goesOn _
      | condition => exact (areSound.conditional _ _).bind fun _ => goesOn _
      | body name captures isAtomic add remove =>
          refine .ite (((calm_openGroup name).map some).sound.bind ?_) (Sound.bind (.pure none) ?_)
          all_goals
            intro number
            refine (areSound.branches _ _).bind fun branches =>
              (calm_closeParenthesis _).sound.bind fun _ => ?_
            cases number with
            | none => exact goesOn _
            | some number => exact (calm_closeGroup _ _).sound.bind fun _ => goesOn _
    · refine (reads_readBounds (List.contains_iff_mem.mp known)).thenSound fun bounds? => ?_
      cases bounds? with
      | none => exact goesOn _
      | some bounds => exact (calm_readRepetition _ _ _).sound.bind fun _ => goesOn _
  · exact (reads_readEscape _).thenSound fun _ => goesOn _
  · exact (goesOn _).anywhere

end AreSound

theorem areSound (text : List Char) (steps : Nat) : AreSound text steps := by
  induction steps with
  | zero =>
      exact ⟨fun _ _ => .pure _, fun _ _ _ => .pure _, fun _ _ _ _ => .pure _, fun _ _ => .pure _⟩
  | succ steps ih =>
      exact ⟨ih.branches_succ, ih.sequence_succ, ih.look_succ, ih.conditional_succ⟩

section Whole

variable {text : List Char}

theorem reads_scope {before : List Char} :
    Reads text before scope fun scope taken => taken = before ∧
      (scope.flags.ascii = true → TurnsOn text 'a') ∧
        (scope.flags.unicode = true → TurnsOn text 'u') :=
  fun _ within => ⟨before, ⟨rfl, within.ascii, within.unicode⟩, within⟩

theorem sound_readWhole : Sound text readWhole := by
  refine calm_place.sound.bind fun place => ((areSound text _).branches _ _).bind fun branches =>
    reads_scope.bind ?_
  rintro scope _ ⟨rfl, ascii, unicode⟩
  refine .ite (fun both => reads_thrown fun _ => ?_) fun _ => Sound.bind calm_place.sound ?_
  · rw [Bool.and_eq_true] at both
    exact ⟨ascii both.1, unicode both.2⟩
  intro place
  have checked (node : Node) : Calm (do
      node.checkUse scope.flags.template
      return ⟨node, { scope.flags with unicode := !scope.flags.ascii }⟩ : Reading Compiled) :=
    (calm_lift (node.ends_checkUse _)).bind fun _ => .pure _
  refine .ite (Calm.sound ?_) reads_refused
  split
  · exact calm_refusedAt _
  · exact checked _

end Whole

theorem ends_readWhole (platform : Platform) (text : String) :
    Ends (Refusal.IsBlamedOn text.toList) (fun _ => True) (do
      let place ← Place.start text.toList
      (·.1) <$> readWhole.run (.start platform, place) : Attempt Compiled) := by
  have start : Ends Refusal.IsMalformed (fun place => place.rest = text.toList)
      (Place.start text.toList) := by
    unfold Place.start Place.check
    split
    · trivial
    · rfl
  refine (start.mono (fun _ malformed => malformed.isBlamedOn) fun _ => id).bind ?_
  intro place whole
  have within : Within text.toList [] (.start platform, place) :=
    ⟨by rw [List.nil_append, whole], nofun, nofun⟩
  exact (sound_readWhole _ within).map fun _ _ => trivial

/-- A pattern that is refused is malformed, or there is something to blame in its text, or it is too
deep for the machine. -/
theorem refused_cases {platform : Platform} {text : String} {refusal : Refusal}
    (refused : compile platform text = .error refusal) :
    refusal.IsBlamedOn text.toList ∨
      refusal = .tooDeep ∧ platform.exhausts (.pattern text) = true := by
  have ends := ends_readWhole platform text
  simp only [compile] at refused
  split at refused
  · rename_i deep
    cases refused
    exact .inr ⟨rfl, deep⟩
  · rw [refused] at ends
    exact .inl ends

end LedgerRules.Pattern
