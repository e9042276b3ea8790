import LedgerRules.Proofs.Service.LinkHeader

/-!
Where parameters relate a link to the next page. What counts is an equals sign: a word that ends in
the name of the relation has to stand before it, and the word for the next page behind it. Neither a
semicolon nor another equals sign lies between, so that every parameter is judged by itself.
-/

namespace LedgerRules

open Text (isBlank dropBlanks Stops)

theorem Text.toLower_of_blank {character : Char} (blank : isBlank character) :
    character.toLower = character := by
  have small : ¬(65 ≤ character.val.toNat ∧ character.val.toNat ≤ 90) := by
    simp only [isBlank, Char.toNat, Bool.or_eq_true, Bool.and_eq_true, decide_eq_true_eq,
      beq_iff_eq] at blank
    omega
  rw [Char.toLower]
  split
  next upper => exact absurd upper (by simpa [UInt32.le_iff_toNat_le] using small)
  · rfl

theorem Text.dropBlanks_append_cons {text rest : List Char} {stop : Char}
    (solid : isBlank stop = false) :
    dropBlanks (text ++ stop :: rest) = dropBlanks text ++ stop :: rest := by
  induction text with
  | nil => exact List.dropWhile_cons_of_neg (by simp [solid])
  | cons character text ih =>
      by_cases blank : isBlank character = true
      · simpa [dropBlanks, blank] using ih
      · simp [dropBlanks, blank]

namespace Link

theorem afterWord?_eq_some_iff {word text rest : List Char} :
    afterWord? word text = some rest ↔
      ∃ begun, text = begun ++ rest ∧ begun.map Char.toLower = word := by
  induction word generalizing text with
  | nil => cases text <;> simp [afterWord?, eq_comm]
  | cons letter word ih =>
      cases text with
      | nil => simp [afterWord?]
      | cons character text =>
          rw [afterWord?]
          constructor
          · intro found
            split at found
            next same =>
              obtain ⟨begun, rfl, others⟩ := ih.mp found
              exact ⟨character :: begun, rfl, by simpa [others] using same⟩
            next => cases found
          · rintro ⟨begun, split, letters⟩
            cases begun with
            | nil => cases letters
            | cons first begun =>
                obtain ⟨rfl, rfl⟩ := List.cons.inj split
                obtain ⟨same, others⟩ := List.cons.inj letters
                rw [if_pos (by simpa using same)]
                exact ih.mpr ⟨begun, rfl, others⟩

theorem afterWord?_append_cons {word text rest : List Char} {stop : Char}
    (absent : stop.toLower ∉ word) :
    afterWord? word (text ++ stop :: rest) = (afterWord? word text).map (· ++ stop :: rest) := by
  induction word generalizing text with
  | nil => cases text <;> rfl
  | cons letter word ih =>
      rw [List.mem_cons, not_or] at absent
      cases text with
      | nil => simp [afterWord?, absent.1]
      | cons character text =>
          by_cases same : character.toLower = letter
          · simp [afterWord?, same, ih absent.2]
          · simp [afterWord?, same]

def withoutQuote (characters : List Char) : List Char :=
  match characters with
  | '"' :: rest => rest
  | rest => rest

/-- What stands behind an equals sign begins with the word for the next page. -/
def relatesNext (characters : List Char) : Bool :=
  (afterWord? "next".toList (withoutQuote (dropBlanks characters))).isSome

def equatesNext (characters : List Char) : Bool :=
  match characters with
  | '=' :: rest => relatesNext rest
  | _ => false

theorem beginsNextRelation_eq (characters : List Char) :
    beginsNextRelation characters =
      (afterWord? "rel".toList characters).any fun rest => equatesNext (dropBlanks rest) := by
  rw [beginsNextRelation]
  cases afterWord? "rel".toList characters with
  | none => rfl
  | some behind =>
      simp only [Option.any_some]
      cases dropBlanks behind with
      | nil => rfl
      | cons first others =>
          by_cases sign : first = '='
          · subst sign
            simp only [equatesNext, relatesNext]
            cases dropBlanks others with
            | nil => rfl
            | cons second rest => by_cases quote : second = '"' <;> simp [withoutQuote, quote]
          · simp [equatesNext, sign]

theorem withoutQuote_append_cons {stop : Char} (other : stop ≠ '"') (text rest : List Char) :
    withoutQuote (text ++ stop :: rest) = withoutQuote text ++ stop :: rest := by
  cases text with
  | nil => simp [withoutQuote, other]
  | cons first text =>
      by_cases quote : first = '"'
      · simp [withoutQuote, quote]
      · simp [withoutQuote, quote]

theorem relatesNext_append_semicolon (text rest : List Char) :
    relatesNext (text ++ ';' :: rest) = relatesNext text := by
  rw [relatesNext, Text.dropBlanks_append_cons rfl, withoutQuote_append_cons (by decide),
    afterWord?_append_cons (by decide), Option.isSome_map, relatesNext]

theorem equatesNext_append_semicolon (text rest : List Char) :
    equatesNext (text ++ ';' :: rest) = equatesNext text := by
  cases text with
  | nil => rfl
  | cons first text =>
      by_cases sign : first = '='
      · simpa [equatesNext, sign] using relatesNext_append_semicolon text rest
      · simp [equatesNext, sign]

theorem beginsNextRelation_append_semicolon (text rest : List Char) :
    beginsNextRelation (text ++ ';' :: rest) = beginsNextRelation text := by
  rw [beginsNextRelation_eq, beginsNextRelation_eq, afterWord?_append_cons (by decide),
    Option.any_map]
  congr 1
  funext behind
  rw [Text.dropBlanks_append_cons rfl, equatesNext_append_semicolon]

/-- Parameters are judged one by one. -/
theorem isNext_append_semicolon (text rest : List Char) :
    isNext (text ++ ';' :: rest) = (isNext text || isNext rest) := by
  induction text with
  | nil =>
      have sign : beginsNextRelation (';' :: rest) = false :=
        beginsNextRelation_append_semicolon [] rest
      change (beginsNextRelation (';' :: rest) || isNext rest) = (false || isNext rest)
      rw [sign]
  | cons character text ih =>
      rw [List.cons_append, isNext, isNext, ih, ← List.cons_append,
        beginsNextRelation_append_semicolon, Bool.or_assoc]

/-- A text that is the name of a relation, with blanks behind it. -/
def IsRelation (text : List Char) : Prop :=
  ∃ name gap, text = name ++ gap ∧ name.map Char.toLower = "rel".toList ∧
    ∀ character ∈ gap, isBlank character

theorem IsRelation.absent {text : List Char} (relation : IsRelation text) : '=' ∉ text := by
  obtain ⟨name, gap, rfl, letters, blank⟩ := relation
  rw [List.mem_append, not_or]
  refine ⟨fun member => ?_, Text.not_mem_of_blank blank rfl⟩
  have letter : Char.toLower '=' ∈ "rel".toList := letters ▸ List.mem_map_of_mem member
  exact absurd letter (by decide)

theorem beginsNextRelation_iff {text : List Char} :
    beginsNextRelation text = true ↔
      ∃ relation rest, text = relation ++ '=' :: rest ∧ IsRelation relation ∧
        relatesNext rest = true := by
  rw [beginsNextRelation_eq, Option.any_eq_true]
  constructor
  · rintro ⟨behind, read, equates⟩
    obtain ⟨name, rfl, letters⟩ := afterWord?_eq_some_iff.mp read
    have split : behind.takeWhile isBlank ++ dropBlanks behind = behind :=
      List.takeWhile_append_dropWhile
    cases stop : dropBlanks behind with
    | nil =>
        rw [stop] at equates
        cases equates
    | cons first rest =>
        rw [stop] at equates split
        by_cases sign : first = '='
        · subst sign
          refine ⟨name ++ behind.takeWhile isBlank, rest, by rw [List.append_assoc, split],
            ⟨name, _, rfl, letters, fun character => List.mem_takeWhile_imp⟩, equates⟩
        · simp [equatesNext, sign] at equates
  · rintro ⟨_, rest, rfl, ⟨name, gap, rfl, letters, blank⟩, relates⟩
    refine ⟨gap ++ '=' :: rest, afterWord?_eq_some_iff.mpr ⟨name, by simp, letters⟩, ?_⟩
    rw [Text.dropBlanks_append_cons rfl, dropBlanks, List.dropWhile_eq_nil_iff.mpr blank]
    exact relates

/-- What is searched for: an equals sign between the name and the word. -/
theorem isNext_iff {text : List Char} :
    isNext text = true ↔
      ∃ front rest, text = front ++ '=' :: rest ∧
        (∃ relation, relation <:+ front ∧ IsRelation relation) ∧ relatesNext rest = true := by
  induction text with
  | nil => simp [isNext]
  | cons character text ih =>
      rw [isNext, Bool.or_eq_true, beginsNextRelation_iff, ih]
      constructor
      · rintro (⟨relation, rest, split, named, relates⟩ |
          ⟨front, rest, rfl, ⟨relation, within, named⟩, relates⟩)
        · exact ⟨relation, rest, split, ⟨relation, List.suffix_rfl, named⟩, relates⟩
        · exact ⟨character :: front, rest, rfl,
            ⟨relation, within.trans (List.suffix_cons character front), named⟩, relates⟩
      · rintro ⟨front, rest, split, ⟨relation, ⟨before, rfl⟩, named⟩, relates⟩
        cases before with
        | nil => exact .inl ⟨relation, rest, split, named, relates⟩
        | cons first before =>
            obtain ⟨rfl, rfl⟩ := List.cons.inj split
            have within := List.suffix_append before relation
            exact .inr ⟨_, rest, rfl, ⟨relation, within, named⟩, relates⟩

theorem IsRelation.suffix {relation text rest : List Char} (named : IsRelation relation)
    (within : relation <:+ text ++ '=' :: rest) : relation <:+ rest := by
  rcases List.suffix_or_suffix_of_suffix within (List.suffix_append text _) with short | long
  · rcases List.suffix_cons_iff.mp short with rfl | behind
    · exact absurd List.mem_cons_self named.absent
    · exact behind
  · exact absurd (long.subset List.mem_cons_self) named.absent

/-- Every equals sign is judged by what stands around it. -/
theorem isNext_append_equals {text : List Char} (absent : '=' ∉ text) (rest : List Char) :
    isNext (text ++ '=' :: rest) = true ↔
      ((∃ relation, relation <:+ text ∧ IsRelation relation) ∧ relatesNext rest = true) ∨
        isNext rest = true := by
  rw [isNext_iff, isNext_iff]
  constructor
  · rintro ⟨front, behind, split, ⟨relation, within, named⟩, relates⟩
    rcases List.append_eq_append_iff.mp split with ⟨between, rfl, same⟩ | ⟨between, rfl, same⟩
    · cases between with
      | nil =>
          obtain rfl := (List.cons.inj same).2
          rw [List.append_nil] at within
          exact .inl ⟨⟨relation, within, named⟩, relates⟩
      | cons first between =>
          obtain ⟨rfl, rfl⟩ := List.cons.inj same
          exact .inr ⟨between, behind, rfl, ⟨relation, named.suffix within, named⟩, relates⟩
    · cases between with
      | nil =>
          obtain rfl := (List.cons.inj same).2
          rw [List.append_nil]
          exact .inl ⟨⟨relation, within, named⟩, relates⟩
      | cons first between =>
          obtain rfl := (List.cons.inj same).1
          simp at absent
  · rintro (⟨named, relates⟩ | ⟨front, behind, rfl, ⟨relation, within, named⟩, relates⟩)
    · exact ⟨text, rest, rfl, named, relates⟩
    · refine ⟨text ++ '=' :: front, behind, by simp, ⟨relation, ?_, named⟩, relates⟩
      exact within.trans ((List.suffix_cons '=' front).trans (List.suffix_append text _))

theorem isNext_append_blanks {gap : List Char} (blank : ∀ character ∈ gap, isBlank character)
    (rest : List Char) : isNext (gap ++ rest) = isNext rest := by
  induction gap with
  | nil => rfl
  | cons first gap ih =>
      obtain ⟨own, others⟩ := List.forall_mem_cons.mp blank
      have differs : first.toLower ≠ 'r' := by
        rw [Text.toLower_of_blank own]
        rintro rfl
        cases own
      rw [List.cons_append, isNext, ih others, beginsNextRelation_eq]
      simp [afterWord?, differs]

theorem isNext_append_stops {rest : List Char} (stops : Stops (· != ';') rest)
    (text : List Char) : isNext (text ++ rest) = (isNext text || isNext rest) := by
  cases rest with
  | nil => rw [List.append_nil, isNext, Bool.or_false]
  | cons first rest =>
      have semicolon : first = ';' := by simpa using stops first rfl
      have skipped : isNext (';' :: rest) = isNext rest := rfl
      rw [semicolon, isNext_append_semicolon, skipped]

/-! A name with blanks around it. -/

theorem solid_of_letters {word begun : List Char} (letters : begun.map Char.toLower = word)
    (solid : ∀ letter ∈ word, isBlank letter = false) :
    ∀ character ∈ begun, isBlank character = false := by
  intro character member
  rw [← Bool.not_eq_true]
  intro blank
  have within : character.toLower ∈ word := letters ▸ List.mem_map_of_mem member
  rw [Text.toLower_of_blank blank] at within
  rw [solid character within] at blank
  cases blank

theorem stops_reverse {front back : List Char} (filled : back ≠ [])
    (solid : ∀ character ∈ back, isBlank character = false) :
    Stops isBlank (front ++ back).reverse := by
  intro character head
  rw [List.reverse_append, List.head?_append_of_ne_nil _ (by simpa using filled),
    List.head?_reverse] at head
  exact solid character (List.mem_of_getLast? head)

/-- Blanks behind two texts do not matter to whether the texts are equal. -/
theorem eq_of_append_blanks {left right gap gapToo : List Char}
    (blank : ∀ character ∈ gap, isBlank character)
    (blankToo : ∀ character ∈ gapToo, isBlank character) (stops : Stops isBlank left.reverse)
    (stopsToo : Stops isBlank right.reverse) (same : left ++ gap = right ++ gapToo) :
    left = right := by
  have first : (gap.reverse ++ left.reverse).dropWhile isBlank = left.reverse :=
    stops.dropWhile_append (by simpa using blank)
  have second : (gapToo.reverse ++ right.reverse).dropWhile isBlank = right.reverse :=
    stopsToo.dropWhile_append (by simpa using blankToo)
  rw [← List.reverse_append, same, List.reverse_append, second] at first
  exact (List.reverse_injective first).symm

def EndsInRelation (name : List Char) : Prop := "rel".toList <:+ name.map Char.toLower

instance (name : List Char) : Decidable (EndsInRelation name) :=
  inferInstanceAs (Decidable (_ <:+ _))

theorem exists_relation_iff {before name after : List Char}
    (blankBefore : ∀ character ∈ before, isBlank character)
    (blankAfter : ∀ character ∈ after, isBlank character) (filled : name ≠ [])
    (solid : ∀ character ∈ name, isBlank character = false) :
    (∃ relation, relation <:+ before ++ name ++ after ∧ IsRelation relation) ↔
      EndsInRelation name := by
  constructor
  · rintro ⟨_, ⟨front, split⟩, word, gap, rfl, letters, blank⟩
    have wordSolid := solid_of_letters letters fun letter member => by
      simp only [String.reduceToList, List.mem_cons, List.not_mem_nil, or_false] at member
      rcases member with rfl | rfl | rfl <;> rfl
    have wordFilled : word ≠ [] := by
      rintro rfl
      cases letters
    rw [← List.append_assoc] at split
    have ends := eq_of_append_blanks blank blankAfter (stops_reverse wordFilled wordSolid)
      (stops_reverse filled solid) split
    have within : word <:+ name := by
      rcases List.append_eq_append_iff.mp ends with ⟨between, rfl, same⟩ | ⟨rest, _, same⟩
      · have nothing : between = [] := by
          rw [List.eq_nil_iff_forall_not_mem]
          intro character member
          have blankToo := blankBefore character (List.mem_append_right front member)
          rw [wordSolid character (same ▸ List.mem_append_left name member)] at blankToo
          cases blankToo
        rw [same, nothing]
        exact List.suffix_rfl
      · exact ⟨rest, same.symm⟩
    rw [EndsInRelation, ← letters]
    exact within.map Char.toLower
  · rintro ⟨front, split⟩
    obtain ⟨first, word, rfl, _, letters⟩ := List.map_eq_append_iff.mp split.symm
    refine ⟨word ++ after, ⟨before ++ first, by simp⟩, word, after, rfl, letters, blankAfter⟩

end Link

end LedgerRules
