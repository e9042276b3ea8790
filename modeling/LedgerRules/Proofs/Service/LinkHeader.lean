import LedgerRules.Proofs.Text.Split
import LedgerRules.Service.Link

/-!
Link headers that list links with their names, and the link that is followed: the first one whose
name begins with the word for the next page.
-/

namespace LedgerRules

open Text (isBlank dropBlanks Stops)

/-- A link to a target, with the name of what is found there. -/
structure NamedLink where
  target : String
  name : String
  closed : '>' ∉ target.toList
  plain : ',' ∉ name.toList ∧ '=' ∉ name.toList

namespace NamedLink

def parameters (link : NamedLink) : List Char :=
  ' ' :: 'r' :: 'e' :: 'l' :: '=' :: '"' :: (link.name.toList ++ ['"'])

def text (link : NamedLink) : List Char :=
  '<' :: (link.target.toList ++ '>' :: ';' :: link.parameters)

theorem text_append (link : NamedLink) (rest : List Char) :
    link.text ++ rest = '<' :: (link.target.toList ++ '>' :: ';' :: (link.parameters ++ rest)) := by
  simp [text]

/-! The word for the next page may be written in any case. -/

def IsNext (link : NamedLink) : Prop := link.name.toList.map Char.toLower = "next".toList

def BeginsNext (link : NamedLink) : Prop := "next".toList <+: link.name.toList.map Char.toLower

instance (link : NamedLink) : Decidable link.IsNext := inferInstanceAs (Decidable (_ = _))

instance (link : NamedLink) : Decidable link.BeginsNext :=
  inferInstanceAs (Decidable (_ <+: _))

/-- A header lists links with commas between them, and there may be blanks around a comma. Where no
bracket opens, there is no link. -/
inductive AreListed : List NamedLink → List Char → Prop where
  | none {text : List Char} (unopened : '<' ∉ text) : AreListed [] text
  | last (link : NamedLink) : AreListed [link] link.text
  | more (link : NamedLink) {before after : List Char} {links : List NamedLink} {rest : List Char}
      (blankBefore : ∀ character ∈ before, isBlank character)
      (blankAfter : ∀ character ∈ after, isBlank character) (listed : AreListed links rest) :
      AreListed (link :: links) (link.text ++ (before ++ ',' :: (after ++ rest)))

end NamedLink

namespace Link

theorem afterWord?_isSome (word text : List Char) :
    (afterWord? word text).isSome ↔ word <+: text.map Char.toLower := by
  induction word generalizing text with
  | nil => cases text <;> simp [afterWord?]
  | cons letter word ih =>
      cases text with
      | nil => simp [afterWord?]
      | cons character rest =>
          rw [afterWord?, List.map_cons, List.cons_prefix_cons]
          by_cases same : character.toLower = letter
          · simp [same, ih]
          · simp [same, Ne.symm same]

theorem afterWord?_suffix {word text rest : List Char} (found : afterWord? word text = some rest) :
    rest <:+ text := by
  induction word generalizing text with
  | nil =>
      obtain rfl : text = rest := by cases text <;> simpa [afterWord?] using found
      exact List.suffix_rfl
  | cons letter word ih =>
      cases text with
      | nil => cases found
      | cons character others =>
          simp only [afterWord?] at found
          split at found
          · exact (ih found).trans (List.suffix_cons character others)
          · cases found

theorem beginsNextRelation_of_not_mem {text : List Char} (absent : '=' ∉ text) :
    beginsNextRelation text = false := by
  rw [beginsNextRelation]
  split
  · rfl
  · rename_i rest found
    split
    · rename_i others same
      have suffix : '=' :: others <:+ rest := same ▸ List.dropWhile_suffix isBlank
      have member := (suffix.trans (afterWord?_suffix found)).subset List.mem_cons_self
      exact absurd member absent
    · rfl

theorem isNext_of_not_mem {text : List Char} (absent : '=' ∉ text) : isNext text = false := by
  induction text with
  | nil => rfl
  | cons character rest ih =>
      rw [isNext, beginsNextRelation_of_not_mem absent, ih (List.not_mem_of_not_mem_cons absent)]
      rfl

/-- A word is not longer than a text that ends where none of its letters stands. -/
theorem prefix_append_cons_iff {word text rest : List Char} {stop : Char} (absent : stop ∉ word) :
    word <+: text ++ stop :: rest ↔ word <+: text := by
  constructor
  · rintro ⟨tail, same⟩
    rcases List.append_eq_append_iff.mp same with ⟨more, rfl, _⟩ | ⟨more, rfl, behind⟩
    · exact List.prefix_append word more
    · cases more with
      | nil => rw [List.append_nil]
      | cons first more =>
          obtain rfl := (List.cons.inj behind).1
          simp at absent
  · exact fun before => before.trans (List.prefix_append text _)

theorem isNext_parameters (link : NamedLink) {after : List Char}
    (blank : ∀ character ∈ after, isBlank character) :
    isNext (link.parameters ++ after) ↔ link.BeginsNext := by
  have text : link.parameters ++ after =
      ' ' :: 'r' :: 'e' :: 'l' :: '=' :: '"' :: (link.name.toList ++ '"' :: after) := by
    simp [NamedLink.parameters]
  have named : (afterWord? "next".toList (link.name.toList ++ '"' :: after)).isSome ↔
      link.BeginsNext := by
    rw [afterWord?_isSome, List.map_append, List.map_cons]
    exact prefix_append_cons_iff (by decide)
  have later : isNext (link.name.toList ++ '"' :: after) = false := by
    apply isNext_of_not_mem
    simp only [List.mem_append, List.mem_cons, not_or]
    exact ⟨link.plain.2, by decide, Text.not_mem_of_blank blank rfl⟩
  -- The relation stands behind the first blank, and no other place can begin one.
  have steps (behind : List Char) :
      isNext (' ' :: 'r' :: 'e' :: 'l' :: '=' :: '"' :: behind) =
        ((afterWord? "next".toList behind).isSome || isNext behind) := rfl
  rw [text, steps, later, Bool.or_false, named]

theorem afterBracket?_text (link : NamedLink) {before rest : List Char}
    (blank : ∀ character ∈ before, isBlank character) (stops : Stops (· != ',') rest) :
    afterBracket? (link.target.toList ++ '>' :: ';' :: (link.parameters ++ (before ++ rest))) =
      some (link.target.toList, link.parameters ++ before, rest) := by
  have closes : Stops (· != '>') ('>' :: ';' :: (link.parameters ++ (before ++ rest))) :=
    .cons (by decide)
  have inside := Text.differs_of_not_mem link.closed
  have within : ∀ character ∈ link.parameters ++ before, (character != ',') = true := by
    apply Text.differs_of_not_mem
    simp only [NamedLink.parameters, List.mem_append, List.mem_cons, not_or]
    refine ⟨⟨by decide, by decide, by decide, by decide, by decide, by decide, link.plain.1,
      by decide⟩, Text.not_mem_of_blank blank rfl⟩
  have semicolon (others : List Char) : dropBlanks (';' :: others) = ';' :: others := rfl
  simp only [afterBracket?, closes.dropWhile_append inside, closes.takeWhile_append inside,
    semicolon]
  rw [← List.append_assoc, stops.takeWhile_append within, stops.dropWhile_append within]

/-- What has been read of a link. -/
def Reads (link : NamedLink) (read : List Char × List Char) : Prop :=
  read.1 = link.target.toList ∧ (isNext read.2 ↔ link.BeginsNext)

/-- Enough steps for a text are enough for what follows characters that begin no link. -/
theorem linksWithin_skipped {skipped rest : List Char} {found : List (List Char × List Char)}
    (absent : '<' ∉ skipped)
    (read : ∀ steps, rest.length ≤ steps → linksWithin steps rest = found) :
    ∀ steps, (skipped ++ rest).length ≤ steps → linksWithin steps (skipped ++ rest) = found := by
  induction skipped with
  | nil => exact read
  | cons character skipped ih =>
      intro steps enough
      cases steps with
      | zero => cases enough
      | succ steps =>
          have other : (character == '<') = false := by
            rw [beq_eq_false_iff_ne]
            rintro rfl
            exact absent List.mem_cons_self
          simp only [List.cons_append, linksWithin, other, Bool.false_eq_true, if_false]
          exact ih (List.not_mem_of_not_mem_cons absent) steps (Nat.le_of_succ_le_succ enough)

theorem linksWithin_text (link : NamedLink) {before rest : List Char}
    {found : List (List Char × List Char)} (blank : ∀ character ∈ before, isBlank character)
    (stops : Stops (· != ',') rest)
    (read : ∀ steps, rest.length ≤ steps → linksWithin steps rest = found) :
    ∀ steps, (link.text ++ (before ++ rest)).length ≤ steps →
      linksWithin steps (link.text ++ (before ++ rest)) =
        (link.target.toList, link.parameters ++ before) :: found := by
  intro steps enough
  cases steps with
  | zero => simp [NamedLink.text] at enough
  | succ steps =>
      have later : rest.length ≤ steps := by
        simp only [NamedLink.text_append, List.length_cons, List.length_append] at enough
        omega
      rw [NamedLink.text_append, linksWithin]
      simp only [beq_self_eq_true, if_true, afterBracket?_text link blank stops, read steps later]

theorem reads_text (link : NamedLink) {before : List Char}
    (blank : ∀ character ∈ before, isBlank character) :
    Reads link (link.target.toList, link.parameters ++ before) :=
  ⟨rfl, isNext_parameters link blank⟩

theorem linksWithin_listed {listed : List NamedLink} {text : List Char}
    (lists : NamedLink.AreListed listed text) :
    ∃ found, List.Forall₂ Reads listed found ∧
      ∀ steps, text.length ≤ steps → linksWithin steps text = found := by
  have nothing (steps : Nat) (_ : ([] : List Char).length ≤ steps) : linksWithin steps [] = [] := by
    cases steps <;> rfl
  induction lists with
  | none unopened =>
      have read := linksWithin_skipped unopened nothing
      rw [List.append_nil] at read
      exact ⟨[], .nil, read⟩
  | last link =>
      have blank : ∀ character ∈ ([] : List Char), isBlank character := nofun
      have read := linksWithin_text link blank .nil nothing
      rw [List.append_nil, List.append_nil] at read
      exact ⟨_, .cons (reads_text link blank) .nil, read⟩
  | @more link before after links rest blankBefore blankAfter listed ih =>
      obtain ⟨found, reads, read⟩ := ih
      have absent : '<' ∉ ',' :: after := by
        rw [List.mem_cons, not_or]
        exact ⟨by decide, Text.not_mem_of_blank blankAfter rfl⟩
      have later := linksWithin_skipped absent read
      exact ⟨_, .cons (reads_text link blankBefore) reads,
        linksWithin_text link blankBefore (.cons (by decide)) later⟩

/-- The link that is followed is the first one whose name begins with the word for the next page. -/
theorem next?_listed {listed : List NamedLink} {header : String}
    (lists : NamedLink.AreListed listed header.toList) :
    next? header = (listed.find? fun link => link.BeginsNext).map (·.target) := by
  obtain ⟨found, reads, read⟩ := linksWithin_listed lists
  rw [next?, links, read _ le_rfl]
  clear read lists
  induction reads with
  | nil => rfl
  | @cons link read links others reads _ ih =>
      rw [List.find?_cons, List.find?_cons]
      by_cases next : link.BeginsNext
      · simp [next, reads.2.mpr next, reads.1]
      · simpa [next, mt reads.2.mp next] using ih

end Link

end LedgerRules
