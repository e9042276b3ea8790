import LedgerRules.Proofs.Service.LinkParameter

/-!
Headers that list links with parameters, and the link that is followed. What is read of a link's
parameters ends at the first comma; what stands behind it is searched for further links.
-/

namespace LedgerRules

open Text (isBlank dropBlanks Stops)

namespace LinkParameter

open Link

variable {parameter : LinkParameter} {text : List Char}

theorem mem_written {character : Char} (written : parameter.IsWritten text)
    (member : character ∈ text) (solid : isBlank character = false) (plain : character ≠ '=')
    (unquoted : character ≠ '"' ∧ character ≠ '\\') :
    character ∈ parameter.name.toList ∨ character ∈ parameter.value.toList := by
  obtain ⟨blankBefore, blankAfter, blankGap⟩ := written
  simp only [List.mem_append, List.mem_cons, Text.not_mem_of_blank blankBefore solid,
    Text.not_mem_of_blank blankAfter solid, Text.not_mem_of_blank blankGap solid, plain, false_or,
    or_false] at member
  refine member.imp_right fun within => ?_
  rw [valueText] at within
  split at within
  · simpa [unquoted.1, mem_escaped unquoted.2] using within
  · exact within

theorem isNext_whole (written : parameter.IsWritten text)
    (whole : ',' ∉ parameter.value.toList) {gap : List Char}
    (blank : ∀ character ∈ gap, isBlank character) :
    isNext (text ++ gap) = true ↔ parameter.SeemsNext ∨ MentionsNext parameter.shown := by
  obtain ⟨blankBefore, blankAfter, blankGap⟩ := written
  by_cases quoted : parameter.quoted = true
  · have closes : Closes ('"' :: gap) := ⟨gap, blank, .inr rfl⟩
    have read := isNext_quoted parameter blankBefore blankAfter blankGap closes
    rw [shown_eq_self whole] at read ⊢
    rw [valueText, if_pos quoted]
    simpa using read
  · have unquoted : parameter.quoted = false := by simpa using quoted
    have read := isNext_plain parameter blankBefore blankAfter blankGap unquoted blank
    rw [valueText, if_neg quoted]
    simpa using read

theorem comma_absent (written : parameter.IsWritten text)
    (whole : ',' ∉ parameter.value.toList) : ',' ∉ text := by
  intro member
  rcases mem_written written member rfl (by decide) (by decide) with name | value
  · exact comma_not_mem_name parameter name
  · exact whole value

theorem cut_written (written : parameter.IsWritten text) (comma : ',' ∈ parameter.value.toList)
    (behind : List Char) :
    ∃ skipped, (text ++ behind).dropWhile (· != ',') = skipped ++ behind ∧
      ('<' ∉ parameter.value.toList.dropWhile (· != ',') → '<' ∉ skipped) ∧
      (isNext ((text ++ behind).takeWhile (· != ',')) = true ↔
        parameter.SeemsNext ∨ MentionsNext parameter.shown) := by
  obtain ⟨front, rest, split, absent⟩ := List.eq_append_cons_of_mem comma
  have stops (others : List Char) : Stops (· != ',') (',' :: others) := .cons (by decide)
  have shown := shown_of_comma split absent
  have hidden : parameter.value.toList.dropWhile (· != ',') = ',' :: rest := by
    rw [split]
    exact (stops rest).dropWhile_append (Text.differs_of_not_mem absent)
  obtain @⟨before, after, gap, blankBefore, blankAfter, blankGap⟩ := written
  have read := isNext_quoted parameter blankBefore blankAfter blankGap
    ⟨[], by simp, .inl rfl⟩
  rw [List.append_nil, shown] at read
  have value : parameter.valueText = '"' :: (escaped front ++ ',' :: (escaped rest ++ ['"'])) := by
    rw [valueText, if_pos (quoted_of_comma comma), split, escaped_append, escaped_cons]
    simp
  have regrouped : before ++ parameter.name.toList ++ after ++
        '=' :: (gap ++ parameter.valueText) ++ behind =
      before ++ parameter.name.toList ++ after ++ '=' :: (gap ++ '"' :: escaped front) ++
        ',' :: (escaped rest ++ '"' :: behind) := by
    rw [value]
    simp
  have differs : ∀ character ∈ before ++ parameter.name.toList ++ after ++
      '=' :: (gap ++ '"' :: escaped front), (character != ',') = true := by
    apply Text.differs_of_not_mem
    simp only [List.mem_append, List.mem_cons, not_or, mem_escaped (show ',' ≠ '\\' by decide)]
    exact ⟨⟨⟨Text.not_mem_of_blank blankBefore rfl, comma_not_mem_name parameter⟩,
      Text.not_mem_of_blank blankAfter rfl⟩, by decide, Text.not_mem_of_blank blankGap rfl,
      by decide, absent⟩
  refine ⟨',' :: (escaped rest ++ ['"']), ?_, ?_, ?_⟩
  · rw [regrouped, (stops _).dropWhile_append differs]
    simp
  · intro unopened
    rw [hidden] at unopened
    simpa [mem_escaped] using unopened
  · rw [regrouped, (stops _).takeWhile_append differs, shown]
    exact read

def seen : List LinkParameter → List LinkParameter
  | [] => []
  | parameter :: rest =>
      parameter :: if ',' ∈ parameter.value.toList then [] else seen rest

def AreUnopened (parameters : List LinkParameter) : Prop :=
  ∀ before parameter after, parameters = before ++ parameter :: after →
    ',' ∈ parameter.value.toList →
      '<' ∉ parameter.value.toList.dropWhile (· != ',') ∧
        ∀ other ∈ after, '<' ∉ other.value.toList

theorem AreUnopened.rest {parameters : List LinkParameter}
    (unopened : AreUnopened (parameter :: parameters)) : AreUnopened parameters := by
  rintro before other after rfl
  exact unopened (parameter :: before) other after rfl

variable {parameters : List LinkParameter}

theorem areUnopened_of_not_mem
    (absent : ∀ parameter ∈ parameters, '<' ∉ parameter.value.toList) :
    AreUnopened parameters := by
  rintro before parameter after rfl -
  obtain ⟨-, later⟩ := List.forall_mem_append.mp absent
  obtain ⟨own, others⟩ := List.forall_mem_cons.mp later
  exact ⟨fun member => own ((List.dropWhile_suffix _).subset member), others⟩

theorem bracket_absent (written : AreWritten parameters text)
    (absent : ∀ parameter ∈ parameters, '<' ∉ parameter.value.toList) : '<' ∉ text := by
  induction written with
  | none => simp
  | more blank own _ ih =>
      obtain ⟨ownAbsent, others⟩ := List.forall_mem_cons.mp absent
      simp only [List.mem_append, List.mem_cons, not_or]
      refine ⟨Text.not_mem_of_blank blank rfl, by decide, fun member => ?_, ih others⟩
      rcases mem_written own member rfl (by decide) (by decide) with name | value
      · exact (LinkParameter.named _).2 _ name |>.2.2 rfl
      · exact ownAbsent value

theorem differs_of_blank {gap : List Char} (blank : ∀ character ∈ gap, isBlank character) :
    ∀ character ∈ gap, (character != ',') = true :=
  Text.differs_of_not_mem (Text.not_mem_of_blank blank rfl)

section Reading

variable {gap stop : List Char} (blank : ∀ character ∈ gap, isBlank character)
  (stops : Stops (· != ',') stop)

include blank stops

theorem comma_stops : (gap ++ stop).takeWhile (· != ',') = gap ∧
    (gap ++ stop).dropWhile (· != ',') = stop := by
  have differs := differs_of_blank blank
  exact ⟨stops.takeWhile_append differs, stops.dropWhile_append differs⟩

theorem exists_semicolon (written : AreWritten parameters text) :
    ∃ front rest, (text ++ (gap ++ stop)).takeWhile (· != ',') = front ++ rest ∧
      (∀ character ∈ front, isBlank character) ∧ Stops (· != ';') rest := by
  cases written with
  | none => exact ⟨gap, [], by simpa using (comma_stops blank stops).1, blank, .nil⟩
  | @more _ _ front text rest blankFront _ _ =>
      refine ⟨front, ';' :: (text ++ rest ++ (gap ++ stop)).takeWhile (· != ','), ?_, blankFront,
        .cons rfl⟩
      have differs := differs_of_blank blankFront
      rw [List.append_assoc, List.takeWhile_append_of_pos differs, List.cons_append,
        List.takeWhile_cons_of_pos (by decide)]

theorem read_written (written : AreWritten parameters text) :
    ∃ skipped, (text ++ (gap ++ stop)).dropWhile (· != ',') = skipped ++ stop ∧
      (AreUnopened parameters → '<' ∉ skipped) ∧
      (isNext ((text ++ (gap ++ stop)).takeWhile (· != ',')) = true ↔
        ∃ parameter ∈ seen parameters, parameter.SeemsNext ∨ MentionsNext parameter.shown) := by
  induction written with
  | none =>
      refine ⟨[], (comma_stops blank stops).2, fun _ => List.not_mem_nil, ?_⟩
      have nothing : isNext gap = false := by simpa [isNext] using isNext_append_blanks blank []
      rw [List.nil_append, (comma_stops blank stops).1, nothing]
      simp [seen]
  | @more parameter parameters front text rest blankFront own others ih =>
      have differs := differs_of_blank blankFront
      have regrouped : front ++ ';' :: (text ++ rest) ++ (gap ++ stop) =
          front ++ ';' :: (text ++ (rest ++ (gap ++ stop))) := by simp
      have skipped (others : List Char) : isNext (';' :: others) = isNext others := rfl
      rw [regrouped, List.dropWhile_append_of_pos differs, List.takeWhile_append_of_pos differs,
        List.dropWhile_cons_of_pos (by decide), List.takeWhile_cons_of_pos (by decide),
        isNext_append_blanks blankFront, skipped]
      -- The first comma cuts a value, and everything behind it is skipped.
      by_cases comma : ',' ∈ parameter.value.toList
      · obtain ⟨cut, dropped, closed, reads⟩ :=
          cut_written own comma (rest ++ (gap ++ stop))
        refine ⟨cut ++ rest ++ gap, by rw [dropped]; simp, ?_, ?_⟩
        · intro unopened
          obtain ⟨first, later⟩ := unopened [] parameter parameters rfl comma
          simp only [List.mem_append, not_or]
          exact ⟨⟨closed first, bracket_absent others later⟩, Text.not_mem_of_blank blank rfl⟩
        · rw [reads]
          simp [seen, comma]
      · obtain ⟨cut, dropped, closed, reads⟩ := ih
        have inside := Text.differs_of_not_mem (comma_absent own comma)
        refine ⟨cut, by rw [List.dropWhile_append_of_pos inside, dropped],
          fun unopened => closed unopened.rest, ?_⟩
        obtain ⟨blanks, semicolon, split, blankToo, begins⟩ := exists_semicolon blank stops others
        rw [split, isNext_append_blanks blankToo] at reads
        rw [List.takeWhile_append_of_pos inside, split, ← List.append_assoc,
          isNext_append_stops begins, Bool.or_eq_true, isNext_whole own comma blankToo, reads]
        simp [seen, comma]

theorem read_body (written : AreWritten parameters text) (filled : parameters ≠ []) :
    ∃ front body skipped, text ++ (gap ++ stop) = front ++ ';' :: body ∧
      (∀ character ∈ front, isBlank character) ∧
      body.dropWhile (· != ',') = skipped ++ stop ∧ (AreUnopened parameters → '<' ∉ skipped) ∧
      (isNext (body.takeWhile (· != ',')) = true ↔
        ∃ parameter ∈ seen parameters, parameter.SeemsNext ∨ MentionsNext parameter.shown) := by
  obtain ⟨skipped, dropped, absent, reads⟩ := read_written blank stops written
  cases written with
  | none => exact absurd rfl filled
  | @more _ _ front own rest blankFront _ _ =>
      have split : front ++ ';' :: (own ++ rest) ++ (gap ++ stop) =
          front ++ ';' :: (own ++ rest ++ (gap ++ stop)) := by simp
      have differs := differs_of_blank blankFront
      have semicolon (behind : List Char) : isNext (';' :: behind) = isNext behind := rfl
      rw [split, List.dropWhile_append_of_pos differs,
        List.dropWhile_cons_of_pos (by decide)] at dropped
      rw [split, List.takeWhile_append_of_pos differs, List.takeWhile_cons_of_pos (by decide),
        isNext_append_blanks blankFront, semicolon] at reads
      exact ⟨front, _, skipped, split, blankFront, dropped, absent, reads⟩

end Reading

end LinkParameter

structure LinkValue where
  target : String
  parameters : List LinkParameter
  enclosed : target ≠ "" ∧ '>' ∉ target.toList

namespace LinkValue

inductive IsWritten (link : LinkValue) : List Char → Prop where
  | enclosed {text : List Char} (written : LinkParameter.AreWritten link.parameters text) :
      IsWritten link ('<' :: (link.target.toList ++ '>' :: text))

inductive AreWritten : List LinkValue → List Char → Prop where
  | none {gap : List Char} (blank : ∀ character ∈ gap, isBlank character) : AreWritten [] gap
  | last {link : LinkValue} {before text after : List Char}
      (blankBefore : ∀ character ∈ before, isBlank character) (written : link.IsWritten text)
      (blankAfter : ∀ character ∈ after, isBlank character) :
      AreWritten [link] (before ++ (text ++ after))
  | more {link : LinkValue} {links : List LinkValue} {before text after rest : List Char}
      (blankBefore : ∀ character ∈ before, isBlank character) (written : link.IsWritten text)
      (blankAfter : ∀ character ∈ after, isBlank character) (others : AreWritten links rest) :
      AreWritten (link :: links) (before ++ (text ++ (after ++ ',' :: rest)))

def relation? (link : LinkValue) : Option LinkParameter :=
  link.parameters.find? fun parameter => parameter.IsRelation

def ListsNext (link : LinkValue) : Prop := ∃ parameter ∈ link.relation?, parameter.ListsNext

/-- What a link is followed for: a parameter that seems to name the next page, or mentions it. -/
def LooksNext (link : LinkValue) : Prop :=
  ∃ parameter ∈ LinkParameter.seen link.parameters,
    parameter.SeemsNext ∨ Link.MentionsNext parameter.shown

instance (link : LinkValue) : Decidable link.ListsNext :=
  inferInstanceAs (Decidable (∃ parameter ∈ link.relation?, parameter.ListsNext))

instance (link : LinkValue) : Decidable link.LooksNext :=
  inferInstanceAs (Decidable (∃ parameter ∈ LinkParameter.seen link.parameters,
    parameter.SeemsNext ∨ Link.MentionsNext parameter.shown))

end LinkValue

namespace Link

section Closing

variable {target rest : List Char} (closed : '>' ∉ target)

include closed

theorem afterBracket?_semicolon {others : List Char} (begins : dropBlanks rest = ';' :: others) :
    afterBracket? (target ++ '>' :: rest) =
      some (target, others.takeWhile (· != ','), others.dropWhile (· != ',')) := by
  have closes : Stops (· != '>') ('>' :: rest) := .cons (by decide)
  have inside := Text.differs_of_not_mem closed
  simp only [afterBracket?, closes.dropWhile_append inside, closes.takeWhile_append inside, begins]

theorem afterBracket?_bare (bare : Stops (· == ';') (dropBlanks rest)) :
    afterBracket? (target ++ '>' :: rest) = none := by
  have closes : Stops (· != '>') ('>' :: rest) := .cons (by decide)
  have inside := Text.differs_of_not_mem closed
  simp only [afterBracket?, closes.dropWhile_append inside]
  split
  next others begins =>
    rw [begins] at bare
    cases bare ';' rfl
  · rfl

end Closing

theorem length_of_afterBracket? {text target parameters rest : List Char}
    (read : afterBracket? text = some (target, parameters, rest)) : rest.length ≤ text.length := by
  rw [afterBracket?] at read
  split at read
  next behind closed =>
    have outer := (List.dropWhile_suffix (l := text) (· != '>')).length_le
    rw [closed, List.length_cons] at outer
    have inner := (List.dropWhile_suffix (l := behind) isBlank).length_le
    split at read
    next body begins =>
      obtain ⟨-, -, rfl⟩ := read
      have last := (List.dropWhile_suffix (l := body) (· != ',')).length_le
      rw [dropBlanks] at begins
      rw [begins, List.length_cons] at inner
      omega
    · cases read
  · cases read

theorem linksWithin_more {text : List Char} {steps more : Nat} (enough : text.length ≤ steps)
    (further : steps ≤ more) : linksWithin steps text = linksWithin more text := by
  induction steps generalizing text more with
  | zero =>
      rw [List.eq_nil_of_length_eq_zero (Nat.le_zero.mp enough)]
      cases more <;> rfl
  | succ steps ih =>
      obtain ⟨more, rfl⟩ := Nat.exists_eq_succ_of_ne_zero (Nat.ne_zero_of_lt further)
      have later := Nat.le_of_succ_le_succ further
      cases text with
      | nil => rfl
      | cons character rest =>
          have shorter := Nat.le_of_succ_le_succ enough
          rw [linksWithin, linksWithin]
          split
          next target parameters remaining read =>
            have within : remaining.length ≤ rest.length := by
              split at read
              · exact length_of_afterBracket? read
              · cases read
            rw [ih (within.trans shorter) later]
          · exact ih shorter later

theorem linksWithin_eq_links {text : List Char} {steps : Nat} (enough : text.length ≤ steps) :
    linksWithin steps text = links text :=
  (linksWithin_more le_rfl enough).symm

theorem links_skipped {skipped : List Char} (absent : '<' ∉ skipped) (rest : List Char) :
    links (skipped ++ rest) = links rest :=
  linksWithin_skipped absent (fun _ => linksWithin_eq_links) _ le_rfl

theorem links_bare {front rest : List Char} (closed : '>' ∉ front)
    (bare : Stops (· == ';') (dropBlanks rest)) : links (front ++ '>' :: rest) = links rest := by
  induction front with
  | nil => exact links_skipped (show '<' ∉ ['>'] by decide) rest
  | cons character front ih =>
      have others := List.not_mem_of_not_mem_cons closed
      rw [← ih others, List.cons_append, links, List.length_cons, linksWithin,
        afterBracket?_bare others bare, ite_self]
      exact linksWithin_eq_links le_rfl

theorem links_closed {target front body : List Char} (closed : '>' ∉ target)
    (blank : ∀ character ∈ front, isBlank character) :
    links ('<' :: (target ++ '>' :: (front ++ ';' :: body))) =
      (target, body.takeWhile (· != ',')) :: links (body.dropWhile (· != ',')) := by
  have begins : dropBlanks (front ++ ';' :: body) = ';' :: body :=
    dropBlanks_append blank (.cons rfl)
  have shorter : (body.dropWhile (· != ',')).length ≤
      (target ++ '>' :: (front ++ ';' :: body)).length := by
    have cut := (List.dropWhile_suffix (l := body) (· != ',')).length_le
    simp only [List.length_cons, List.length_append]
    omega
  rw [links, List.length_cons]
  simp only [linksWithin, beq_self_eq_true, if_true, afterBracket?_semicolon closed begins,
    linksWithin_eq_links shorter]

def firstNext? (found : List (List Char × List Char)) : Option String :=
  (found.find? fun link => isNext link.2).map fun link => String.ofList link.1

/-- A link that looks like one to the next page is followed; behind any other, so that it hides
nothing, the search goes on. -/
theorem firstNext?_written {link : LinkValue} {text gap stop : List Char}
    (written : link.IsWritten text)
    (unopened : ¬link.LooksNext → LinkParameter.AreUnopened link.parameters)
    (blank : ∀ character ∈ gap, isBlank character) (stops : Stops (· != ',') stop) :
    firstNext? (links (text ++ (gap ++ stop))) =
      if link.LooksNext then some link.target else firstNext? (links stop) := by
  obtain @⟨text, parameters⟩ := written
  have closed := link.enclosed.2
  have regrouped : '<' :: (link.target.toList ++ '>' :: text) ++ (gap ++ stop) =
      '<' :: (link.target.toList ++ '>' :: (text ++ (gap ++ stop))) := by simp
  rw [regrouped]
  by_cases filled : link.parameters = []
  · rw [filled] at parameters
    cases parameters
    have comma (character : Char) (head : character ∈ stop.head?) : character = ',' := by
      simpa using stops character head
    have bare : Stops (· == ';') (dropBlanks (gap ++ stop)) := by
      have solid : Stops isBlank stop := fun character head => by rw [comma character head]; rfl
      rw [dropBlanks_append blank solid]
      exact fun character head => by rw [comma character head]; rfl
    have outside : '>' ∉ '<' :: link.target.toList := by
      rw [List.mem_cons, not_or]
      exact ⟨by decide, closed⟩
    have other : ¬link.LooksNext := by
      simp [LinkValue.LooksNext, filled, LinkParameter.seen]
    rw [if_neg other, ← links_skipped (Text.not_mem_of_blank blank rfl) stop]
    exact congrArg firstNext? (links_bare outside bare)
  · obtain ⟨front, body, skipped, split, blankFront, dropped, absent, reads⟩ :=
      LinkParameter.read_body blank stops parameters filled
    change _ ↔ link.LooksNext at reads
    rw [split, links_closed closed blankFront, firstNext?, List.find?_cons, dropped]
    by_cases next : link.LooksNext
    · simp [next, reads.mpr next]
    · rw [if_neg next, Bool.eq_false_iff.mpr (mt reads.mp next),
        links_skipped (absent (unopened next))]
      rfl

/-- The link that is followed, whatever the links and their parameters are. -/
theorem next?_written {links : List LinkValue} {header : String}
    (written : LinkValue.AreWritten links header.toList)
    (unopened : ∀ link ∈ links.takeWhile fun link => !decide link.LooksNext,
      LinkParameter.AreUnopened link.parameters) :
    next? header = (links.find? fun link => link.LooksNext).map (·.target) := by
  change firstNext? (Link.links header.toList) = _
  generalize header.toList = text at written
  have unbracketed {gap : List Char} (blank : ∀ character ∈ gap, isBlank character) : '<' ∉ gap :=
    Text.not_mem_of_blank blank rfl
  induction written with
  | @none gap blank =>
      have nothing := links_skipped (unbracketed blank) []
      rw [List.append_nil] at nothing
      rw [nothing]
      rfl
  | @last link before text after blankBefore own blankAfter =>
      have ownUnopened (other : ¬link.LooksNext) : LinkParameter.AreUnopened link.parameters :=
        unopened link (by simp [other])
      have read := firstNext?_written own ownUnopened blankAfter .nil
      rw [List.append_nil] at read
      rw [links_skipped (unbracketed blankBefore), read, List.find?_cons]
      by_cases next : link.LooksNext <;> simp [next, firstNext?, Link.links, linksWithin]
  | @more link links before text after rest blankBefore own blankAfter _ ih =>
      have ownUnopened (other : ¬link.LooksNext) : LinkParameter.AreUnopened link.parameters :=
        unopened link (by simp [other])
      have read := firstNext?_written own ownUnopened blankAfter
        (.cons (by decide) : Stops (· != ',') (',' :: rest))
      have behind := links_skipped (show '<' ∉ [','] by decide) rest
      rw [List.singleton_append] at behind
      rw [links_skipped (unbracketed blankBefore), read, behind, List.find?_cons]
      by_cases next : link.LooksNext
      · simp [next]
      · have later := ih fun other member => unopened other (by simp [next, member])
        simp [next, later]

end Link

end LedgerRules
