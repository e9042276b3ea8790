import LedgerRules.Proofs.Text.Split
import LedgerRules.Service.Request

/-!
URLs of the web: how they are read and written, and that they are requested as they are. What is
behind the host can be of any kind of characters; at least none of them is blank.
-/

namespace LedgerRules.Url

open Text (isBlank splitOnce Stops)

/-! Texts of one kind of characters. -/

abbrev Consists (kind : Char → Prop) (text : List Char) : Prop := ∀ character ∈ text, kind character

def IsSolid (text : List Char) : Prop := Consists (isBlank · = false) text

namespace Consists

variable {kind : Char → Prop} {left right : List Char}

theorem nil : Consists kind [] := nofun

theorem append (first : Consists kind left) (second : Consists kind right) :
    Consists kind (left ++ right) :=
  List.forall_mem_append.mpr ⟨first, second⟩

theorem cons {character : Char} (own : kind character) (rest : Consists kind right) :
    Consists kind (character :: right) :=
  List.forall_mem_cons.mpr ⟨own, rest⟩

theorem subset (whole : Consists kind right) (within : left ⊆ right) : Consists kind left :=
  fun character member => whole character (within member)

end Consists

theorem isBlank_of_visible {character : Char} (low : 0x21 ≤ character.toNat)
    (high : character.toNat ≤ 0x7E) : isBlank character = false := by
  simp only [isBlank, Bool.or_eq_false_iff, Bool.and_eq_false_iff, decide_eq_false_iff_not,
    beq_eq_false_iff_ne]
  omega

theorem isBlank_of_isVisible {character : Char} (visible : isVisible character) :
    isBlank character = false := by
  simp only [isVisible, Bool.and_eq_true, decide_eq_true_eq] at visible
  exact isBlank_of_visible (by omega) (by omega)

theorem visible_of_isAlphanum {character : Char} (word : character.isAlphanum) :
    0x30 ≤ character.toNat ∧ character.toNat ≤ 0x7A := by
  simp only [Char.isAlphanum, Char.isAlpha, Char.isUpper, Char.isLower, Char.isDigit,
    Bool.or_eq_true, Bool.and_eq_true, decide_eq_true_eq, UInt32.le_iff_toNat_le] at word
  have same : character.val.toNat = character.toNat := rfl
  simp only [same] at word
  rcases word with (⟨low, high⟩ | ⟨low, high⟩) | ⟨low, high⟩ <;>
    exact ⟨le_trans (by decide) low, le_trans high (by decide)⟩

theorem solid_of_letters {word : List Char} (letters : ∀ character ∈ word, character.isAlpha) :
    IsSolid word := by
  intro character member
  have word : character.isAlphanum := by simp [Char.isAlphanum, letters character member]
  obtain ⟨low, high⟩ := visible_of_isAlphanum word
  exact isBlank_of_visible (by omega) (by omega)

/-! URLs of the web. -/

def webSchemes : List (List Char) := [['h', 't', 't', 'p'], ['h', 't', 't', 'p', 's']]

/-- Names a host, and maybe its port: nothing in it ends it, and it is not refused. -/
structure IsAuthority (authority : List Char) : Prop where
  nonempty : authority ≠ []
  solid : IsSolid authority
  closed : ∀ character ∈ authority, isPathEnd character = false
  brackets : checkBrackets authority = .ok ()
  allowed : checkAuthority authority = .ok ()

def located (scheme authority rest : List Char) : List Char :=
  scheme ++ ':' :: '/' :: '/' :: (authority ++ rest)

/-- What follows the host of a URL: nothing, a path, or what else can stand behind a path. -/
structure IsTail (kind : Char → Prop) (rest : List Char) : Prop where
  consists : Consists kind rest
  begins : Stops (!isPathEnd ·) rest

inductive IsWebUrl (kind : Char → Prop) : List Char → Prop where
  | located {scheme authority rest : List Char} (web : scheme.map Char.toLower ∈ webSchemes)
      (host : IsAuthority authority) (tail : IsTail kind rest) :
      IsWebUrl kind (located scheme authority rest)

theorem IsTail.solid {rest : List Char} (tail : IsTail (isVisible ·) rest) :
    IsTail (isBlank · = false) rest :=
  ⟨fun character member => isBlank_of_isVisible (tail.consists character member), tail.begins⟩

theorem IsWebUrl.solid {text : List Char} (url : IsWebUrl (isVisible ·) text) :
    IsWebUrl (isBlank · = false) text := by
  obtain ⟨web, host, tail⟩ := url
  exact .located web host tail.solid

theorem isAlpha_of_toLower {character : Char} (lower : character.toLower.isLower) :
    character.isAlpha := by
  simp only [Char.toLower] at lower
  split at lower
  · rename_i upper
    simpa [Char.isAlpha, Char.isUpper] using .inl upper
  · simp [Char.isAlpha, lower]

theorem letters_of_web {scheme : List Char} (web : scheme.map Char.toLower ∈ webSchemes) :
    (∀ character ∈ scheme, character.isAlpha) ∧
      ∃ first rest, scheme = first :: rest ∧ first.toLower = 'h' := by
  constructor
  · intro character member
    apply isAlpha_of_toLower
    have lower : ∀ name ∈ webSchemes, name.all Char.isLower = true := by decide
    exact List.all_eq_true.mp (lower _ web) _ (List.mem_map_of_mem member)
  · have begins : ∀ name ∈ webSchemes, name.head? = some 'h' := by decide
    have first := begins _ web
    cases scheme with
    | nil => cases first
    | cons letter rest => exact ⟨letter, rest, rfl, Option.some.inj first⟩

theorem isIn_of_web {scheme : List Char} (web : scheme ∈ webSchemes) :
    isIn parameterSchemes scheme = true ∧ isIn authoritySchemes scheme = true ∧
      isIn relativeSchemes scheme = true := by
  have each : ∀ name ∈ webSchemes, isIn parameterSchemes name = true ∧
      isIn authoritySchemes name = true ∧ isIn relativeSchemes name = true := by decide
  exact each _ web

theorem isEmpty_of_web {scheme : List Char} (web : scheme ∈ webSchemes) :
    scheme.isEmpty = false := by
  have each : ∀ name ∈ webSchemes, name.isEmpty = false := by decide
  exact each _ web

theorem lower_of_web {scheme : List Char} (web : scheme ∈ webSchemes) :
    scheme.map Char.toLower = scheme := by
  have each : ∀ name ∈ webSchemes, name.map Char.toLower = name := by decide
  exact each _ web

def withoutBreaks (text : List Char) : List Char :=
  text.filter fun character => character != '\t' && character != '\r' && character != '\n'

theorem withoutBreaks_append (left right : List Char) :
    withoutBreaks (left ++ right) = withoutBreaks left ++ withoutBreaks right :=
  List.filter_append left right

theorem withoutBreaks_eq_self_iff {text : List Char} :
    withoutBreaks text = text ↔ ∀ mark ∈ ['\t', '\r', '\n'], mark ∉ text := by
  have kept (character : Char) :
      (character != '\t' && character != '\r' && character != '\n') = true ↔
        character ∉ ['\t', '\r', '\n'] := by
    simp [and_assoc]
  rw [withoutBreaks, List.filter_eq_self]
  simp only [kept]
  exact ⟨fun outside mark member inside => outside mark inside member,
    fun absent character member inside => absent character inside member⟩

theorem withoutBreaks_eq_self {text : List Char} (solid : IsSolid text) :
    withoutBreaks text = text := by
  have blank : ∀ mark ∈ ['\t', '\r', '\n'], isBlank mark = true := by simp [isBlank]
  rw [withoutBreaks_eq_self_iff]
  intro mark member inside
  exact Bool.false_ne_true ((solid mark inside).symm.trans (blank mark member))

theorem stops_withoutBreaks {rest : List Char} (begins : Stops (!isPathEnd ·) rest) :
    Stops (!isPathEnd ·) (withoutBreaks rest) := by
  cases rest with
  | nil => exact .nil
  | cons character rest =>
      have ends : isPathEnd character = true := by simpa using begins character rfl
      have differs {blank : Char} (open_ : isPathEnd blank = false) :
          (character != blank) = true := by
        rw [bne_iff_ne]
        rintro rfl
        rw [open_] at ends
        cases ends
      rw [withoutBreaks, List.filter_cons_of_pos]
      · exact .cons (by simp [ends])
      · rw [differs (by decide), differs (by decide), differs (by decide)]
        rfl

theorem clean_eq {text : List Char}
    (begins : Stops (fun character => character.toNat ≤ 0x20) text) :
    clean text = withoutBreaks text := by
  rw [clean, begins.dropWhile_eq_self, withoutBreaks]

/-! Taking URLs apart. -/

def withTail (scheme authority rest : List Char) : Url :=
  let (before, fragment) := splitOnce '#' rest
  let (path, query) := splitOnce '?' before
  let (path, parameters) := splitParameters path
  ⟨scheme, authority, path, parameters, query.getD [], fragment.getD []⟩

theorem solid_located {scheme authority rest : List Char}
    (web : scheme.map Char.toLower ∈ webSchemes) (host : IsAuthority authority)
    (tail : IsTail (isBlank · = false) rest) : IsSolid (located scheme authority rest) := by
  apply (solid_of_letters (letters_of_web web).1).append
  iterate 3 refine Consists.cons (by decide) ?_
  exact host.solid.append tail.consists

theorem splitScheme_located {scheme : List Char} (web : scheme.map Char.toLower ∈ webSchemes)
    (standard authority rest : List Char) :
    splitScheme standard (located scheme authority rest) =
      (scheme.map Char.toLower, '/' :: '/' :: (authority ++ rest)) := by
  obtain ⟨letters, first, others, rfl, _⟩ := letters_of_web web
  have absent : ':' ∉ first :: others := fun member => absurd (letters _ member) (by decide)
  have allowed : (first :: others).all isSchemeCharacter = true := by
    rw [List.all_eq_true]
    intro character member
    simp [isSchemeCharacter, Char.isAlphanum, letters character member]
  have split := Text.splitOnce_separated absent ('/' :: '/' :: (authority ++ rest))
  unfold splitScheme located
  rw [split]
  simp only [List.cons_append, letters first List.mem_cons_self, allowed, Bool.and_self, if_true]

theorem splitAuthority_located {authority rest : List Char} (host : IsAuthority authority)
    (begins : Stops (!isPathEnd ·) rest) :
    splitAuthority ('/' :: '/' :: (authority ++ rest)) = .ok (authority, rest) := by
  have open_ : ∀ character ∈ authority, (!isPathEnd character) = true := by
    intro character member
    rw [host.closed character member]
    rfl
  simp only [splitAuthority, begins.takeWhile_append open_, begins.dropWhile_append open_,
    host.brackets]
  rfl

theorem located_append (scheme authority rest : List Char) :
    located scheme authority rest = located scheme authority [] ++ rest := by
  simp [located]

theorem clean_located {scheme authority : List Char} (web : scheme.map Char.toLower ∈ webSchemes)
    (host : IsAuthority authority) (rest : List Char) :
    clean (located scheme authority rest) = located scheme authority (withoutBreaks rest) := by
  have begins : Stops (fun character => character.toNat ≤ 0x20)
      (located scheme authority rest) := by
    obtain ⟨letters, first, others, rfl, _⟩ := letters_of_web web
    have word : first.isAlphanum := by simp [Char.isAlphanum, letters first List.mem_cons_self]
    have low := (visible_of_isAlphanum word).1
    exact .cons (decide_eq_false (by omega))
  have root : IsSolid (located scheme authority []) :=
    solid_located web host ⟨.nil, .nil⟩
  rw [clean_eq begins, located_append, withoutBreaks_append, withoutBreaks_eq_self root,
    ← located_append]

theorem read_located_cleaned {scheme authority rest : List Char}
    (web : scheme.map Char.toLower ∈ webSchemes) (host : IsAuthority authority)
    (begins : Stops (!isPathEnd ·) rest) (standard : List Char) :
    read standard (located scheme authority rest) =
      .ok (withTail (scheme.map Char.toLower) authority (withoutBreaks rest)) := by
  simp only [read, clean_located web host, splitScheme_located web,
    splitAuthority_located host (stops_withoutBreaks begins)]
  simp only [bind, Except.bind, host.allowed, (isIn_of_web web).1, if_true]
  rfl

theorem read_located {scheme authority rest : List Char}
    (web : scheme.map Char.toLower ∈ webSchemes) (host : IsAuthority authority)
    (tail : IsTail (isBlank · = false) rest) (standard : List Char) :
    read standard (located scheme authority rest) =
      .ok (withTail (scheme.map Char.toLower) authority rest) := by
  rw [read_located_cleaned web host tail.begins, withoutBreaks_eq_self tail.consists]

theorem read_slash {standard : List Char} (web : standard ∈ webSchemes) (rest : List Char) :
    read standard ('/' :: rest) = (splitAuthority ('/' :: withoutBreaks rest) >>=
      fun (authority, rest) => do
        checkAuthority authority
        return withTail standard authority rest) := by
  have cleaned : clean ('/' :: rest) = '/' :: withoutBreaks rest := clean_eq (.cons (by decide))
  have scheme : splitScheme standard ('/' :: withoutBreaks rest) =
      (standard, '/' :: withoutBreaks rest) := by
    unfold splitScheme
    split
    · rename_i same _
      obtain ⟨rfl, -⟩ := List.cons.inj same
      rfl
    · rfl
  simp only [read, cleaned, scheme, (isIn_of_web web).1, if_true, withTail]

theorem read_rooted {standard text : List Char} (web : standard ∈ webSchemes)
    (solid : IsSolid text) (rooted : text.head? = some '/') :
    read standard text = (splitAuthority text >>= fun (authority, rest) => do
      checkAuthority authority
      return withTail standard authority rest) := by
  obtain ⟨others, rfl⟩ : ∃ others, text = '/' :: others := by
    cases text with
    | nil => cases rooted
    | cons first others => exact ⟨others, by rw [Option.some.inj rooted]⟩
  have behind : IsSolid others := solid.subset (List.subset_cons_self _ _)
  rw [read_slash web, withoutBreaks_eq_self behind]

/-! Writing URLs. -/

structure IsWebParts (kind : Char → Prop) (url : Url) : Prop where
  web : url.scheme ∈ webSchemes
  host : IsAuthority url.authority
  path : Consists kind url.path
  parameters : Consists kind url.parameters
  query : Consists kind url.query
  fragment : Consists kind url.fragment

section Writing

variable {kind : Char → Prop}

theorem IsTail.marked {mark : Char} {part rest : List Char} (ends : isPathEnd mark = true)
    (own : kind mark) (consists : Consists kind part) (tail : IsTail kind rest) :
    IsTail kind (marked mark part ++ rest) := by
  cases part with
  | nil => exact tail
  | cons first others =>
      exact ⟨.cons own (consists.append tail.consists), .cons (by simp [ends])⟩

theorem consists_marked {mark : Char} {part : List Char} (own : kind mark)
    (consists : Consists kind part) : Consists kind (marked mark part) := by
  cases part with
  | nil => exact .nil
  | cons first rest => exact .cons own consists

def rooted (path : List Char) : List Char :=
  if path.isEmpty || path.head? == some '/' then path else '/' :: path

theorem IsTail.rooted {path rest : List Char} (slash : kind '/') (consists : Consists kind path)
    (tail : IsTail kind rest) : IsTail kind (rooted path ++ rest) := by
  cases path with
  | nil => exact tail
  | cons first others =>
      by_cases root : first = '/'
      · subst root
        exact ⟨consists.append tail.consists, .cons (by decide)⟩
      · have apart : Url.rooted (first :: others) = '/' :: first :: others := by
          simp [Url.rooted, root]
        rw [apart]
        exact ⟨.cons slash (consists.append tail.consists), .cons (by decide)⟩

end Writing

theorem text_eq {url : Url} (web : url.scheme ∈ webSchemes) (named : url.authority ≠ []) :
    url.text = located url.scheme url.authority (rooted (url.path ++ marked ';' url.parameters) ++
      marked '?' url.query ++ marked '#' url.fragment) := by
  have host : url.authority.isEmpty = false := by simpa using named
  simp [Url.text, host, isEmpty_of_web web, located, Url.rooted]

/-- The marks that stand between the parts of a URL. -/
def marks : List Char := ['/', ';', '?', '#']

theorem isVisible_marks : Consists (isVisible ·) marks := by
  simp [Consists, marks, isVisible]

theorem isWebUrl_text {kind : Char → Prop} (marked : Consists kind marks) {url : Url}
    (parts : IsWebParts kind url) : IsWebUrl kind url.text := by
  obtain ⟨scheme, authority, path, parameters, query, fragment⟩ := url
  obtain ⟨web, host, path', parameters', query', fragment'⟩ := parts
  have tail : IsTail kind (Url.rooted (path ++ Url.marked ';' parameters) ++
      (Url.marked '?' query ++ (Url.marked '#' fragment ++ []))) := by
    apply IsTail.rooted (marked '/' (by decide))
      (path'.append (consists_marked (marked ';' (by decide)) parameters'))
    apply IsTail.marked (by decide) (marked '?' (by decide)) query'
    exact IsTail.marked (by decide) (marked '#' (by decide)) fragment' ⟨.nil, .nil⟩
  rw [text_eq web host.nonempty]
  simp only [List.append_nil, ← List.append_assoc] at tail
  exact .located (by rwa [lower_of_web web]) host tail

/-! Requesting what has been resolved. -/

def withoutEmptyFragment (text : List Char) : List Char :=
  if text.getLast? = some '#' then text.dropLast else text

theorem splitFragment_of_not_mem {text : List Char} (absent : '#' ∉ text) :
    splitFragment text = (text, []) := by
  have nothing : text.reverse.dropWhile (· != '#') = [] :=
    List.dropWhile_eq_nil_iff.mpr (Text.differs_of_not_mem (by simpa using absent))
  rw [splitFragment, nothing]

theorem splitFragment_separated (before : List Char) {fragment : List Char}
    (absent : '#' ∉ fragment) : splitFragment (before ++ '#' :: fragment) = (before, fragment) := by
  have reversed : (before ++ '#' :: fragment).reverse =
      fragment.reverse ++ '#' :: before.reverse := by simp
  have stops : Stops (· != '#') ('#' :: before.reverse) := .cons (by decide)
  have differs : ∀ character ∈ fragment.reverse, (character != '#') = true :=
    Text.differs_of_not_mem (by simpa using absent)
  rw [splitFragment, reversed, stops.dropWhile_append differs, stops.takeWhile_append differs]
  simp

theorem exists_last_mark {text : List Char} (member : '#' ∈ text) :
    ∃ before fragment, text = before ++ '#' :: fragment ∧ '#' ∉ fragment := by
  obtain ⟨fragment, before, same, absent⟩ :=
    List.eq_append_cons_of_mem (List.mem_reverse.mpr member)
  refine ⟨before.reverse, fragment.reverse, ?_, by simpa using absent⟩
  rw [← text.reverse_reverse, same]
  simp

theorem splitFragment_append {front : List Char} (outside : '#' ∉ front) (rest : List Char) :
    splitFragment (front ++ rest) =
      (front ++ (splitFragment rest).1, (splitFragment rest).2) := by
  by_cases member : '#' ∈ rest
  · obtain ⟨before, fragment, rfl, absent⟩ := exists_last_mark member
    rw [← List.append_assoc, splitFragment_separated _ absent, splitFragment_separated _ absent]
  · rw [splitFragment_of_not_mem member, splitFragment_of_not_mem (by simp [outside, member])]

theorem not_mem_located {scheme authority : List Char}
    (web : scheme.map Char.toLower ∈ webSchemes) (host : IsAuthority authority) {mark : Char}
    (ends : isPathEnd mark = true) (inside : mark ≠ '/') :
    mark ∉ located scheme authority [] := by
  intro member
  simp only [located, List.mem_append, List.mem_cons, List.not_mem_nil, or_false] at member
  rcases member with inScheme | colon | slash | slash | inHost
  · have letter := (letters_of_web web).1 _ inScheme
    simp only [isPathEnd, Bool.or_eq_true, beq_iff_eq] at ends
    rcases ends with (rfl | rfl) | rfl <;> exact absurd letter (by decide)
  · exact absurd (colon ▸ ends) (by decide)
  · exact inside slash
  · exact inside slash
  · exact absurd ends (by simp [host.closed _ inHost])

theorem withoutEmptyFragment_of_not_mem {text : List Char} (absent : '#' ∉ text) :
    withoutEmptyFragment text = text :=
  if_neg fun last => absent (List.mem_of_getLast? last)

theorem withoutEmptyFragment_behind (front : List Char) {rest : List Char} (filled : rest ≠ []) :
    withoutEmptyFragment (front ++ rest) = front ++ withoutEmptyFragment rest := by
  rw [withoutEmptyFragment, withoutEmptyFragment, List.getLast?_append_of_ne_nil _ filled]
  split
  · exact List.dropLast_append_of_ne_nil filled
  · rfl

theorem withoutEmptyFragment_append (before fragment : List Char) (absent : '#' ∉ fragment) :
    withoutEmptyFragment (before ++ '#' :: fragment) = before ++ marked '#' fragment := by
  cases fragment with
  | nil => simp [withoutEmptyFragment, marked]
  | cons first rest =>
      apply if_neg
      rw [List.getLast?_append_of_ne_nil _ (by simp), List.getLast?_cons_cons]
      exact fun last => absent (List.mem_of_getLast? last)

theorem withoutEmptyFragment_eq (text : List Char) :
    withoutEmptyFragment text = (splitFragment text).1 ++ marked '#' (splitFragment text).2 := by
  by_cases member : '#' ∈ text
  · obtain ⟨before, fragment, rfl, absent⟩ := exists_last_mark member
    rw [splitFragment_separated _ absent, withoutEmptyFragment_append _ _ absent]
  · rw [splitFragment_of_not_mem member, withoutEmptyFragment_of_not_mem member]
    exact (List.append_nil text).symm

theorem prefix_withoutEmptyFragment (text : List Char) : withoutEmptyFragment text <+: text := by
  rw [withoutEmptyFragment]
  split
  · exact List.dropLast_prefix text
  · exact List.prefix_rfl

theorem prefix_splitFragment (text : List Char) : (splitFragment text).1 <+: text := by
  have whole := prefix_withoutEmptyFragment text
  rw [withoutEmptyFragment_eq] at whole
  exact (List.prefix_append _ _).trans whole

theorem splitFragment_located {scheme authority : List Char}
    (web : scheme.map Char.toLower ∈ webSchemes) (host : IsAuthority authority)
    (rest : List Char) :
    splitFragment (located scheme authority rest) =
      (located scheme authority (splitFragment rest).1, (splitFragment rest).2) := by
  have outside : '#' ∉ located scheme authority [] :=
    not_mem_located web host (by decide) (by decide)
  rw [located_append, splitFragment_append outside, ← located_append]

theorem withoutEmptyFragment_located {scheme authority : List Char}
    (web : scheme.map Char.toLower ∈ webSchemes) (host : IsAuthority authority)
    (rest : List Char) :
    withoutEmptyFragment (located scheme authority rest) =
      located scheme authority (withoutEmptyFragment rest) := by
  rw [withoutEmptyFragment_eq, withoutEmptyFragment_eq, splitFragment_located web host,
    located_append, List.append_assoc, ← located_append]

theorem IsWebUrl.append {kind : Char → Prop} {text rest : List Char} {mark : Char}
    (web : IsWebUrl kind text) (ends : isPathEnd mark = true)
    (consists : Consists kind (mark :: rest)) : IsWebUrl kind (text ++ mark :: rest) := by
  obtain @⟨scheme, authority, before, isWeb, host, tail⟩ := web
  rw [located_append, List.append_assoc, ← located_append]
  refine .located isWeb host ⟨tail.consists.append consists, ?_⟩
  cases before with
  | nil => exact .cons (by simp [ends])
  | cons first others => exact .cons (tail.begins first rfl)

theorem unwrapped_located {scheme authority : List Char}
    (web : scheme.map Char.toLower ∈ webSchemes) (host : IsAuthority authority)
    (rest : List Char) :
    unwrapped (located scheme authority rest) =
      located scheme authority (Text.dropLastBlanks rest) := by
  have solid : IsSolid (located scheme authority []) := solid_located web host ⟨.nil, .nil⟩
  have trimmed : Text.trimBlanks (located scheme authority rest) =
      located scheme authority (Text.dropLastBlanks rest) := by
    rw [located_append, Text.trimBlanks_append solid (by simp [located]), ← located_append]
  obtain ⟨-, first, others, rfl, lower⟩ := letters_of_web web
  have bracket : first ≠ '<' := by rintro rfl; exact absurd lower (by decide)
  have label : first ≠ 'U' := by rintro rfl; exact absurd lower (by decide)
  unfold unwrapped
  rw [trimmed]
  simp [located, bracket, label]

theorem hasScheme_located {scheme authority rest : List Char}
    (web : scheme.map Char.toLower ∈ webSchemes) :
    hasScheme (located scheme authority rest) = true := by
  obtain ⟨letters, first, others, rfl, -⟩ := letters_of_web web
  have kept : ∀ character ∈ first :: others, (character != '/' && character != ':') = true := by
    intro character member
    rw [Bool.and_eq_true, bne_iff_ne, bne_iff_ne]
    constructor <;> rintro rfl <;> exact absurd (letters _ member) (by decide)
  have stops : Stops (fun character => character != '/' && character != ':')
      (':' :: '/' :: '/' :: (authority ++ rest)) := .cons (by decide)
  rw [hasScheme, located, stops.takeWhile_append kept, List.drop_left]
  rfl

theorem stops_of_front {before rest : List Char} (within : before <+: rest)
    (begins : Stops (!isPathEnd ·) rest) : Stops (!isPathEnd ·) before := by
  obtain ⟨behind, rfl⟩ := within
  cases before with
  | nil => exact .nil
  | cons character before => exact .cons (begins character rfl)

theorem target_located {url : String} {scheme authority rest : List Char}
    (web : scheme.map Char.toLower ∈ webSchemes) (host : IsAuthority authority)
    (begins : Stops (!isPathEnd ·) rest) (same : url.toList = located scheme authority rest) :
    target url = .ok (String.ofList
      (located scheme authority (withoutEmptyFragment (Text.dropLastBlanks rest)))) := by
  have joined : located scheme authority (splitFragment (Text.dropLastBlanks rest)).1 ++
        marked '#' (splitFragment (Text.dropLastBlanks rest)).2 =
      located scheme authority (withoutEmptyFragment (Text.dropLastBlanks rest)) := by
    rw [withoutEmptyFragment_eq, located_append, List.append_assoc, ← located_append]
  have within := (prefix_withoutEmptyFragment _).trans (Text.prefix_dropLastBlanks rest)
  have start := stops_of_front within begins
  simp only [target, same, unwrapped_located web host, splitFragment_located web host, joined,
    hasScheme_located web, read_located_cleaned web host start, Bool.not_true, Bool.false_eq_true,
    if_false, bind, Except.bind, pure, Except.pure]

/-- A URL of the web is requested as it is, only without an empty fragment. -/
theorem target_of_isWebUrl {url : String} (web : IsWebUrl (isBlank · = false) url.toList) :
    target url = .ok (String.ofList (withoutEmptyFragment url.toList)) := by
  generalize given : url.toList = text at web ⊢
  obtain @⟨scheme, authority, rest, isWeb, host, tail⟩ := web
  have solid : Text.dropLastBlanks rest = rest :=
    Text.dropLastBlanks_eq_self_iff.mpr fun _ member =>
      tail.consists _ (List.mem_of_getLast? member)
  rw [target_located isWeb host tail.begins given, solid, withoutEmptyFragment_located isWeb host]

/-! What is sent of a URL. -/

theorem selector_located {scheme authority rest : List Char}
    (web : scheme.map Char.toLower ∈ webSchemes) (host : IsAuthority authority)
    (begins : Stops (!isPathEnd ·) rest) {url : String}
    (same : url.toList = located scheme authority rest) :
    selector url =
      let path := (splitFragment (Text.dropLastBlanks rest)).1
      if path.head? == some '/' then path else '/' :: path := by
  have split : (splitFragment (unwrapped url.toList)).1 =
      located scheme authority (splitFragment (Text.dropLastBlanks rest)).1 := by
    rw [same, unwrapped_located web host, splitFragment_located web host]
  have within := (prefix_splitFragment _).trans (Text.prefix_dropLastBlanks rest)
  replace begins := stops_of_front within begins
  generalize (splitFragment (Text.dropLastBlanks rest)).1 = path at split begins ⊢
  have colon : ':' ∉ scheme := fun member => absurd ((letters_of_web web).1 _ member) (by decide)
  have stops : Stops (· != ':') (':' :: '/' :: '/' :: (authority ++ path)) := .cons (by decide)
  have behind : ((located scheme authority path).dropWhile (· != ':')).drop 1 =
      '/' :: '/' :: (authority ++ path) := by
    rw [located, stops.dropWhile_append (Text.differs_of_not_mem colon), List.drop_one,
      List.tail_cons]
  have closed : ∀ character ∈ authority, (!isPathEnd character) = true := by
    simpa using host.closed
  simp only [selector, split, behind, begins.dropWhile_append closed]

theorem IsWebUrl.isSendable {url : String} (web : IsWebUrl (isVisible ·) url.toList) :
    IsSendable url := by
  generalize given : url.toList = text at web
  obtain @⟨scheme, authority, rest, isWeb, host, tail⟩ := web
  have within := (prefix_splitFragment _).trans (Text.prefix_dropLastBlanks rest)
  have visible := tail.consists.subset within.subset
  rw [IsSendable, selector_located isWeb host tail.begins given]
  dsimp only
  split
  · exact visible
  · exact Consists.cons (by decide) visible

end LedgerRules.Url
