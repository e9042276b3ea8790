import LedgerRules.Proofs.Service.WebUrl

/-!
Where links lead. A base names a scheme of the web and a host, and a link to be followed is a URL of
the web or a path from the root. Whatever the base, what the link resolves to is a URL of the web.
-/

namespace LedgerRules.Url

open Text (isBlank splitOnce splitAt)

/-! Resolving. -/

section Resolving

variable {kind : Char → Prop}

theorem consists_splitOnce (separator : Char) {text : List Char} (consists : Consists kind text) :
    Consists kind (splitOnce separator text).1 ∧
      Consists kind ((splitOnce separator text).2.getD []) :=
  ⟨fun _ member => consists _ (Text.mem_of_mem_splitOnce (.inl member)),
    fun _ member => consists _ (Text.mem_of_mem_splitOnce (.inr member))⟩

theorem consists_splitParameters {path : List Char} (consists : Consists kind path) :
    Consists kind (splitParameters path).1 ∧ Consists kind (splitParameters path).2 := by
  have lastName : Consists kind (path.reverse.takeWhile (· != '/')).reverse := by
    intro character member
    exact consists _
      (List.mem_reverse.mp (List.takeWhile_subset _ (List.mem_reverse.mp member)))
  obtain ⟨before, behind⟩ := consists_splitOnce ';' lastName
  simp only [splitParameters]
  split
  · rename_i name parameters split
    rw [split] at before behind
    exact ⟨(consists.subset (List.take_subset _ _)).append before, behind⟩
  · exact ⟨consists, .nil⟩

theorem consists_withTail (scheme authority : List Char) {rest : List Char}
    (consists : Consists kind rest) :
    Consists kind (withTail scheme authority rest).path ∧
      Consists kind (withTail scheme authority rest).parameters ∧
      Consists kind (withTail scheme authority rest).query ∧
      Consists kind (withTail scheme authority rest).fragment := by
  obtain ⟨before, fragment⟩ := consists_splitOnce '#' consists
  obtain ⟨path, query⟩ := consists_splitOnce '?' before
  obtain ⟨path, parameters⟩ := consists_splitParameters path
  exact ⟨path, parameters, query, fragment⟩

def AllConsist (kind : Char → Prop) (names : List (List Char)) : Prop :=
  ∀ name ∈ names, Consists kind name

theorem allConsist_splitAt {separator : Char} {text : List Char} (consists : Consists kind text) :
    AllConsist kind (splitAt separator text) := by
  induction text with
  | nil => exact List.forall_mem_singleton.mpr .nil
  | cons character rest ih =>
      obtain ⟨own, later⟩ := List.forall_mem_cons.mp consists
      have parts := ih later
      rw [splitAt]
      split
      · exact List.forall_mem_cons.mpr ⟨.nil, parts⟩
      · split
        · rename_i part others split
          rw [split] at parts
          obtain ⟨first, others⟩ := List.forall_mem_cons.mp parts
          exact List.forall_mem_cons.mpr ⟨.cons own first, others⟩
        · exact List.forall_mem_singleton.mpr (.cons own .nil)

theorem consists_getLastD {names : List (List Char)} (consist : AllConsist kind names) :
    Consists kind (names.getLastD []) :=
  List.forall_mem_cons.mpr ⟨.nil, consist⟩ _ List.getLastD_mem_cons

theorem allConsist_withoutInnerEmpty {names : List (List Char)} (consist : AllConsist kind names) :
    AllConsist kind (withoutInnerEmpty names) := by
  match names with
  | [] => exact consist
  | [_] => exact consist
  | first :: second :: rest =>
      obtain ⟨own, others⟩ := List.forall_mem_cons.mp consist
      have inner : AllConsist kind ((second :: rest).dropLast.filter fun name => !name.isEmpty) :=
        fun name member => others _ (List.dropLast_subset _ (List.mem_filter.mp member).1)
      rw [withoutInnerEmpty]
      exact List.forall_mem_append.mpr ⟨List.forall_mem_cons.mpr ⟨own, inner⟩,
        List.forall_mem_singleton.mpr (consists_getLastD others)⟩

theorem allConsist_follow {reached names : List (List Char)} (before : AllConsist kind reached)
    (consist : AllConsist kind names) : AllConsist kind (follow reached names) := by
  induction names generalizing reached with
  | nil => exact fun name member => before name (List.mem_reverse.mp member)
  | cons name rest ih =>
      obtain ⟨own, later⟩ := List.forall_mem_cons.mp consist
      rw [follow]
      split
      · exact ih (fun name member => before name (List.mem_of_mem_drop member)) later
      · split
        · exact ih before later
        · exact ih (List.forall_mem_cons.mpr ⟨own, before⟩) later

theorem consists_intercalate (slash : kind '/') {names : List (List Char)}
    (consist : AllConsist kind names) : Consists kind (List.intercalate ['/'] names) := by
  induction names with
  | nil => exact .nil
  | cons name rest ih =>
      obtain ⟨own, later⟩ := List.forall_mem_cons.mp consist
      cases rest with
      | nil => rwa [List.intercalate_singleton]
      | cons next others =>
          rw [List.intercalate_cons_cons]
          exact (own.append (.cons slash .nil)).append (ih later)

/-- The names of a path behind a base, before any of them leads back. -/
def pathNames (base path : List Char) : List (List Char) :=
  if path.head? == some '/' then splitAt '/' path
  else
    withoutInnerEmpty
      ((if (splitAt '/' base).getLastD [] == [] then splitAt '/' base
        else (splitAt '/' base).dropLast) ++ splitAt '/' path)

def closing (names : List (List Char)) : List (List Char) :=
  if names.getLastD [] == ['.'] || names.getLastD [] == ['.', '.'] then [[]] else []

def joinNames (names : List (List Char)) : List Char :=
  let joined := List.intercalate ['/'] (follow [] names ++ closing names)
  if joined.isEmpty then ['/'] else joined

theorem resolvePath_eq (base path : List Char) :
    resolvePath base path = joinNames (pathNames base path) := rfl

theorem allConsist_pathNames {base path : List Char} (first : Consists kind base)
    (second : Consists kind path) : AllConsist kind (pathNames base path) := by
  rw [pathNames]
  split
  · exact allConsist_splitAt second
  · apply allConsist_withoutInnerEmpty
    refine List.forall_mem_append.mpr ⟨?_, allConsist_splitAt second⟩
    split
    · exact allConsist_splitAt first
    · exact fun name member => allConsist_splitAt first name (List.dropLast_subset _ member)

theorem consists_joinNames (slash : kind '/') {names : List (List Char)}
    (consist : AllConsist kind names) : Consists kind (joinNames names) := by
  have last : AllConsist kind (closing names) := by
    rw [closing]
    split
    · exact List.forall_mem_singleton.mpr .nil
    · nofun
  have start : AllConsist kind [] := nofun
  have joined := consists_intercalate slash
    (List.forall_mem_append.mpr ⟨allConsist_follow start consist, last⟩)
  simp only [joinNames]
  split
  · exact .cons slash .nil
  · exact joined

theorem isWebParts_resolve (slash : kind '/') {base url : Url} (first : IsWebParts kind base)
    (web : url.scheme ∈ webSchemes) (host : url.authority = [] ∨ IsAuthority url.authority)
    (path : Consists kind url.path) (parameters : Consists kind url.parameters)
    (query : Consists kind url.query) (fragment : Consists kind url.fragment) :
    IsWebParts kind (base.resolve url) := by
  have named := (isIn_of_web web).2.1
  simp only [resolve, named, Bool.true_and, if_true]
  rcases host with nothing | host
  · simp only [nothing, List.isEmpty_nil, Bool.not_true, Bool.false_eq_true, if_false]
    split
    · refine ⟨web, first.host, first.path, first.parameters, ?_, fragment⟩
      dsimp only
      split
      · exact first.query
      · exact query
    · refine ⟨web, first.host, ?_, parameters, query, fragment⟩
      rw [resolvePath_eq]
      exact consists_joinNames slash (allConsist_pathNames first.path path)
  · have given : url.authority.isEmpty = false := by simpa using host.nonempty
    simp only [given, Bool.not_false, if_true]
    exact ⟨web, host, path, parameters, query, fragment⟩

end Resolving

/-! Links that can be followed. -/

/-- A scheme of the web and a host, and nothing behind it. -/
def IsBase (base : String) : Prop :=
  ∃ scheme ∈ webSchemes, ∃ authority, IsAuthority authority ∧
    base.toList = located scheme authority []

structure IsPlain (text : List Char) : Prop where
  visible : ∀ character ∈ text, 0x21 ≤ character.toNat ∧ character.toNat ≤ 0x7E
  unbracketed : '[' ∉ text ∧ ']' ∉ text

/-- A path from the root, or a URL of the web that names a host. -/
def IsRootedOrWeb (link : List Char) : Prop :=
  link.head? = some '/' ∨ ∃ scheme first rest, scheme.map Char.toLower ∈ webSchemes ∧
    isPathEnd first = false ∧ link = scheme ++ ':' :: '/' :: '/' :: first :: rest

structure IsFollowable (link : List Char) : Prop extends IsPlain link where
  form : IsRootedOrWeb link

theorem IsPlain.subset {part text : List Char} (plain : IsPlain text) (within : part ⊆ text) :
    IsPlain part :=
  ⟨fun character member => plain.visible character (within member),
    mt (within ·) plain.unbracketed.1, mt (within ·) plain.unbracketed.2⟩

theorem IsPlain.consists {text : List Char} (plain : IsPlain text) :
    Consists (isVisible ·) text := by
  intro character member
  have bounds := plain.visible character member
  simp only [Url.isVisible, Bool.and_eq_true, decide_eq_true_eq]
  omega

theorem IsPlain.solid {text : List Char} (plain : IsPlain text) : IsSolid text :=
  fun character member => isBlank_of_isVisible (plain.consists character member)

theorem IsPlain.checkBrackets {text : List Char} (plain : IsPlain text) :
    checkBrackets text = .ok () := by
  have absent {bracket : Char} (outside : bracket ∉ text) : text.contains bracket = false := by
    rwa [List.contains_eq_mem, decide_eq_false_iff_not]
  rw [Url.checkBrackets, absent plain.unbracketed.1, absent plain.unbracketed.2]
  rfl

theorem IsPlain.checkAuthority {text : List Char} (plain : IsPlain text) :
    checkAuthority text = .ok () := by
  have hidden : (text.any fun character => hiddenDelimiters.contains character.toNat) = false := by
    rw [List.any_eq_false]
    intro character member found
    have high : ∀ code ∈ hiddenDelimiters, 0x7E < code := by decide
    have visible := (plain.visible character member).2
    exact absurd (high _ (List.contains_iff_mem.mp found)) (by omega)
  simp only [Url.checkAuthority, hidden, Bool.false_eq_true, if_false]

def hostOf (text : List Char) : List Char := text.takeWhile (!isPathEnd ·)

def tailOf (text : List Char) : List Char := text.dropWhile (!isPathEnd ·)

theorem IsPlain.hostOf {text : List Char} (plain : IsPlain text) : IsPlain (hostOf text) :=
  plain.subset (List.takeWhile_subset _)

theorem IsPlain.isTail_tailOf {text : List Char} (plain : IsPlain text) :
    IsTail (isVisible ·) (tailOf text) := by
  refine ⟨plain.consists.subset (List.dropWhile_suffix _).subset, fun character member => ?_⟩
  have stopped := List.head?_dropWhile_not (!isPathEnd ·) text
  rw [tailOf] at member
  rwa [Option.mem_def.mp member] at stopped

theorem IsPlain.isAuthority_hostOf {text : List Char} (plain : IsPlain text)
    (named : Url.hostOf text ≠ []) : IsAuthority (Url.hostOf text) := by
  refine ⟨named, plain.hostOf.solid, ?_, plain.hostOf.checkBrackets, plain.hostOf.checkAuthority⟩
  intro character member
  simpa using List.mem_takeWhile_imp member

theorem located_of_absolute {scheme rest : List Char} {first : Char}
    (named : isPathEnd first = false)
    (plain : IsPlain (scheme ++ ':' :: '/' :: '/' :: first :: rest)) :
    ∃ authority tail, IsAuthority authority ∧ IsTail (isVisible ·) tail ∧
      scheme ++ ':' :: '/' :: '/' :: first :: rest = located scheme authority tail := by
  have behind : IsPlain (first :: rest) := by
    apply plain.subset
    intro character member
    simp [List.mem_cons.mp member]
  refine ⟨hostOf (first :: rest), tailOf (first :: rest), behind.isAuthority_hostOf ?_,
    behind.isTail_tailOf, ?_⟩
  · simp [hostOf, named]
  · simp [located, hostOf, tailOf, List.takeWhile_append_dropWhile]

theorem splitAuthority_plain {link : List Char} (plain : IsPlain link) :
    ∃ authority tail, splitAuthority link = .ok (authority, tail) ∧
      checkAuthority authority = .ok () ∧ (authority = [] ∨ IsAuthority authority) ∧
      Consists (isVisible ·) tail := by
  unfold splitAuthority
  split
  · rename_i rest
    have behind : IsPlain rest := plain.subset fun _ member =>
      List.mem_cons_of_mem _ (List.mem_cons_of_mem _ member)
    refine ⟨hostOf rest, tailOf rest, ?_, behind.hostOf.checkAuthority, ?_,
      behind.isTail_tailOf.consists⟩
    · have brackets := behind.hostOf.checkBrackets
      simp only [hostOf] at brackets
      simp only [brackets]
      rfl
    · by_cases named : hostOf rest = []
      · exact .inl named
      · exact .inr (behind.isAuthority_hostOf named)
  · exact ⟨[], link, rfl, rfl, .inl rfl, plain.consists⟩

theorem read_followable {standard link : List Char} (web : standard ∈ webSchemes)
    (followable : IsFollowable link) :
    ∃ scheme authority tail, read standard link = .ok (withTail scheme authority tail) ∧
      scheme ∈ webSchemes ∧ (authority = [] ∨ IsAuthority authority) ∧
      Consists (isVisible ·) tail ∧ (scheme = standard ∨ IsWebUrl (isVisible ·) link) := by
  rcases followable.form with rooted | ⟨scheme, first, rest, webToo, named, rfl⟩
  · obtain ⟨authority, tail, split, allowed, host, visible⟩ :=
      splitAuthority_plain followable.toIsPlain
    refine ⟨standard, authority, tail, ?_, web, host, visible, .inl rfl⟩
    rw [read_rooted web followable.solid rooted, split]
    simp only [bind, Except.bind, allowed]
    rfl
  · obtain ⟨authority, tail, host, isTail, same⟩ :=
      located_of_absolute named followable.toIsPlain
    rw [same]
    exact ⟨_, authority, tail, read_located webToo host isTail.solid standard, webToo, .inr host,
      isTail.consists, .inr (.located webToo host isTail)⟩

theorem isWebParts_withTail {kind : Char → Prop} {scheme authority tail : List Char}
    (web : scheme ∈ webSchemes) (host : IsAuthority authority) (consists : Consists kind tail) :
    IsWebParts kind (withTail scheme authority tail) := by
  obtain ⟨path, parameters, query, fragment⟩ := consists_withTail scheme authority consists
  exact ⟨web, host, path, parameters, query, fragment⟩

theorem IsFollowable.nonempty {link : List Char} (followable : IsFollowable link) : link ≠ [] := by
  rintro rfl
  rcases followable.form with rooted | ⟨scheme, first, rest, _, _, same⟩
  · cases rooted
  · simp at same

theorem isEmpty_eq_false {text : String} (filled : text.toList ≠ []) : text.isEmpty = false := by
  rw [Bool.eq_false_iff]
  intro empty
  rw [String.isEmpty_iff.mp empty] at filled
  exact filled rfl

theorem located_ne_nil (scheme authority rest : List Char) :
    located scheme authority rest ≠ [] := by
  simp [located]

theorem read_base {base : String} {scheme authority tail : List Char} (web : scheme ∈ webSchemes)
    (host : IsAuthority authority) (isTail : IsTail (isBlank · = false) tail)
    (same : base.toList = located scheme authority tail) :
    read [] base.toList = .ok (withTail scheme authority tail) := by
  have lower := lower_of_web web
  rw [same, read_located (by rwa [lower]) host isTail, lower]

/-- A link that can be followed leads somewhere in the web, whatever the base. -/
theorem join_followable {base link : String} {scheme authority tail : List Char}
    (web : scheme ∈ webSchemes) (host : IsAuthority authority) (isTail : IsTail (isVisible ·) tail)
    (same : base.toList = located scheme authority tail) (followable : IsFollowable link.toList) :
    ∃ resolved, join base link = .ok resolved ∧ IsWebUrl (isVisible ·) resolved.toList := by
  obtain ⟨schemeToo, authorityToo, tailToo, second, webToo, hostToo, visible, otherwise⟩ :=
    read_followable web followable
  have first := read_base web host isTail.solid same
  have filled := isEmpty_eq_false (same ▸ located_ne_nil scheme authority tail)
  have filledToo := isEmpty_eq_false followable.nonempty
  have readSecond : read (withTail scheme authority tail).scheme link.toList =
      .ok (withTail schemeToo authorityToo tailToo) := second
  have known : isIn relativeSchemes (withTail schemeToo authorityToo tailToo).scheme = true :=
    (isIn_of_web webToo).2.2
  simp only [join, filled, filledToo, first, readSecond, known, bind, Except.bind, pure,
    Except.pure, Bool.false_eq_true, if_false, Bool.not_true, Bool.or_false, bne_iff_ne]
  split
  · rename_i differs
    rcases otherwise with rfl | whole
    · exact absurd rfl differs
    · exact ⟨link, rfl, whole⟩
  · obtain ⟨path, parameters, query, fragment⟩ := consists_withTail schemeToo authorityToo visible
    have parts : IsWebParts (isVisible ·) (withTail scheme authority tail) :=
      isWebParts_withTail web host isTail.consists
    refine ⟨_, rfl, ?_⟩
    rw [String.toList_ofList]
    exact isWebUrl_text isVisible_marks
      (isWebParts_resolve (by decide) parts webToo hostToo path parameters query fragment)

theorem join_root {base link : String} (isBase : IsBase base)
    (followable : IsFollowable link.toList) :
    ∃ resolved, join (base ++ "/") link = .ok resolved ∧
      IsWebUrl (isVisible ·) resolved.toList := by
  obtain ⟨scheme, web, authority, host, same⟩ := isBase
  have root : (base ++ "/").toList = located scheme authority ['/'] := by
    simp [same, located]
  exact join_followable web host ⟨.cons (by decide) .nil, .cons (by decide)⟩ root followable

example : join "https://api.toshl.com/" "/tags?page=1" =
    .ok "https://api.toshl.com/tags?page=1" := by
  decide +kernel

end LedgerRules.Url
