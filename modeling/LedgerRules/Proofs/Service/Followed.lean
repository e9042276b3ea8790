import LedgerRules.Proofs.Service.Following

/-!
Paths behind the root of a base. Their points are followed and empty marks are left out; all else
stays, so what is written is no longer than what has been read.
-/

namespace LedgerRules.Url

open Text (splitOnce splitAt Stops)

/-! Paths from the root. -/

theorem head?_splitOnce {mark : Char} {text : List Char} (root : text.head? = some '/')
    (other : mark ≠ '/') : (splitOnce mark text).1.head? = some '/' := by
  obtain ⟨rest, rfl⟩ : ∃ rest, text = '/' :: rest := by
    cases text with
    | nil => cases root
    | cons first rest => exact ⟨rest, by rw [Option.some.inj root]⟩
  by_cases member : mark ∈ '/' :: rest
  · obtain ⟨before, behind, same, absent⟩ := List.eq_append_cons_of_mem member
    rw [same, Text.splitOnce_separated absent]
    cases before with
    | nil => exact absurd (List.cons.inj same).1.symm other
    | cons first before =>
        obtain ⟨rfl, -⟩ := List.cons.inj same
        rfl
  · rw [Text.splitOnce_of_not_mem member]
    rfl

theorem splitParameters_separated (before : List Char) {name : List Char} (whole : '/' ∉ name) :
    splitParameters (before ++ '/' :: name) =
      (before ++ '/' :: (splitOnce ';' name).1, (splitOnce ';' name).2.getD []) := by
  have stops : Text.Stops (· != '/') ('/' :: before.reverse) := .cons (by simp)
  have kept : ∀ character ∈ name.reverse, (character != '/') = true :=
    Text.differs_of_not_mem (by simpa using whole)
  have last : ((before ++ '/' :: name).reverse.takeWhile (· != '/')).reverse = name := by
    rw [List.reverse_append, List.reverse_cons, List.append_assoc, List.singleton_append,
      stops.takeWhile_append kept, List.reverse_reverse]
  have front : (before ++ '/' :: name).take ((before ++ '/' :: name).length - name.length) =
      before ++ ['/'] := by
    have split : before ++ '/' :: name = (before ++ ['/']) ++ name := by simp
    have length : (before ++ '/' :: name).length - name.length = (before ++ ['/']).length := by
      simp only [List.length_append, List.length_cons, List.length_nil]
      omega
    rw [length, split, List.take_left]
  simp only [splitParameters, last]
  by_cases member : ';' ∈ name
  · obtain ⟨first, behind, rfl, absent⟩ := List.eq_append_cons_of_mem member
    rw [Text.splitOnce_separated absent]
    simp only [front, List.append_assoc, List.singleton_append, Option.getD_some]
  · rw [Text.splitOnce_of_not_mem member]
    rfl

theorem exists_last_name {path : List Char} (root : path.head? = some '/') :
    ∃ before name, path = before ++ '/' :: name ∧ '/' ∉ name := by
  have member : '/' ∈ path.reverse := List.mem_reverse.mpr (List.mem_of_mem_head? root)
  obtain ⟨name, before, same, absent⟩ := List.eq_append_cons_of_mem member
  refine ⟨before.reverse, name.reverse, ?_, by simpa using absent⟩
  rw [← path.reverse_reverse, same]
  simp

/-- The part of a URL behind its host, as it is written once it has been read and followed. -/
def followed (rest : List Char) : List Char :=
  let url := withTail [] [] rest
  rooted (joinNames (splitAt '/' url.path) ++ marked ';' url.parameters) ++ marked '?' url.query ++
    marked '#' url.fragment

theorem root_withTail {rest : List Char} (root : rest.head? = some '/')
    (scheme authority : List Char) : (withTail scheme authority rest).path.head? = some '/' := by
  have path := head?_splitOnce (head?_splitOnce root (show '#' ≠ '/' by decide))
    (show '?' ≠ '/' by decide)
  obtain ⟨front, name, same, whole⟩ := exists_last_name path
  simp only [withTail, same, splitParameters_separated front whole]
  rw [same] at path
  cases front with
  | nil => rfl
  | cons first front => exact path

theorem withTail_eq_mk (scheme authority rest : List Char) :
    withTail scheme authority rest =
      ⟨scheme, authority, (withTail [] [] rest).path, (withTail [] [] rest).parameters,
        (withTail [] [] rest).query, (withTail [] [] rest).fragment⟩ := rfl

theorem text_resolve_root (base : Url) {scheme : List Char} (web : scheme ∈ webSchemes)
    (host : IsAuthority base.authority) {rest : List Char} (root : rest.head? = some '/') :
    (base.resolve (withTail scheme [] rest)).text =
      located scheme base.authority (followed rest) := by
  have path := root_withTail root [] []
  rw [withTail_eq_mk, followed]
  generalize withTail [] [] rest = url at path
  have filled : url.path.isEmpty = false := by
    rw [Bool.eq_false_iff, ne_eq, List.isEmpty_iff]
    intro empty
    rw [empty] at path
    cases path
  have names : resolvePath base.path url.path = joinNames (splitAt '/' url.path) := by
    rw [resolvePath_eq, pathNames, if_pos (by simp [path])]
  have resolved : base.resolve ⟨scheme, [], url.path, url.parameters, url.query, url.fragment⟩ =
      ⟨scheme, base.authority, joinNames (splitAt '/' url.path), url.parameters, url.query,
        url.fragment⟩ := by
    have known := (isIn_of_web web).2.1
    simp only [resolve, known, filled, names, List.isEmpty_nil, Bool.not_true, Bool.and_false,
      Bool.false_and, Bool.false_eq_true, if_true, if_false]
  rw [resolved]
  exact text_eq web host.nonempty

theorem splitAuthority_slash {rest : List Char} (single : rest.head? ≠ some '/') :
    splitAuthority ('/' :: rest) = .ok ([], '/' :: rest) := by
  unfold splitAuthority
  split
  · rename_i behind same
    obtain ⟨-, rfl⟩ := List.cons.inj same
    exact absurd rfl single
  · rfl

/-! Bases with a path of their own. -/

structure IsRootOf (root base : String) : Prop where
  isBase : IsBase root
  behind : ∃ tail, IsTail (Text.isBlank · = false) tail ∧ base.toList = root.toList ++ tail

theorem IsBase.isRootOf {base : String} (isBase : IsBase base) : IsRootOf base base :=
  ⟨isBase, [], ⟨.nil, .nil⟩, (List.append_nil _).symm⟩

theorem IsRootOf.join_slash {root base link : String} (isRoot : IsRootOf root base)
    {rest : List Char} (path : link.toList = '/' :: rest)
    (single : (withoutBreaks rest).head? ≠ some '/') :
    join base link = .ok (root ++ String.ofList (followed ('/' :: withoutBreaks rest))) := by
  obtain ⟨⟨scheme, web, authority, host, located⟩, tail, isTail, whole⟩ := isRoot
  have same : base.toList = Url.located scheme authority tail := by
    rw [whole, located, ← located_append]
  have first := read_base web host isTail same
  have second : read (withTail scheme authority tail).scheme link.toList =
      .ok (withTail scheme [] ('/' :: withoutBreaks rest)) := by
    rw [path]
    change read scheme ('/' :: rest) = _
    rw [read_slash web, splitAuthority_slash single]
    rfl
  have filled := isEmpty_eq_false (same ▸ located_ne_nil scheme authority tail)
  have filledToo := isEmpty_eq_false (path ▸ List.cons_ne_nil '/' rest)
  have kept : (withTail scheme [] ('/' :: withoutBreaks rest)).scheme =
      (withTail scheme authority tail).scheme := rfl
  have relative : isIn relativeSchemes (withTail scheme authority tail).scheme = true :=
    (isIn_of_web web).2.2
  have resolved : ((withTail scheme authority tail).resolve
      (withTail scheme [] ('/' :: withoutBreaks rest))).text =
      Url.located scheme authority (followed ('/' :: withoutBreaks rest)) :=
    text_resolve_root (withTail scheme authority tail) web host rfl
  have text : root ++ String.ofList (followed ('/' :: withoutBreaks rest)) =
      String.ofList (Url.located scheme authority (followed ('/' :: withoutBreaks rest))) := by
    rw [← String.toList_inj, String.toList_append, String.toList_ofList, String.toList_ofList,
      located, ← located_append]
  simp only [join, filled, filledToo, first, second, kept, relative, resolved, text, bind,
    Except.bind, pure, Except.pure, Bool.false_eq_true, if_false, bne_self_eq_false, Bool.not_true,
    Bool.or_self]

theorem IsBase.exists_located {root : String} (isBase : IsBase root) :
    ∃ scheme authority, scheme.map Char.toLower ∈ webSchemes ∧ IsAuthority authority ∧
      ∀ rest, (root ++ String.ofList rest).toList = located scheme authority rest := by
  obtain ⟨scheme, web, authority, host, same⟩ := isBase
  refine ⟨scheme, authority, by rwa [lower_of_web web], host, fun rest => ?_⟩
  rw [String.toList_append, String.toList_ofList, same, ← located_append]

theorem stops_of_slash {rest : List Char} (slash : rest.head? = some '/') :
    Stops (!isPathEnd ·) rest := by
  obtain ⟨behind, rfl⟩ := List.head?_eq_some_iff.mp slash
  exact .cons (by decide)

theorem IsBase.target_append {root : String} (isBase : IsBase root) {rest : List Char}
    (slash : rest.head? = some '/') :
    target (root ++ String.ofList rest) =
      .ok (root ++ String.ofList (withoutEmptyFragment (Text.dropLastBlanks rest))) := by
  obtain ⟨scheme, authority, web, host, located⟩ := isBase.exists_located
  rw [target_located web host (stops_of_slash slash) (located rest), ← located,
    String.ofList_toList]

theorem IsBase.isSendable_append {root : String} (isBase : IsBase root) {rest : List Char}
    (slash : rest.head? = some '/') :
    IsSendable (root ++ String.ofList rest) ↔
      Consists (isVisible ·) (splitFragment (Text.dropLastBlanks rest)).1 := by
  obtain ⟨scheme, authority, web, host, located⟩ := isBase.exists_located
  have first : (splitFragment (Text.dropLastBlanks rest)).1.head? = some '/' := by
    obtain ⟨behind, rfl⟩ := List.head?_eq_some_iff.mp slash
    have solid : IsSolid ['/'] := .cons (by decide) .nil
    rw [← List.singleton_append, Text.dropLastBlanks_append solid,
      splitFragment_append (show '#' ∉ ['/'] by decide)]
    rfl
  rw [IsSendable, selector_located web host (stops_of_slash slash) (located rest)]
  simp only [first, beq_self_eq_true, if_true]

/-! The length of a path by its names. -/

def weight (names : List (List Char)) : Nat := (names.map fun name => name.length + 1).sum

@[simp] theorem weight_nil : weight [] = 0 := rfl

@[simp] theorem weight_cons (name : List Char) (rest : List (List Char)) :
    weight (name :: rest) = name.length + 1 + weight rest := rfl

@[simp] theorem weight_append (left right : List (List Char)) :
    weight (left ++ right) = weight left + weight right := by
  simp [weight]

@[simp] theorem weight_reverse (names : List (List Char)) :
    weight names.reverse = weight names := by
  simp [weight, List.sum_reverse]

theorem weight_drop_le (count : Nat) (names : List (List Char)) :
    weight (names.drop count) ≤ weight names := by
  conv_rhs => rw [← names.take_append_drop count, weight_append]
  exact Nat.le_add_left _ _

theorem length_intercalate {names : List (List Char)} (filled : names ≠ []) :
    (List.intercalate ['/'] names).length + 1 = weight names := by
  induction names with
  | nil => exact absurd rfl filled
  | cons name rest ih =>
      cases rest with
      | nil => rw [List.intercalate_singleton, weight_cons, weight_nil, Nat.add_zero]
      | cons next others =>
          have later := ih (List.cons_ne_nil _ _)
          rw [List.intercalate_cons_cons, weight_cons, ← later]
          simp only [List.length_append, List.length_singleton]
          omega

theorem weight_splitAt (text : List Char) : weight (splitAt '/' text) = text.length + 1 := by
  rw [← length_intercalate (Text.splitAt_ne_nil '/' text), Text.intercalate_splitAt]

/-- A name that is no name of its own: it stays, or leads back. -/
def IsPoints (name : List Char) : Prop := name = ['.'] ∨ name = ['.', '.']

theorem not_isPoints_nil : ¬IsPoints [] := by
  rintro (one | two)
  · cases one
  · cases two

/-- Names without points are followed one by one; points take away at least their own name. -/
theorem follow_cases (reached names : List (List Char)) :
    (∀ name ∈ names, ¬IsPoints name) ∧ follow reached names = reached.reverse ++ names ∨
      (∃ name ∈ names, IsPoints name) ∧
        weight (follow reached names) + 2 ≤ weight reached + weight names := by
  have most {before after : List (List Char)}
      (either : (∀ name ∈ after, ¬IsPoints name) ∧ follow before after = before.reverse ++ after ∨
        (∃ name ∈ after, IsPoints name) ∧
          weight (follow before after) + 2 ≤ weight before + weight after) :
      weight (follow before after) ≤ weight before + weight after := by
    rcases either with ⟨_, same⟩ | ⟨_, lighter⟩
    · rw [same, weight_append, weight_reverse]
    · omega
  induction names generalizing reached with
  | nil => exact .inl ⟨nofun, by rw [follow, List.append_nil]⟩
  | cons name rest ih =>
      by_cases two : name = ['.', '.']
      · have lighter := most (ih (reached.drop 1))
        have fewer := weight_drop_le 1 reached
        refine .inr ⟨⟨name, List.mem_cons_self, .inr two⟩, ?_⟩
        rw [follow, if_pos (by simpa using two)]
        simp only [two, weight_cons, List.length_cons, List.length_nil]
        omega
      · by_cases one : name = ['.']
        · have lighter := most (ih reached)
          refine .inr ⟨⟨name, List.mem_cons_self, .inl one⟩, ?_⟩
          rw [follow, if_neg (by simpa using two), if_pos (by simpa using one)]
          simp only [one, weight_cons, List.length_cons, List.length_nil]
          omega
        · have own : ¬IsPoints name := fun points => points.elim one two
          rw [follow, if_neg (by simpa using two), if_neg (by simpa using one)]
          rcases ih (name :: reached) with ⟨plain, same⟩ | ⟨⟨other, member, points⟩, lighter⟩
          · refine .inl ⟨List.forall_mem_cons.mpr ⟨own, plain⟩, ?_⟩
            rw [same, List.reverse_cons, List.append_assoc, List.singleton_append]
          · refine .inr ⟨⟨other, List.mem_cons_of_mem _ member, points⟩, ?_⟩
            simp only [weight_cons] at lighter ⊢
            omega

theorem weight_closing_le (names : List (List Char)) : weight (closing names) ≤ 1 := by
  rw [closing]
  split
  · exact Nat.le_refl 1
  · exact Nat.zero_le 1

theorem closing_of_plain {names : List (List Char)} (plain : ∀ name ∈ names, ¬IsPoints name) :
    closing names = [] := by
  have last : ¬IsPoints (names.getLastD []) := by
    rcases List.mem_cons.mp (List.getLastD_mem_cons (a := []) (l := names)) with none | member
    · rw [none]
      exact not_isPoints_nil
    · exact plain _ member
  rw [closing, if_neg]
  simpa [IsPoints] using last

theorem joinNames_of_plain {path : List Char} (filled : path ≠ [])
    (plain : ∀ name ∈ splitAt '/' path, ¬IsPoints name) : joinNames (splitAt '/' path) = path := by
  rcases follow_cases [] (splitAt '/' path) with ⟨_, same⟩ | ⟨⟨name, member, points⟩, _⟩
  · rw [joinNames, same, closing_of_plain plain, List.append_nil, List.reverse_nil, List.nil_append,
      Text.intercalate_splitAt]
    exact if_neg (by simpa using filled)
  · exact absurd points (plain name member)

theorem rooted_of_root {path : List Char} (root : path.head? = some '/') : rooted path = path := by
  rw [rooted, if_pos (by simp [root])]

theorem head?_rooted {path : List Char} (filled : path ≠ []) : (rooted path).head? = some '/' := by
  rw [rooted]
  split
  · rename_i same
    simpa [filled] using same
  · rfl

theorem length_rooted_le (path : List Char) : (rooted path).length ≤ path.length + 1 := by
  rw [rooted]
  split
  · exact Nat.le_succ _
  · exact Nat.le_refl _

theorem joinNames_ne_nil (names : List (List Char)) : joinNames names ≠ [] := by
  simp only [joinNames]
  split
  · exact List.cons_ne_nil _ _
  · rename_i filled
    simpa using filled

theorem head?_followed (rest : List Char) : (followed rest).head? = some '/' := by
  have filled : joinNames (splitAt '/' (withTail [] [] rest).path) ++
      marked ';' (withTail [] [] rest).parameters ≠ [] :=
    List.append_ne_nil_of_left_ne_nil (joinNames_ne_nil _) _
  have root := head?_rooted filled
  simp only [followed, List.append_assoc]
  simp [List.head?_append, root]

theorem length_rooted_joinNames_le {path : List Char} (root : path.head? = some '/') :
    (rooted (joinNames (splitAt '/' path))).length ≤ path.length := by
  have filled : path ≠ [] := by
    rintro rfl
    cases root
  have names := weight_splitAt path
  rcases follow_cases [] (splitAt '/' path) with ⟨plain, _⟩ | ⟨_, lighter⟩
  · rw [joinNames_of_plain filled plain, rooted_of_root root]
  · have last := weight_closing_le (splitAt '/' path)
    have all : weight (follow [] (splitAt '/' path) ++ closing (splitAt '/' path)) ≤
        path.length := by
      rw [weight_append]
      rw [weight_nil] at lighter
      omega
    generalize reached : follow [] (splitAt '/' path) ++ closing (splitAt '/' path) = names at all
    simp only [joinNames, reached]
    split
    · exact List.length_pos_iff.mpr filled
    · rename_i some
      have several : names ≠ [] := by
        rintro rfl
        exact some rfl
      have length := length_intercalate several
      have slash := length_rooted_le (List.intercalate ['/'] names)
      omega

theorem rooted_append {path : List Char} (filled : path ≠ []) (behind : List Char) :
    rooted (path ++ behind) = rooted path ++ behind := by
  cases path with
  | nil => exact absurd rfl filled
  | cons first rest =>
      by_cases root : first = '/'
      · simp [rooted, root]
      · simp [rooted, root]

theorem splitOnce_marked_eq_iff {mark : Char} {text : List Char} :
    (splitOnce mark text).1 ++ marked mark ((splitOnce mark text).2.getD []) = text ↔
      (splitOnce mark text).2 ≠ some [] := by
  by_cases member : mark ∈ text
  · obtain ⟨before, behind, rfl, absent⟩ := List.eq_append_cons_of_mem member
    rw [Text.splitOnce_separated absent]
    cases behind <;> simp [marked]
  · rw [Text.splitOnce_of_not_mem member]
    simp [marked]

theorem length_splitOnce_le (mark : Char) (text : List Char) :
    (splitOnce mark text).1.length + (marked mark ((splitOnce mark text).2.getD [])).length ≤
      text.length := by
  by_cases member : mark ∈ text
  · obtain ⟨before, behind, rfl, absent⟩ := List.eq_append_cons_of_mem member
    rw [Text.splitOnce_separated absent]
    cases behind <;> simp [marked]
  · rw [Text.splitOnce_of_not_mem member]
    simp [marked]

theorem length_followed_le {rest : List Char} (root : rest.head? = some '/') :
    (followed rest).length ≤ rest.length := by
  have fragment := length_splitOnce_le '#' rest
  have before := head?_splitOnce root (show '#' ≠ '/' by decide)
  have query := length_splitOnce_le '?' (splitOnce '#' rest).1
  have path := head?_splitOnce before (show '?' ≠ '/' by decide)
  obtain ⟨front, name, same, whole⟩ := exists_last_name path
  have parameters := length_splitOnce_le ';' name
  have head := root_withTail root [] []
  simp only [withTail, same, splitParameters_separated front whole] at head
  have names := length_rooted_joinNames_le head
  have total := congrArg List.length same
  simp only [List.length_append, List.length_cons] at names total
  simp only [followed, withTail, same, splitParameters_separated front whole,
    rooted_append (joinNames_ne_nil _), List.length_append]
  omega

end LedgerRules.Url
