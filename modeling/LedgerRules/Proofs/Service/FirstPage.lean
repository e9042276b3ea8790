import LedgerRules.Proofs.Service.Following

/-!
The URL of the first page of a resource: the base, the resource and the parameters of the query.
-/

namespace LedgerRules.Url

/-! The parameters of a query. -/

/-- A visible character other than the mark of a fragment. -/
def IsQueryCharacter (character : Char) : Prop := isVisible character ∧ character ≠ '#'

theorem exists_hexDigit {width value : Nat} {digit : Char}
    (member : digit ∈ Text.hexDigits width value) : ∃ small < 16, digit = Text.hexDigit small := by
  induction width generalizing value with
  | zero => cases member
  | succ width ih =>
      rw [Text.hexDigits, List.mem_append, List.mem_singleton] at member
      rcases member with earlier | rfl
      · exact ih earlier
      · exact ⟨_, Nat.mod_lt _ (by decide), rfl⟩

theorem isQueryCharacter_of_isPlainByte {byte : UInt8} (plain : isPlainByte byte) :
    IsQueryCharacter (Char.ofNat byte.toNat) := by
  simp only [isPlainByte, Bool.and_eq_true, Bool.or_eq_true, beq_iff_eq] at plain
  rcases plain.2 with (((word | underscore) | point) | dash) | tilde
  · obtain ⟨low, high⟩ := visible_of_isAlphanum word
    refine ⟨?_, fun same => ?_⟩
    · simp only [isVisible, Bool.and_eq_true, decide_eq_true_eq]
      omega
    · rw [same] at low
      exact absurd low (by decide)
  · rw [underscore]; exact ⟨by decide, by decide⟩
  · rw [point]; exact ⟨by decide, by decide⟩
  · rw [dash]; exact ⟨by decide, by decide⟩
  · rw [tilde]; exact ⟨by decide, by decide⟩

theorem isQueryCharacter_encodeByte {byte : UInt8} :
    ∀ character ∈ encodeByte byte, IsQueryCharacter character := by
  intro character member
  rw [encodeByte] at member
  split at member
  · rename_i plain
    rw [List.mem_singleton.mp member]
    exact isQueryCharacter_of_isPlainByte plain
  · split at member
    · rw [List.mem_singleton.mp member]
      exact ⟨by decide, by decide⟩
    · rcases List.mem_cons.mp member with rfl | digit
      · exact ⟨by decide, by decide⟩
      · obtain ⟨lower, inside, rfl⟩ := List.mem_map.mp digit
        obtain ⟨small, bound, rfl⟩ := exists_hexDigit inside
        have each : ∀ value < 16, isVisible (Text.hexDigit value).toUpper ∧
            (Text.hexDigit value).toUpper ≠ '#' := by decide
        exact each small bound

theorem isQueryCharacter_encodeParameter {parameter : String × String} :
    ∀ character ∈ encodeParameter parameter, IsQueryCharacter character := by
  have text {text : String} : ∀ character ∈ encodeText text, IsQueryCharacter character := by
    intro character member
    obtain ⟨byte, _, inside⟩ := List.mem_flatMap.mp member
    exact isQueryCharacter_encodeByte _ inside
  exact List.forall_mem_append.mpr ⟨text, List.forall_mem_cons.mpr ⟨⟨by decide, by decide⟩, text⟩⟩

theorem isQueryCharacter_encodeParameters (parameters : List (String × String)) :
    ∀ character ∈ (encodeParameters parameters).toList, IsQueryCharacter character := by
  rw [encodeParameters, String.toList_ofList]
  induction parameters with
  | nil => nofun
  | cons parameter rest ih =>
      cases rest with
      | nil =>
          rw [List.map_singleton, List.intercalate_singleton]
          exact isQueryCharacter_encodeParameter
      | cons next others =>
          rw [List.map_cons, List.map_cons, List.intercalate_cons_cons, ← List.map_cons]
          refine List.forall_mem_append.mpr ⟨List.forall_mem_append.mpr
            ⟨isQueryCharacter_encodeParameter, ?_⟩, ih⟩
          exact List.forall_mem_singleton.mpr ⟨by decide, by decide⟩

/-- A resource in printable characters has a first page, and its URL is requested as it is. -/
theorem ofPath_plain {base resource : String} (isBase : IsBase base)
    (plain : IsPlain resource.toList) {parameters : List (String × String)}
    (given : parameters ≠ []) :
    ∃ first, ofPath base resource parameters = .ok first ∧ target first = .ok first ∧
      IsSendable first := by
  have rooted : ∃ path : String,
      (if resource.toList.head? == some '/' then resource else "/" ++ resource) = path ∧
        IsFollowable path.toList := by
    refine ⟨_, rfl, ?_⟩
    split
    · rename_i root
      exact ⟨plain, .inl (by simpa using root)⟩
    · have path : ("/" ++ resource).toList = '/' :: resource.toList := by simp
      rw [path]
      refine ⟨⟨List.forall_mem_cons.mpr ⟨by decide, plain.visible⟩, ?_⟩, .inl rfl⟩
      simpa using plain.unbracketed
  obtain ⟨path, same, followable⟩ := rooted
  obtain ⟨scheme, web, authority, host, baseText⟩ := isBase
  obtain ⟨resolved, joined, isWebUrl⟩ := join_followable web host ⟨.nil, .nil⟩ baseText followable
  have filled : parameters.isEmpty = false := by simpa using given
  have query := isQueryCharacter_encodeParameters parameters
  refine ⟨resolved ++ "?" ++ encodeParameters parameters, ?_, ?_⟩
  · simp only [ofPath, same, joined, filled, bind, Except.bind, pure, Except.pure,
      Bool.false_eq_true, if_false]
  · generalize encodeParameters parameters = encoded at query ⊢
    have text : (resolved ++ "?" ++ encoded).toList = resolved.toList ++ '?' :: encoded.toList := by
      simp
    have whole : IsWebUrl (isVisible ·) (resolved ++ "?" ++ encoded).toList := by
      rw [text]
      exact isWebUrl.append (by decide) (.cons (by decide) fun _ member => (query _ member).1)
    have unmarked : (resolved ++ "?" ++ encoded).toList.getLast? ≠ some '#' := by
      rw [text, List.getLast?_append_of_ne_nil _ (List.cons_ne_nil _ _)]
      intro last
      rcases List.mem_cons.mp (List.mem_of_getLast? last) with mark | member
      · exact absurd mark (by decide)
      · exact (query _ member).2 rfl
    refine ⟨?_, whole.isSendable⟩
    rw [target_of_isWebUrl whole.solid, withoutEmptyFragment, if_neg unmarked,
      String.ofList_toList]

example : ofPath "https://api.toshl.com" "tags" [("per_page", "500"), ("since", "1 April")] =
    .ok "https://api.toshl.com/tags?per_page=500&since=1+April" := by
  decide +kernel

end LedgerRules.Url
