import LedgerRules.Proofs.Service.FirstRequest
import LedgerRules.Proofs.Service.Segment

/-!
Where a record is written to. Its id stands behind the resource as it is given, and the path is then
followed from the root of the base. What is requested is no longer than the path that was given, and
a segment is no shorter than its text; so the address names the record only if nothing has been
changed on the way: the base has no path of its own, and the id is a segment by itself. Such an
address is sent if all that stands behind the root is visible.
-/

namespace LedgerRules

namespace Url

open Text (splitOnce splitAt)

/-! What is reached from the root of a base. -/

def reached (rest : List Char) : List Char :=
  withoutEmptyFragment (Text.dropLastBlanks (followed rest))

theorem prefix_reached (rest : List Char) : reached rest <+: followed rest :=
  (prefix_withoutEmptyFragment _).trans (Text.prefix_dropLastBlanks _)

theorem length_reached_le {rest : List Char} (root : rest.head? = some '/') :
    (reached rest).length ≤ rest.length :=
  (prefix_reached rest).length_le.trans (length_followed_le root)

theorem unchanged_of_reached {rest : List Char} (root : rest.head? = some '/')
    (same : reached rest = rest) : followed rest = rest ∧ Text.dropLastBlanks rest = rest := by
  have within := prefix_reached rest
  rw [same] at within
  have kept := (within.eq_of_length_le (length_followed_le root)).symm
  have ends := prefix_withoutEmptyFragment (Text.dropLastBlanks (followed rest))
  rw [← reached, same, kept] at ends
  exact ⟨kept, (Text.prefix_dropLastBlanks rest).eq_of_length_le ends.length_le⟩

theorem head?_reached (rest : List Char) : (reached rest).head? = some '/' := by
  obtain ⟨more, slash⟩ := List.head?_eq_some_iff.mp (head?_followed rest)
  have solid : IsSolid ['/'] := .cons (by decide) .nil
  have trimmed := Text.dropLastBlanks_append solid more
  rw [reached, slash, ← List.singleton_append, trimmed]
  cases Text.dropLastBlanks more with
  | nil => rfl
  | cons first others =>
      rw [withoutEmptyFragment_behind _ (List.cons_ne_nil first others)]
      rfl

/-! The last name of a path. -/

/-- A text that is one segment of a path by itself. -/
structure IsSegment (text : List Char) : Prop where
  whole : ∀ mark ∈ ['/', '?', '#'], mark ∉ text
  unbroken : ∀ mark ∈ ['\t', '\r', '\n'], mark ∉ text
  unescaped : ¬Segment.HasEscape text
  closed : ∀ last ∈ text.getLast?, Text.isBlank last = false
  proper : ¬IsPoints (splitOnce ';' text).1
  filled : (splitOnce ';' text).2 ≠ some []

section Name

variable {word : List Char} (isWord : IsWord word)
include isWord

theorem joinNames_points {name : List Char} (points : IsPoints name) :
    joinNames [[], word, name] = '/' :: word ++ ['/'] ∨ joinNames [[], word, name] = ['/'] := by
  obtain ⟨one, two⟩ := isWord.proper
  rcases points with rfl | rfl
  · have names : follow [] [[], word, ['.']] ++ closing [[], word, ['.']] = [[], word, []] := by
      simp [follow, closing, one, two]
    have joined : List.intercalate ['/'] [[], word, []] = '/' :: word ++ ['/'] := by
      rw [List.intercalate_cons_cons, List.intercalate_cons_cons, List.intercalate_singleton]
      simp
    refine .inl ?_
    simp only [joinNames, names, joined]
    rfl
  · have names : follow [] [[], word, ['.', '.']] ++ closing [[], word, ['.', '.']] = [[], []] := by
      simp [follow, closing, one, two]
    refine .inr ?_
    simp only [joinNames, names]
    rfl

theorem splitAt_name {name : List Char} (whole : '/' ∉ name) :
    splitAt '/' ('/' :: word ++ '/' :: name) = [[], word, name] := by
  have first : splitAt '/' ([] ++ '/' :: (word ++ '/' :: name)) =
      [] :: splitAt '/' (word ++ '/' :: name) :=
    Text.splitAt_separated (by decide) _
  rwa [Text.splitAt_separated (isWord.whole '/' (by decide)),
    Text.splitAt_of_not_mem whole] at first

theorem not_mem_name {mark : Char} {name : List Char} (other : mark ≠ '/')
    (marked : mark ∈ ['?', '#', ';']) (absent : mark ∉ name) :
    mark ∉ '/' :: word ++ '/' :: name := by
  intro member
  rcases List.mem_append.mp member with before | behind
  · exact isWord.not_mem_rooted marked before
  · rcases List.mem_cons.mp behind with slash | own
    · exact other slash
    · exact absent own

section Whole

variable {name : List Char} (whole : ∀ mark ∈ ['/', '?', '#'], mark ∉ name)
include whole

theorem followed_name :
    followed ('/' :: word ++ '/' :: name) =
      rooted (joinNames [[], word, (splitOnce ';' name).1] ++
        marked ';' ((splitOnce ';' name).2.getD [])) := by
  have fragment : '#' ∉ '/' :: word ++ '/' :: name :=
    not_mem_name isWord (by decide) (by decide) (whole '#' (by decide))
  have query : '?' ∉ '/' :: word ++ '/' :: name :=
    not_mem_name isWord (by decide) (by decide) (whole '?' (by decide))
  have slash : '/' ∉ name := whole '/' (by decide)
  have own : '/' ∉ (splitOnce ';' name).1 := fun member =>
    slash (Text.mem_of_mem_splitOnce (.inl member))
  simp only [followed, withTail, Text.splitOnce_of_not_mem fragment,
    Text.splitOnce_of_not_mem query, splitParameters_separated _ slash, splitAt_name isWord own]
  simp [marked]

theorem followed_name_eq_iff :
    followed ('/' :: word ++ '/' :: name) = '/' :: word ++ '/' :: name ↔
      ¬IsPoints (splitOnce ';' name).1 ∧ (splitOnce ';' name).2 ≠ some [] := by
  have slash : '/' ∉ (splitOnce ';' name).1 := fun member =>
    whole '/' (by decide) (Text.mem_of_mem_splitOnce (.inl member))
  have names := splitAt_name isWord slash
  rw [followed_name isWord whole]
  by_cases points : IsPoints (splitOnce ';' name).1
  · refine iff_of_false (fun same => ?_) (fun own => own.1 points)
    have parameters := length_splitOnce_le ';' name
    have some : 0 < (splitOnce ';' name).1.length := by
      rcases points with one | two
      · simp [one]
      · simp [two]
    have total := congrArg List.length same
    rw [rooted_append (joinNames_ne_nil _)] at total
    rcases joinNames_points isWord points with back | back
    · rw [back, rooted_of_root rfl] at total
      simp only [List.length_append, List.length_cons, List.length_nil] at total
      omega
    · rw [back, rooted_of_root rfl] at total
      simp only [List.length_append, List.length_cons, List.length_nil] at total
      omega
  · have plain : ∀ other ∈ [[], word, (splitOnce ';' name).1], ¬IsPoints other :=
      List.forall_mem_cons.mpr ⟨not_isPoints_nil, List.forall_mem_cons.mpr
        ⟨isWord.not_isPoints, List.forall_mem_singleton.mpr points⟩⟩
    have kept : joinNames [[], word, (splitOnce ';' name).1] =
        '/' :: word ++ '/' :: (splitOnce ';' name).1 := by
      rw [← names] at plain ⊢
      exact joinNames_of_plain (List.cons_ne_nil _ _) plain
    rw [kept, rooted_of_root rfl, List.append_assoc, List.append_cancel_left_eq, List.cons_append,
      List.cons.injEq, splitOnce_marked_eq_iff]
    simp [points]

end Whole

theorem dropLastBlanks_name (name : List Char) :
    Text.dropLastBlanks ('/' :: word ++ '/' :: name) =
      '/' :: word ++ '/' :: Text.dropLastBlanks name := by
  have solid : IsSolid ('/' :: word ++ ['/']) :=
    Consists.append (.cons (by decide) isWord.solid) (.cons (by decide) .nil)
  have behind := Text.dropLastBlanks_append solid name
  rwa [List.append_assoc, List.append_assoc] at behind

theorem unchanged_of_isSegment {name : List Char} (isSegment : IsSegment name) :
    followed ('/' :: word ++ '/' :: name) = '/' :: word ++ '/' :: name ∧
      Text.dropLastBlanks ('/' :: word ++ '/' :: name) = '/' :: word ++ '/' :: name ∧
      '#' ∉ '/' :: word ++ '/' :: name := by
  have ends := Text.dropLastBlanks_eq_self_iff.mpr isSegment.closed
  exact ⟨(followed_name_eq_iff isWord isSegment.whole).mpr ⟨isSegment.proper, isSegment.filled⟩,
    by rw [dropLastBlanks_name isWord, ends],
    not_mem_name isWord (by decide) (by decide) (isSegment.whole '#' (by decide))⟩

theorem reached_of_isSegment {name : List Char} (isSegment : IsSegment name) :
    reached ('/' :: word ++ '/' :: name) = '/' :: word ++ '/' :: name := by
  obtain ⟨kept, ends, unmarked⟩ := unchanged_of_isSegment isWord isSegment
  rw [reached, kept, ends, withoutEmptyFragment_of_not_mem unmarked]

theorem exists_segment_iff {path : List Char} {id : String} :
    (∃ segment, Segment.Writes segment id ∧
        reached ('/' :: word ++ '/' :: withoutBreaks id.toList) =
          path ++ '/' :: word ++ '/' :: segment) ↔
      path = [] ∧ IsSegment id.toList := by
  constructor
  · rintro ⟨segment, writes, same⟩
    have longer := writes.length_le
    have shorter : (reached ('/' :: word ++ '/' :: withoutBreaks id.toList)).length ≤
        ('/' :: word ++ '/' :: withoutBreaks id.toList).length := length_reached_le rfl
    have filtered : (withoutBreaks id.toList).Sublist id.toList := List.filter_sublist
    have fewer := filtered.length_le
    have total := congrArg List.length same
    simp only [List.length_append, List.length_cons] at shorter total
    have nothing : path = [] := List.length_eq_zero_iff.mp (by omega)
    have whole : segment = id.toList := writes.eq_of_length_le (by omega)
    have unbroken := filtered.eq_of_length (by omega)
    subst whole
    rw [nothing, List.nil_append, unbroken] at same
    obtain ⟨kept, ends⟩ := unchanged_of_reached rfl same
    obtain ⟨proper, filled⟩ := (followed_name_eq_iff isWord writes.whole).mp kept
    rw [dropLastBlanks_name isWord, List.append_cancel_left_eq, List.cons.injEq] at ends
    exact ⟨nothing, writes.whole, withoutBreaks_eq_self_iff.mp unbroken,
      Segment.bytes_eq_encode_iff.mp writes.bytes, Text.dropLastBlanks_eq_self_iff.mp ends.2,
      proper, filled⟩
  · rintro ⟨rfl, isSegment⟩
    have unbroken := withoutBreaks_eq_self_iff.mpr isSegment.unbroken
    refine ⟨id.toList, ⟨isSegment.whole, Segment.bytes_eq_encode_iff.mpr isSegment.unescaped⟩, ?_⟩
    rw [unbroken, reached_of_isSegment isWord isSegment]
    rfl

end Name

/-! The address of a record. -/

/-- The path of a record from the root, as it is joined to the base. -/
def joinedPath (resource id : String) : String :=
  String.ofList (followed ('/' :: withoutBreaks (resource.toList ++ '/' :: id.toList)))

/-- The path of a record from the root, as it is requested. -/
def recordPath (resource id : String) : String :=
  String.ofList (reached ('/' :: withoutBreaks (resource.toList ++ '/' :: id.toList)))

/-- One segment behind the base and the resource is read as the id. -/
def Addresses (base resource id url : String) : Prop :=
  ∃ segment, Segment.Writes segment id ∧
    url.toList = base.toList ++ '/' :: resource.toList ++ '/' :: segment

theorem head?_recordPath (resource id : String) :
    (recordPath resource id).toList.head? = some '/' := by
  rw [recordPath, String.toList_ofList, head?_reached]

section Record

variable {resource : String} (isWord : IsWord resource.toList)
include isWord

theorem withoutBreaks_record (id : String) :
    withoutBreaks (resource.toList ++ '/' :: id.toList) =
      resource.toList ++ '/' :: withoutBreaks id.toList := by
  have slash : withoutBreaks ('/' :: id.toList) = '/' :: withoutBreaks id.toList :=
    List.filter_cons_of_pos (by decide)
  rw [withoutBreaks_append, withoutBreaks_eq_self isWord.solid, slash]

theorem toList_joinedPath (id : String) :
    (joinedPath resource id).toList =
      followed ('/' :: resource.toList ++ '/' :: withoutBreaks id.toList) := by
  rw [joinedPath, String.toList_ofList, withoutBreaks_record isWord]
  rfl

theorem toList_recordPath (id : String) :
    (recordPath resource id).toList =
      reached ('/' :: resource.toList ++ '/' :: withoutBreaks id.toList) := by
  rw [recordPath, String.toList_ofList, withoutBreaks_record isWord]
  rfl

theorem paths_of_isSegment {id : String} (isSegment : IsSegment id.toList) :
    joinedPath resource id = "/" ++ resource ++ "/" ++ id ∧
      recordPath resource id = "/" ++ resource ++ "/" ++ id := by
  have unbroken := withoutBreaks_eq_self_iff.mpr isSegment.unbroken
  have path : ("/" ++ resource ++ "/" ++ id).toList =
      '/' :: resource.toList ++ '/' :: id.toList := by simp
  constructor
  · rw [← String.toList_inj, toList_joinedPath isWord, unbroken,
      (unchanged_of_isSegment isWord isSegment).1, path]
  · rw [← String.toList_inj, toList_recordPath isWord, unbroken,
      reached_of_isSegment isWord isSegment, path]

theorem eq_of_recordPath_eq {other id otherId : String} (isWordToo : IsWord other.toList)
    (isSegment : IsSegment id.toList) (isSegmentToo : IsSegment otherId.toList)
    (same : recordPath resource id = recordPath other otherId) :
    resource = other ∧ id = otherId := by
  rw [(paths_of_isSegment isWord isSegment).2, (paths_of_isSegment isWordToo isSegmentToo).2,
    ← String.toList_inj] at same
  simp only [String.toList_append, List.append_assoc] at same
  have behind := List.append_cancel_left same
  have split := congrArg (splitOnce '/') behind
  change splitOnce '/' (resource.toList ++ '/' :: id.toList) =
    splitOnce '/' (other.toList ++ '/' :: otherId.toList) at split
  rw [Text.splitOnce_separated (isWord.whole '/' (by decide)),
    Text.splitOnce_separated (isWordToo.whole '/' (by decide))] at split
  obtain ⟨first, second⟩ := Prod.mk.inj split
  exact ⟨String.toList_inj.mp first, String.toList_inj.mp (Option.some.inj second)⟩

theorem isSendable_iff {root : String} (isBase : IsBase root) {id : String}
    (isSegment : IsSegment id.toList) :
    IsSendable (root ++ joinedPath resource id) ↔
      Consists (isVisible ·) resource.toList ∧ Consists (isVisible ·) id.toList := by
  obtain ⟨kept, ends, unmarked⟩ := unchanged_of_isSegment isWord isSegment
  have unbroken := withoutBreaks_eq_self_iff.mpr isSegment.unbroken
  have path := toList_joinedPath isWord id
  rw [unbroken, kept] at path
  have slash : isVisible '/' = true := by decide
  have joined : joinedPath resource id =
      String.ofList ('/' :: resource.toList ++ '/' :: id.toList) := by
    rw [← String.toList_inj, path, String.toList_ofList]
  rw [joined, isBase.isSendable_append rfl, ends, splitFragment_of_not_mem unmarked]
  simp only [Consists, List.cons_append, List.forall_mem_cons, List.forall_mem_append, slash,
    true_and]

variable {root base : String} (isRoot : IsRootOf root base)
include isRoot

theorem addresses_iff {id : String} :
    Addresses base resource id (root ++ recordPath resource id) ↔
      base = root ∧ IsSegment id.toList := by
  obtain ⟨path, -, whole⟩ := isRoot.behind
  have own : base = root ↔ path = [] := by
    rw [← String.toList_inj, whole, List.append_right_eq_self]
  rw [own, ← exists_segment_iff isWord, Addresses]
  simp only [String.toList_append, toList_recordPath isWord, whole, List.append_assoc,
    List.append_cancel_left_eq]

theorem ofPath_record (named : resource ≠ "") (id : String) :
    ofPath base (resource ++ "/" ++ id) [] = .ok (root ++ joinedPath resource id) ∧
      target (root ++ joinedPath resource id) = .ok (root ++ recordPath resource id) := by
  have first (rest : List Char) : (resource.toList ++ rest).head? ≠ some '/' := by
    have filled : resource.toList ≠ [] := by simpa using named
    rw [List.head?_append_of_ne_nil _ filled]
    exact fun slash => isWord.whole '/' (by decide) (List.mem_of_mem_head? slash)
  have relative : ¬(resource ++ "/" ++ id).toList.head? = some '/' := by
    simpa using first ('/' :: id.toList)
  have path : ("/" ++ (resource ++ "/" ++ id)).toList =
      '/' :: (resource.toList ++ '/' :: id.toList) := by
    simp
  have single : (withoutBreaks (resource.toList ++ '/' :: id.toList)).head? ≠ some '/' := by
    rw [withoutBreaks_record isWord]
    exact first _
  refine ⟨?_, isRoot.isBase.target_append (head?_followed _)⟩
  simp only [ofPath, beq_iff_eq, relative, if_false, isRoot.join_slash path single, joinedPath,
    bind, Except.bind, pure, Except.pure, List.isEmpty_nil, if_true]

end Record

end Url

namespace Client

open Effect

section Requests

variable {client : Client} {root resource : String}
  (isRoot : Url.IsRootOf root client.baseUrl) (isWord : Url.IsWord resource.toList)
include isRoot isWord

theorem outcome_fetchAll_of_obstacle {query : Json.Fields} {error : ServiceError}
    (obstructed : client.obstacle? .get
      (Url.listUrl root resource (client.listParameters query)) none = some error)
    (connection : Connection) :
    outcome (client.fetchAll resource query) connection = (.error error, connection) := by
  rw [fetchAll, outcome_bind_ok (outcome_get connection), outcome_bind_ok (outcome_lift _ _),
    pages_of_obstacle isRoot isWord obstructed]
  rfl

variable (named : resource ≠ "") {id : String} {record : Option Json}
include named

theorem outcome_replace_of_obstacle {error : ServiceError}
    (obstructed : client.obstacle? .put (root ++ Url.joinedPath resource id) record = some error)
    (connection : Connection) :
    outcome (client.replace resource id record) connection = (.error error, connection) := by
  obtain ⟨built, requested⟩ := Url.ofPath_record isWord isRoot named id
  rw [replace, built, outcome_bind]
  change outcome (client.send .put (root ++ Url.joinedPath resource id) resource record >>= _)
    connection = _
  rw [outcome_bind, outcome_send_of_obstacle requested resource connection obstructed]

theorem requests_replace
    (free : client.obstacle? .put (root ++ Url.joinedPath resource id) record = none)
    (connection : Connection) :
    (outcome (client.replace resource id record) connection).2.requests =
      connection.requests ++
        [client.request .put (root ++ Url.recordPath resource id) record] := by
  obtain ⟨built, requested⟩ := Url.ofPath_record isWord isRoot named id
  have sent := requests_send requested resource connection free
  rw [replace, built, outcome_bind]
  change (outcome (client.send .put (root ++ Url.joinedPath resource id) resource record >>= _)
    connection).2.requests = _
  rw [outcome_bind, ← sent]
  generalize outcome (client.send .put _ resource record) connection = reply
  obtain ⟨error | ⟨value, headers⟩, after⟩ := reply <;> rfl

end Requests

/-- Lists and records are asked for behind the root of the base, whatever the id, unless something
keeps the request from being sent. The address is that of the record exactly if the base has no path
and the id is a segment as it stands, and then a client of the web sends it exactly if it is
visible. -/
theorem records_addressed_iff {client : Client} {root resource : String}
    (isRoot : Url.IsRootOf root client.baseUrl) (isWord : Url.IsWord resource.toList)
    (named : resource ≠ "") :
    (∀ query connection,
      match client.obstacle? .get
        (Url.listUrl root resource (client.listParameters query)) none with
      | some error =>
          outcome (client.fetchAll resource query) connection = (.error error, connection)
      | none => ∃ later, (outcome (client.fetchAll resource query) connection).2.requests =
          connection.requests ++
            client.request .get (Url.listUrl root resource (client.listParameters query)) none ::
              later) ∧
    (∀ id, (Url.recordPath resource id).toList.head? = some '/' ∧ ∀ record connection,
      match client.obstacle? .put (root ++ Url.joinedPath resource id) record with
      | some error =>
          outcome (client.replace resource id record) connection = (.error error, connection)
      | none => (outcome (client.replace resource id record) connection).2.requests =
          connection.requests ++
            [client.request .put (root ++ Url.recordPath resource id) record]) ∧
    (∀ id, (Url.Addresses client.baseUrl resource id (root ++ Url.recordPath resource id) ↔
        client.baseUrl = root ∧ Url.IsSegment id.toList) ∧
      (Url.IsSegment id.toList → Url.joinedPath resource id = "/" ++ resource ++ "/" ++ id ∧
        Url.recordPath resource id = "/" ++ resource ++ "/" ++ id ∧
        (Transport.http.refusal? Method.put.name (root ++ Url.joinedPath resource id) = none ↔
          Url.Consists (Url.isVisible ·) resource.toList ∧
            Url.Consists (Url.isVisible ·) id.toList))) ∧
    ∀ other, Url.IsWord other.toList → ∀ id otherId,
      Url.IsSegment id.toList → Url.IsSegment otherId.toList →
        Url.recordPath resource id = Url.recordPath other otherId →
          resource = other ∧ id = otherId := by
  refine ⟨fun query connection => ?_, fun id => ⟨Url.head?_recordPath resource id, ?_⟩,
    fun id => ⟨Url.addresses_iff isWord isRoot, fun isSegment => ?_⟩,
    fun other isWordToo id otherId => Url.eq_of_recordPath_eq isWord isWordToo⟩
  · cases obstacle : client.obstacle? .get
        (Url.listUrl root resource (client.listParameters query)) none with
    | some error => exact outcome_fetchAll_of_obstacle isRoot isWord obstacle connection
    | none =>
        rw [requests_fetchAll]
        exact requests_pages isRoot isWord obstacle _ connection
  · intro record connection
    cases obstacle : client.obstacle? .put (root ++ Url.joinedPath resource id) record with
    | some error => exact outcome_replace_of_obstacle isRoot isWord named obstacle connection
    | none => exact requests_replace isRoot isWord named obstacle connection
  · obtain ⟨joined, requested⟩ := Url.paths_of_isSegment isWord isSegment
    exact ⟨joined, requested, Transport.http_refusal?_eq_none.trans
      (Url.isSendable_iff isWord isRoot.isBase isSegment)⟩

theorem isSegment_entryId : Url.IsSegment "E1".toList where
  whole := by simp
  unbroken := by simp
  unescaped := Segment.not_hasEscape_of_not_mem (by decide +kernel)
  closed := by simp [Text.isBlank]
  proper := not_or.mpr ⟨by decide +kernel, by decide +kernel⟩
  filled := by decide +kernel

def nestedClient : Client := ⟨⟨"https://api.toshl.com/v1", "token", 500, 30⟩, .plain, .http⟩

theorem isRootOf_nested : Url.IsRootOf tagsClient.baseUrl nestedClient.baseUrl := by
  have solid : ("/v1".toList.all fun character => !Text.isBlank character) = true := by
    decide +kernel
  exact ⟨isBase_tags, "/v1".toList, ⟨by simpa [Url.Consists] using solid, .cons (by decide)⟩,
    by decide +kernel⟩

/-- Two points lead from an entry to a tag, a path of the base is lost, and two ids may share an
address. -/
theorem entry_led_elsewhere :
    ((outcome (tagsClient.replace "entries" "../tags/T1" none) ⟨[], [], []⟩).2.requests =
        [tagsClient.request .put "https://api.toshl.com/tags/T1" none] ∧
      ¬Url.Addresses tagsClient.baseUrl "entries" "../tags/T1" "https://api.toshl.com/tags/T1") ∧
    ((outcome (nestedClient.replace "entries" "E1" none) ⟨[], [], []⟩).2.requests =
        [nestedClient.request .put "https://api.toshl.com/entries/E1" none] ∧
      ¬Url.Addresses nestedClient.baseUrl "entries" "E1" "https://api.toshl.com/entries/E1") ∧
    (outcome (tagsClient.replace "entries" "E1;" none) ⟨[], [], []⟩).2.requests =
      (outcome (tagsClient.replace "entries" "E1" none) ⟨[], [], []⟩).2.requests := by
  have led : tagsClient.baseUrl ++ Url.recordPath "entries" "../tags/T1" =
      "https://api.toshl.com/tags/T1" := by decide +kernel
  have straight : tagsClient.baseUrl ++ Url.recordPath "entries" "E1" =
      "https://api.toshl.com/entries/E1" := by decide +kernel
  have shared : Url.recordPath "entries" "E1;" = Url.recordPath "entries" "E1" := by
    decide +kernel
  have own {id : String}
      (sendable : Url.IsSendable (tagsClient.baseUrl ++ Url.joinedPath "entries" id)) :
      (outcome (tagsClient.replace "entries" id none) ⟨[], [], []⟩).2.requests =
        [tagsClient.request .put (tagsClient.baseUrl ++ Url.recordPath "entries" id) none] :=
    requests_replace isBase_tags.isRootOf Url.isWord_entries (by decide)
      (obstacle?_of_isSendable sendable .put) _
  have sendable : Url.IsSendable (tagsClient.baseUrl ++ Url.joinedPath "entries" "E1") := by
    decide +kernel
  refine ⟨⟨?_, fun addressed => ?_⟩, ⟨?_, fun addressed => ?_⟩, ?_⟩
  · rw [own (by decide +kernel), led]
  · rw [← led, Url.addresses_iff Url.isWord_entries isBase_tags.isRootOf] at addressed
    exact addressed.2.whole '/' (by decide) (by decide +kernel)
  · have nested := requests_replace isRootOf_nested Url.isWord_entries (by decide)
      (obstacle?_of_isSendable sendable .put) ⟨[], [], []⟩
    rwa [straight] at nested
  · rw [← straight, Url.addresses_iff Url.isWord_entries isRootOf_nested] at addressed
    exact absurd addressed.1 (by decide +kernel)
  · rw [own (by decide +kernel), own sendable, shared]

/-- An id that can be sent is addressed; a blank in it keeps the request from being sent. -/
theorem entry_addressed_from_root :
    (Url.IsRootOf tagsClient.baseUrl tagsClient.baseUrl ∧
      Url.IsRootOf tagsClient.baseUrl nestedClient.baseUrl) ∧
      Url.IsWord "entries".toList ∧ "entries" ≠ "" ∧
      (outcome (tagsClient.replace "entries" "E1" none) ⟨[], [], []⟩).2.requests =
        [tagsClient.request .put "https://api.toshl.com/entries/E1" none] ∧
      Url.Addresses tagsClient.baseUrl "entries" "E1" "https://api.toshl.com/entries/E1" ∧
      (¬∃ id, Url.Addresses nestedClient.baseUrl "entries" id
        (tagsClient.baseUrl ++ Url.recordPath "entries" id)) ∧
      ∃ fault, outcome (tagsClient.replace "entries" "E 1" none) ⟨[], [], []⟩ =
        (.error (.refused fault), ⟨[], [], []⟩) := by
  have filled : "entries" ≠ "" := by decide
  obtain ⟨-, sent, addressed, -⟩ :=
    records_addressed_iff isBase_tags.isRootOf Url.isWord_entries filled
  obtain ⟨-, -, nested, -⟩ := records_addressed_iff isRootOf_nested Url.isWord_entries filled
  obtain ⟨own, paths⟩ := addressed "E1"
  obtain ⟨joined, requested, -⟩ := paths isSegment_entryId
  have located : tagsClient.baseUrl ++ ("/" ++ "entries" ++ "/" ++ "E1") =
      "https://api.toshl.com/entries/E1" := by decide +kernel
  refine ⟨⟨isBase_tags.isRootOf, isRootOf_nested⟩, Url.isWord_entries, filled, ?_, ?_, ?_, ?_⟩
  · have put := (sent "E1").2 none ⟨[], [], []⟩
    have free : tagsClient.obstacle? .put "https://api.toshl.com/entries/E1" none = none :=
      obstacle?_of_isSendable (by decide +kernel) .put
    rw [joined, requested, located, free] at put
    exact put
  · rw [← located, ← requested]
    exact own.mpr ⟨rfl, isSegment_entryId⟩
  · rintro ⟨id, reached⟩
    exact absurd ((nested id).1.mp reached).1 (by decide +kernel)
  · have put := (sent "E 1").2 none ⟨[], [], []⟩
    have spaced : tagsClient.baseUrl ++ Url.joinedPath "entries" "E 1" =
        "https://api.toshl.com/entries/E 1" := by decide +kernel
    obtain ⟨fault, refused⟩ :
        ∃ fault, tagsClient.obstacle? .put "https://api.toshl.com/entries/E 1" none =
          some (.refused fault) := ⟨.controlCharacter "/entries/E 1" ' ', by rfl⟩
    rw [spaced, refused] at put
    exact ⟨fault, put⟩

end Client

end LedgerRules
