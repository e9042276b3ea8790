import LedgerRules.Proofs.Json.AsciiString
import LedgerRules.Sync.State

/-!
A stored state is read back as it was written, whatever texts it holds. The content of the file is
followed character by character: two fields in braces, each a name and either a string or `null`.
-/

namespace LedgerRules

def optionalCharacters : Option String → List Char
  | none => ['n', 'u', 'l', 'l']
  | some text => '"' :: (text.toList.flatMap Json.asciiCharacter ++ ['"'])

def fieldCharacters (name : String) (value : Option String) (rest : List Char) : List Char :=
  '"' :: (name.toList ++ '"' :: ':' :: ' ' :: (optionalCharacters value ++ rest))

def secondField (rulesHash : Option String) : List Char :=
  ',' :: '\n' :: ' ' :: ' ' :: fieldCharacters "rules_hash" rulesHash ['\n', '}']

def stateCharacters (state : SyncState) : List Char :=
  '{' :: '\n' :: ' ' :: ' ' :: fieldCharacters "since" state.since (secondField state.rulesHash)

theorem toList_optional (depth : Nat) (value : Option String) :
    ((Json.ofOption .string value).indentedText depth).toList = optionalCharacters value := by
  cases value with
  | none => simp [Json.ofOption, Json.indentedText, Json.scalarText, optionalCharacters]
  | some text =>
      simp [Json.ofOption, Json.indentedText, Json.scalarText, Json.asciiString,
        optionalCharacters]

theorem toList_indentedText (state : SyncState) :
    (state.toJson.indentedText 0).toList = stateCharacters state := by
  have plainSince : Json.asciiString "since" = "\"since\"" := by decide
  have plainHash : Json.asciiString "rules_hash" = "\"rules_hash\"" := by decide
  simp [SyncState.toJson, Json.indentedText, Json.bracketLines, Json.indentedFields,
    stateCharacters, secondField, fieldCharacters, String.intercalate_cons_cons,
    String.toList_append, toList_optional, plainSince, plainHash]

namespace Json

theorem readValue_optional (value : Option String) (steps : Nat) (rest : List Char) :
    readValue (steps + 1) (optionalCharacters value ++ rest) =
      .ok (ofOption .string value, rest) := by
  cases value with
  | none => rfl
  | some text =>
      simp only [optionalCharacters, List.cons_append, List.append_assoc, List.nil_append,
        readValue]
      rw [readString_ascii]
      rfl

theorem skipSpaces_optional (value : Option String) (rest : List Char) :
    skipSpaces (optionalCharacters value ++ rest) = optionalCharacters value ++ rest := by
  cases value <;> rfl

def readOn (steps : Nat) (fields : Fields) (rest : List Char) : Attempt (Fields × List Char) :=
  match skipSpaces rest with
  | '}' :: rest => .ok (fields, rest)
  | ',' :: rest => readFields steps fields (skipSpaces rest)
  | rest => .error (.expectedComma, rest)

theorem readFields_field (name : String)
    (plain : name.toList.flatMap asciiCharacter = name.toList) (value : Option String)
    (fields : Fields) (steps : Nat) (rest : List Char) :
    readFields (steps + 2) fields (fieldCharacters name value rest) =
      readOn (steps + 1) (fields.insert name (ofOption .string value)) rest := by
  have named (opening rest : List Char) :
      readString opening (name.toList ++ '"' :: rest) = .ok (name, rest) := by
    have read := readString_ascii name opening rest
    rwa [plain] at read
  have colon (rest : List Char) : skipSpaces (':' :: rest) = ':' :: rest := rfl
  have space : skipSpaces (' ' :: (optionalCharacters value ++ rest)) =
      optionalCharacters value ++ rest := by
    calc skipSpaces (' ' :: (optionalCharacters value ++ rest))
        = skipSpaces (optionalCharacters value ++ rest) := rfl
      _ = optionalCharacters value ++ rest := skipSpaces_optional value rest
  rw [fieldCharacters, readFields]
  simp only [named, bind, Except.bind, colon, space, readValue_optional]
  rfl

theorem readFields_state (state : SyncState) (steps : Nat) :
    readFields (steps + 3) []
        (fieldCharacters "since" state.since (secondField state.rulesHash)) =
      .ok ([("since", ofOption .string state.since),
        ("rules_hash", ofOption .string state.rulesHash)], []) := by
  have comma : skipSpaces (secondField state.rulesHash) = secondField state.rulesHash := rfl
  have second : skipSpaces ('\n' :: ' ' :: ' ' ::
      fieldCharacters "rules_hash" state.rulesHash ['\n', '}']) =
      fieldCharacters "rules_hash" state.rulesHash ['\n', '}'] := rfl
  rw [readFields_field "since" (by decide), readOn, comma, secondField]
  simp only [second]
  rw [readFields_field "rules_hash" (by decide)]
  rfl

theorem readValue_state (state : SyncState) (steps : Nat) :
    readValue (steps + 4) (stateCharacters state) = .ok (state.toJson, []) := by
  calc readValue (steps + 4) (stateCharacters state)
      = (readFields (steps + 3) []
          (fieldCharacters "since" state.since (secondField state.rulesHash))).map
          fun read => (.object read.1, read.2) := rfl
    _ = .ok (state.toJson, []) := by
        rw [readFields_state]
        rfl

theorem read_stateText (state : SyncState) :
    read (state.toJson.indentedText 0) = .ok state.toJson := by
  have unmarked : ((stateCharacters state).head? == some '\uFEFF') = false := by
    simp [stateCharacters]
  have start : skipSpaces (stateCharacters state) = stateCharacters state := rfl
  obtain ⟨steps, size⟩ : ∃ steps, (stateCharacters state).length + 1 = steps + 4 := by
    refine ⟨(stateCharacters state).length - 3, ?_⟩
    simp only [stateCharacters, List.length_cons]
    omega
  simp only [read, toList_indentedText, readCharacters, unmarked, start, size, readValue_state,
    bind, Except.bind]
  rfl

end Json

namespace Text

theorem unifyLineBreaks_of_free {text : String} (free : '\r' ∉ text.toList) :
    unifyLineBreaks text = text := by
  have kept : ∀ characters : List Char, '\r' ∉ characters →
      replaceLineBreaks '\n' characters = characters := by
    intro characters
    induction characters using replaceLineBreaks.induct with
    | case1 rest ih => simp
    | case2 rest _ ih => simp
    | case3 rest ih =>
        intro free
        simp only [List.mem_cons, not_or] at free
        rw [replaceLineBreaks, ih free.2]
    | case4 character rest _ _ _ ih =>
        intro free
        simp only [List.mem_cons, not_or] at free
        rw [replaceLineBreaks, ih free.2] <;> assumption
    | case5 => intro _; rfl
  rw [unifyLineBreaks, kept _ free, String.ofList_toList]

end Text

theorem stateCharacters_free (state : SyncState) : '\r' ∉ stateCharacters state := by
  have optionalFree (value : Option String) : '\r' ∉ optionalCharacters value := by
    cases value with
    | none => decide
    | some text =>
        simp only [optionalCharacters, List.mem_cons, List.mem_append, List.mem_flatMap]
        rintro (quote | ⟨character, _, member⟩ | quote | impossible)
        · exact absurd quote (by decide)
        · exact absurd (Json.printable_of_mem_asciiCharacter member) (by decide)
        · exact absurd quote (by decide)
        · exact absurd impossible (by simp)
  simp [stateCharacters, secondField, fieldCharacters, optionalFree]

namespace SyncState

theorem check_toJson (state : SyncState) :
    check [("since", Json.ofOption .string state.since),
      ("rules_hash", Json.ofOption .string state.rulesHash)] = .ok state := by
  obtain ⟨since, rulesHash⟩ := state
  cases since <;> cases rulesHash <;> rfl

/-- Reading the content of a state file undoes writing it. -/
theorem decode_encode (path : Path) (state : SyncState) :
    decode path state.encode = .ok state := by
  have free : '\r' ∉ (state.toJson.indentedText 0).toList := by
    rw [toList_indentedText]
    exact stateCharacters_free state
  simp only [decode, encode, Utf8.decode?_encode, Text.unifyLineBreaks_of_free free,
    Json.read_stateText, Except.mapError, bind, Except.bind]
  change (check [("since", Json.ofOption .string state.since),
    ("rules_hash", Json.ofOption .string state.rulesHash)]).mapError StateError.fields = .ok state
  rw [check_toJson]
  rfl

end SyncState

end LedgerRules
