import LedgerRules.Proofs.Files.Again

/-!
When a file can be replaced, and what that does to all the others. Directories are made on the way
to the file. Apart from these and from the file itself everything stays as it was, and the temporary
file is gone, whether the file could be replaced or not.
-/

namespace LedgerRules

/-- The path leads through the other one to something below it. -/
def Path.IsAbove (above path : Path) : Prop :=
  ∃ below ≠ [], path = { above with names := above.names ++ below }

namespace Files

open Effect

/-- What is stored under a path is the same, unless it is a directory that has been made on the way
to the target. -/
def OpenedAt (target path : Path) (before after : Files) : Prop :=
  after.node? path = before.node? path ∨
    path.IsAbove target ∧ before.node? path = none ∧ after.node? path = some .directory

def Opened (target : Path) (before after : Files) : Prop :=
  ∀ path, OpenedAt target path before after

/-- The target holds the content, and of all else only directories on the way to it are new. -/
structure Stored (target : Path) (content : Bytes) (before after : Files) : Prop where
  own : after.node? target = some (.file content)
  others : ∀ path ≠ target, OpenedAt target path before after

theorem openedAt_of_eq {target path : Path} {before after : Files}
    (same : after.node? path = before.node? path) : OpenedAt target path before after := .inl same

instance (target : Path) : IsPreorder Files (Opened target) where
  refl _ _ := openedAt_of_eq rfl
  trans _ _ _ first second := by
    intro path
    rcases second path with same | ⟨above, absent, made⟩
    · rcases first path with sameToo | ⟨above, absent, made⟩
      · exact .inl (same.trans sameToo)
      · exact .inr ⟨above, absent, same.trans made⟩
    · rcases first path with sameToo | ⟨_, _, madeToo⟩
      · exact .inr ⟨above, sameToo.symm.trans absent, made⟩
      · exact .inl (by rw [madeToo] at absent; cases absent)

theorem Opened.node?_of_not_isAbove {target path : Path} {before after : Files}
    (opened : Opened target before after) (beside : ¬path.IsAbove target) :
    after.node? path = before.node? path := by
  rcases opened path with same | ⟨above, _⟩
  · exact same
  · exact absurd above beside

theorem shorter_of_isAbove {above path : Path} (isAbove : above.IsAbove path) :
    above.names.length < path.names.length := by
  obtain ⟨below, filled, rfl⟩ := isAbove
  have positive := List.length_pos_iff.mpr filled
  simp only [List.length_append]
  omega

theorem not_isAbove {above path : Path} (level : path.names.length ≤ above.names.length) :
    ¬above.IsAbove path :=
  fun isAbove => absurd (shorter_of_isAbove isAbove) (Nat.not_lt.mpr level)

/-! The way to a path. -/

theorem findFrom_append {files : Files} {start : Path} {front : List String}
    (reaches : files.Reaches start front) (rest : List String) :
    files.findFrom start (front ++ rest) =
      files.findFrom { start with names := start.names ++ front } rest := by
  induction front generalizing start with
  | nil => simp
  | cons name front ih =>
      obtain ⟨directory, short⟩ := reaches [] name front rfl
      rw [List.append_nil] at directory
      have later : files.Reaches (start.child name) front := by
        intro before last after split
        simpa [Path.child] using reaches (name :: before) last after (by simp [split])
      simp only [List.cons_append, findFrom, directory, short, Bool.false_eq_true, if_false]
      simpa [Path.child] using ih later

theorem find_child {files : Files} {directory : Path}
    (found : files.find directory = .ok .directory)
    (name : String) :
    files.find (directory.child name) =
      if Path.isTooLong name then .error .nameTooLong
      else (files.node? (directory.child name)).elim (.error .notFound) .ok := by
  obtain ⟨reachable, stored⟩ := (find_eq_ok files directory _).mp found
  have whole : { Path.top directory.isAbsolute with
      names := (Path.top directory.isAbsolute).names ++ directory.names } = directory := by
    simp [Path.top]
  have split := findFrom_append reachable [name]
  rw [whole] at split
  change files.findFrom _ (directory.names ++ [name]) = _
  refine split.trans ?_
  simp only [findFrom, stored]
  cases files.node? (directory.child name) <;> rfl

/-- No name is too long on the way that leads on from a directory, and no file stands there. -/
def IsClear (files : Files) (start : Path) (names : List String) : Prop :=
  ∀ before name after, names = before ++ name :: after →
    Path.isTooLong name = false ∧
      ∀ content, files.node? { start with names := start.names ++ (before ++ [name]) } ≠
        some (.file content)

theorem isClear_cons {files : Files} {start : Path} {name : String} {rest : List String} :
    files.IsClear start (name :: rest) ↔
      (Path.isTooLong name = false ∧
        ∀ content, files.node? (start.child name) ≠ some (.file content)) ∧
      files.IsClear (start.child name) rest := by
  constructor
  · intro clear
    refine ⟨by simpa [Path.child] using clear [] name rest rfl, ?_⟩
    intro before last after split
    simpa [Path.child] using clear (name :: before) last after (by simp [split])
  · rintro ⟨first, later⟩ before last after split
    cases before with
    | nil =>
        obtain ⟨rfl, -⟩ := List.cons.inj split
        simpa [Path.child] using first
    | cons other before =>
        obtain ⟨rfl, rest⟩ := List.cons.inj split
        simpa [Path.child] using later before last after rest

theorem IsClear.congr {before after : Files} {start : Path} {names : List String}
    (same : ∀ path : Path, start.names.length < path.names.length →
      after.node? path = before.node? path) :
    after.IsClear start names ↔ before.IsClear start names := by
  have each (front : List String) (name : String) :
      after.node? { start with names := start.names ++ (front ++ [name]) } =
        before.node? { start with names := start.names ++ (front ++ [name]) } :=
    same _ (by simp only [List.length_append, List.length_singleton]; omega)
  simp only [IsClear, each]

def LeadsTo (target start : Path) (names : List String) : Prop :=
  ∀ before name after, names = before ++ name :: after →
    Path.IsAbove { start with names := start.names ++ (before ++ [name]) } target

theorem leadsTo_cons {target start : Path} {name : String} {rest : List String}
    (leads : LeadsTo target start (name :: rest)) :
    (start.child name).IsAbove target ∧ LeadsTo target (start.child name) rest := by
  refine ⟨by simpa [Path.child] using leads [] name rest rfl, ?_⟩
  intro before last after split
  simpa [Path.child] using leads (name :: before) last after (by simp [split])

/-- What is made of the way to a path: it is open to the end exactly if it was clear. -/
structure Paved (target start : Path) (names : List String) (before : Files)
    (ending : Except FileError Unit × Files) : Prop where
  opened : Opened target before ending.2
  clear : ending.1 = .ok () ↔ before.IsClear start names
  reached : ending.1 = .ok () →
    ending.2.find { start with names := start.names ++ names } = .ok .directory

theorem Paved.failed {target start : Path} {names : List String} {before : Files}
    {error : FileError} (obstructed : ¬before.IsClear start names) :
    Paved target start names before (.error error, before) :=
  ⟨refl_of (Opened target) before, by simpa using obstructed, nofun⟩

theorem Paved.cons {target start : Path} {name : String} {rest : List String}
    {before made : Files} {ending : Except FileError Unit × Files}
    (opened : Opened target before made)
    (clear : made.IsClear (start.child name) rest ↔ before.IsClear start (name :: rest))
    (paved : Paved target (start.child name) rest made ending) :
    Paved target start (name :: rest) before ending := by
  refine ⟨trans_of (Opened target) opened paved.opened, paved.clear.trans clear, ?_⟩
  intro ok
  simpa [Path.child] using paved.reached ok

section MadeDirectory

variable {files : Files} {start : Path} {name : String}

theorem child_proper : (start.child name).names ≠ [] := by simp [Path.child]

theorem find_put_child (reached : files.find start = .ok .directory)
    (short : Path.isTooLong name = false) :
    (files.put (start.child name) .directory).find (start.child name) = .ok .directory := by
  have reachable : (files.put (start.child name) .directory).find start = .ok .directory :=
    (untouched_put_directory files (ne_of_shorter (by simp [Path.child])) child_proper).find
      reached
  rw [find_child reachable, if_neg (by simp [short]), node?_put_self files .directory child_proper]
  rfl

theorem opened_put_child {target : Path} (above : (start.child name).IsAbove target)
    (absent : files.node? (start.child name) = none) :
    Opened target files (files.put (start.child name) .directory) := by
  intro path
  by_cases same : path = start.child name
  · rw [same]
    exact .inr ⟨above, absent, node?_put_self files .directory child_proper⟩
  · exact openedAt_of_eq (node?_put_ne files .directory same)

theorem isClear_put_child (short : Path.isTooLong name = false)
    (absent : files.node? (start.child name) = none) (rest : List String) :
    (files.put (start.child name) .directory).IsClear (start.child name) rest ↔
      files.IsClear start (name :: rest) := by
  have elsewhere (path : Path) (lower : (start.child name).names.length < path.names.length) :=
    node?_put_ne files .directory (ne_of_shorter lower).symm
  rw [isClear_cons, IsClear.congr elsewhere]
  simp [short, absent]

end MadeDirectory

theorem makeDirectoriesFrom_paved {target start : Path} {names : List String} {files : Files}
    (leads : LeadsTo target start names) (reached : files.find start = .ok .directory) :
    Paved target start names files (outcome (makeDirectoriesFrom start names) files) := by
  induction names generalizing start files with
  | nil =>
      have nothing : files.IsClear start [] := fun before name after split => by simp at split
      refine ⟨refl_of (Opened target) files, ⟨fun _ => nothing, fun _ => rfl⟩, fun _ => ?_⟩
      rw [List.append_nil]
      exact reached
  | cons name rest ih =>
      obtain ⟨above, further⟩ := leadsTo_cons leads
      have child := find_child reached name
      simp only [makeDirectoriesFrom, outcome_bind, outcome_get]
      cases short : Path.isTooLong name with
      | true =>
          rw [short, if_pos rfl] at child
          simp only [child]
          exact .failed fun clear => by simp [(isClear_cons.mp clear).1.1] at short
      | false =>
          rw [short, if_neg Bool.false_ne_true] at child
          cases stored : files.node? (start.child name) with
          | none =>
              rw [stored] at child
              simp only [child, Option.elim, outcome_bind, outcome_modify]
              exact .cons (opened_put_child above stored) (isClear_put_child short stored rest)
                (ih further (find_put_child reached short))
          | some node =>
              rw [stored] at child
              cases node with
              | directory =>
                  simp only [child, Option.elim]
                  refine .cons (refl_of (Opened target) files) ?_ (ih further child)
                  simp [isClear_cons, short, stored]
              | file content =>
                  simp only [child, Option.elim]
                  exact .failed fun clear => (isClear_cons.mp clear).1.2 content stored

/-! Storing a file. -/

/-- The target can be replaced: the way to it is clear, it is no directory, and there can be a
temporary file beside it. -/
structure Admits (files : Files) (target : Path) : Prop where
  proper : target.names ≠ []
  clear : files.IsClear (Path.top target.isAbsolute) target.parent.names
  noDirectory : files.node? target ≠ some .directory
  short : Path.isTooLong (files.temporaryPath target).name = false

theorem leadsTo_parent {target : Path} (proper : target.names ≠ []) :
    LeadsTo target (Path.top target.isAbsolute) target.parent.names := by
  intro before name after split
  refine ⟨after ++ [target.name], by simp, ?_⟩
  have whole := child_name proper
  rw [Path.child, split] at whole
  simpa [Path.top, Path.parent] using whole.symm

theorem makeDirectories_paved (target : Path) (files : Files) :
    Paved target (Path.top target.isAbsolute) target.parent.names files
      (outcome (makeDirectories target.parent) files) := by
  have reached : files.find (Path.top target.isAbsolute) = .ok .directory := rfl
  apply makeDirectoriesFrom_paved _ reached
  by_cases top : target.names = []
  · intro before name after split
    simp [Path.parent, top] at split
  · exact leadsTo_parent top

theorem Opened.temporaryPath_eq {target : Path} {before after : Files}
    (opened : Opened target before after) :
    after.temporaryPath target = before.temporaryPath target := by
  apply temporaryPath_congr
  intro number
  apply opened.node?_of_not_isAbove
  apply not_isAbove
  simp only [numberedPath, Path.parent, Path.child, List.length_append, List.length_dropLast,
    List.length_singleton]
  omega

theorem node?_removed (made : Files) (target path : Path) (node : Node) :
    ((made.put (made.temporaryPath target) node).erase (made.temporaryPath target)).node? path =
      made.node? path := by
  by_cases same : path = made.temporaryPath target
  · rw [same, node?_erase_self _ (names_temporaryPath made target), node?_temporaryPath]
  · rw [node?_erase_ne _ same, node?_put_ne _ _ same]

theorem parent_temporaryPath (made : Files) (target : Path) :
    (made.temporaryPath target).parent = target.parent := by
  obtain ⟨suffix, beside⟩ := temporaryPath_eq made target
  simp [beside, Path.parent, Path.child]

theorem child_temporaryPath (made : Files) (target : Path) :
    target.parent.child (made.temporaryPath target).name = made.temporaryPath target := by
  rw [← parent_temporaryPath made]
  exact child_name (names_temporaryPath made target)

theorem write_temporary {made : Files} {target : Path}
    (reached : made.find target.parent = .ok .directory) (content : Bytes) :
    outcome (write (made.temporaryPath target) content) made =
      if Path.isTooLong (made.temporaryPath target).name then (.error .nameTooLong, made)
      else (.ok (), made.put (made.temporaryPath target) (.file content)) := by
  have found := find_child reached (made.temporaryPath target).name
  rw [child_temporaryPath, node?_temporaryPath] at found
  simp only [write, outcome_bind, outcome_get, parent_temporaryPath, reached, found]
  cases Path.isTooLong (made.temporaryPath target).name <;> rfl

theorem find_target {made : Files} {target : Path}
    (reached : made.find target.parent = .ok .directory)
    (short : Path.isTooLong target.name = false) :
    made.find target = (made.node? target).elim (.error .notFound) .ok := by
  by_cases top : target.names = []
  · simp [find, node?, top, findFrom, Path.top]
  · have found := find_child reached target.name
    rwa [child_name top, if_neg (by simp [short])] at found

theorem move_temporary {made : Files} {target : Path} {content : Bytes}
    (reached : made.find target.parent = .ok .directory)
    (short : Path.isTooLong (made.temporaryPath target).name = false) :
    outcome (move (made.temporaryPath target) target)
        (made.put (made.temporaryPath target) (.file content)) =
      if made.node? target = some .directory then
        (.error (if target.names.isEmpty then .busy else .isDirectory),
          made.put (made.temporaryPath target) (.file content))
      else (.ok (), made.replaced target content) := by
  obtain ⟨suffix, beside⟩ := temporaryPath_eq made target
  have lower : target.parent.names.length < (made.temporaryPath target).names.length := by
    simp [beside, Path.child]
  have reachedToo : (made.put (made.temporaryPath target) (.file content)).find target.parent =
      .ok .directory :=
    (untouched_put made _ (ne_of_shorter lower) (Nat.le_of_lt lower)).find reached
  have shortToo : Path.isTooLong target.name = false := by
    rw [beside, name_child] at short
    exact isTooLong_temporary suffix short
  have written : (made.put (made.temporaryPath target) (.file content)).find
      (made.temporaryPath target) = .ok (.file content) := by
    have found := find_child reachedToo (made.temporaryPath target).name
    rwa [child_temporaryPath, node?_put_self _ _ (names_temporaryPath made target),
      if_neg (by simp [short])] at found
  have old := find_target reachedToo shortToo
  rw [node?_put_ne _ _ (temporaryPath_ne made target)] at old
  simp only [move, outcome_bind, outcome_get, written, old]
  cases made.node? target with
  | none => rfl
  | some node => cases node <;> rfl

theorem replace_paved {target : Path} {before made : Files}
    (paved : outcome (makeDirectories target.parent) before = (.ok (), made))
    (reached : made.find target.parent = .ok .directory) (content : Bytes) :
    outcome (replace target content) before =
      if Path.isTooLong (made.temporaryPath target).name then (.error .nameTooLong, made)
      else if made.node? target = some .directory then
        (.error (if target.names.isEmpty then .busy else .isDirectory),
          (made.put (made.temporaryPath target) (.file content)).erase (made.temporaryPath target))
      else (.ok (), made.replaced target content) := by
  rw [replace, outcome_bind_ok paved]
  simp only [outcome_bind, outcome_get, write_temporary reached]
  cases short : Path.isTooLong (made.temporaryPath target).name with
  | true => rfl
  | false =>
      simp only [Bool.false_eq_true, if_false, outcome_tryCatch, move_temporary reached short]
      by_cases directory : made.node? target = some .directory
      · simp only [directory, if_true]
        rfl
      · simp only [directory, if_false]

theorem stored_replaced {target : Path} {before made : Files} (proper : target.names ≠ [])
    (opened : Opened target before made) (content : Bytes) :
    Stored target content before (made.replaced target content) := by
  refine ⟨node?_put_self _ _ proper, fun path different => ?_⟩
  have same : (made.replaced target content).node? path = made.node? path := by
    rw [replaced, node?_put_ne _ _ different, node?_removed]
  rw [OpenedAt, same]
  exact opened path

theorem opened_removed {target : Path} {before made : Files} (opened : Opened target before made)
    (node : Node) :
    Opened target before
      ((made.put (made.temporaryPath target) node).erase (made.temporaryPath target)) := by
  intro path
  rw [OpenedAt, node?_removed]
  exact opened path

/-- A file that can be replaced is replaced as a whole, and otherwise nothing happens to any
file. -/
theorem replace_stored_or_opened (target : Path) (content : Bytes) (before : Files) :
    (before.Admits target ∧ ∃ after, outcome (replace target content) before = (.ok (), after) ∧
      Stored target content before after) ∨
    (¬before.Admits target ∧ ∃ error after,
      outcome (replace target content) before = (.error error, after) ∧
        Opened target before after) := by
  have paved := makeDirectories_paved target before
  generalize ending : outcome (makeDirectories target.parent) before = first at paved
  obtain ⟨error | _, made⟩ := first
  · refine .inr ⟨fun admits => ?_, error, made, ?_, paved.opened⟩
    · cases paved.clear.mpr admits.clear
    · rw [replace, outcome_bind_error ending]
  have reached : made.find target.parent = .ok .directory := paved.reached rfl
  have temporary := paved.opened.temporaryPath_eq
  have own : made.node? target = before.node? target :=
    paved.opened.node?_of_not_isAbove (not_isAbove (Nat.le_refl _))
  rw [replace_paved ending reached, temporary, own]
  by_cases long : Path.isTooLong (before.temporaryPath target).name = true
  · rw [if_pos long]
    exact .inr ⟨fun admits => by simp [admits.short] at long, _, made, rfl, paved.opened⟩
  rw [if_neg long]
  by_cases directory : before.node? target = some .directory
  · rw [if_pos directory, ← temporary]
    exact .inr ⟨fun admits => admits.noDirectory directory, _, _, rfl,
      opened_removed paved.opened _⟩
  · have proper : target.names ≠ [] := fun top => directory (by simp [node?, top])
    rw [if_neg directory]
    refine .inl ⟨⟨proper, paved.clear.mp rfl, directory, by simpa using long⟩, _, rfl, ?_⟩
    exact stored_replaced proper paved.opened content

theorem replace_directory {target : Path} {before : Files}
    (found : before.find target = .ok .directory) (content : Bytes) :
    ∃ after, outcome (replace target content) before =
        (.error (if Path.isTooLong (before.temporaryPath target).name then .nameTooLong
          else if target.names.isEmpty then .busy else .isDirectory), after) ∧
      ∀ path, after.node? path = before.node? path := by
  obtain ⟨reachable, stored⟩ := (find_eq_ok before target _).mp found
  have paved : outcome (makeDirectories target.parent) before = (.ok (), before) := by
    by_cases top : target.names = []
    · simp [makeDirectories, Path.parent, top, makeDirectoriesFrom]
    · exact makeDirectories_existing top reachable
  have reached : before.find target.parent = .ok .directory := by
    by_cases top : target.names = []
    · simp [find, Path.parent, top, findFrom, Path.top]
    · exact reachable.find_above (congrArg Path.names (child_name top)).symm (by simp)
  rw [replace_paved paved reached, if_pos stored]
  split
  · exact ⟨before, rfl, fun _ => rfl⟩
  · exact ⟨_, rfl, fun path => node?_removed before target path _⟩

end Files

end LedgerRules
