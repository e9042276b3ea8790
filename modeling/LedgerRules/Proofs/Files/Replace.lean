import LedgerRules.Proofs.Files.Node

/-!
Replacing a file as a whole. Whatever goes wrong on the way, the file is as it was: directories are
made above it and the new content is written beside it, so that only the last step, which takes the
written file to its place, concerns the path of the file itself.
-/

namespace LedgerRules.Files

open Effect

theorem IsReachable.of_directories {before after : Files} {path : Path}
    (reachable : before.IsReachable path)
    (kept : ∀ other : Path, other.names.length < path.names.length →
      before.node? other = some .directory → after.node? other = some .directory) :
    after.IsReachable path := by
  intro first name rest split
  obtain ⟨directory, short⟩ := reachable first name rest split
  refine ⟨?_, short⟩
  have shorter : first.length < path.names.length := by simp [split]
  exact kept _ (by simpa [Path.top] using shorter) directory

theorem ne_of_shorter {path other : Path} (shorter : other.names.length < path.names.length) :
    other ≠ path := by
  rintro rfl
  exact Nat.lt_irrefl _ shorter

/-- What is stored under a path is the same, down to nothing, and the way to it is still open. -/
structure Untouched (path : Path) (before after : Files) : Prop where
  node?_eq : after.node? path = before.node? path
  reachable : before.IsReachable path → after.IsReachable path

instance (path : Path) : IsPreorder Files (Untouched path) where
  refl _ := ⟨rfl, id⟩
  trans _ _ _ first second :=
    ⟨second.node?_eq.trans first.node?_eq, second.reachable ∘ first.reachable⟩

theorem Untouched.find {path : Path} {before after : Files}
    (untouched : Untouched path before after)
    {node : Node} (found : before.find path = .ok node) : after.find path = .ok node := by
  obtain ⟨reachable, stored⟩ := (find_eq_ok before path node).mp found
  exact (find_eq_ok after path node).mpr
    ⟨untouched.reachable reachable, untouched.node?_eq.trans stored⟩

theorem untouched_of_eq (path : Path) {before after : Files} (same : after = before) :
    Untouched path before after := by
  rw [same]
  exact refl_of (Untouched path) before

theorem untouched_top {path : Path} (top : path.names = []) (before after : Files) :
    Untouched path before after :=
  ⟨by simp [node?, top], fun _ first name rest split => by simp [top] at split⟩

theorem untouched_put_directory (files : Files) {path other : Path} (different : other ≠ path)
    (proper : path.names ≠ []) : Untouched other files (files.put path .directory) := by
  refine ⟨node?_put_ne files .directory different, fun reachable => ?_⟩
  apply reachable.of_directories
  intro above _ directory
  by_cases same : above = path
  · rw [same]
    exact node?_put_self files .directory proper
  · rwa [node?_put_ne files .directory same]

theorem untouched_put (files : Files) {path other : Path} (node : Node) (different : path ≠ other)
    (level : path.names.length ≤ other.names.length) :
    Untouched path files (files.put other node) := by
  refine ⟨node?_put_ne files node different, fun reachable => reachable.of_directories ?_⟩
  intro above shorter directory
  rwa [node?_put_ne files node (ne_of_shorter (Nat.lt_of_lt_of_le shorter level))]

theorem untouched_erase (files : Files) {path other : Path} (different : path ≠ other)
    (level : path.names.length ≤ other.names.length) :
    Untouched path files (files.erase other) := by
  refine ⟨node?_erase_ne files different, fun reachable => reachable.of_directories ?_⟩
  intro above shorter directory
  rwa [node?_erase_ne files (ne_of_shorter (Nat.lt_of_lt_of_le shorter level))]

theorem IsReachable.put {files : Files} {path : Path} (reachable : files.IsReachable path)
    (node : Node) : (files.put path node).IsReachable path := by
  apply reachable.of_directories
  intro above shorter directory
  rwa [node?_put_ne files node (ne_of_shorter shorter)]

theorem IsReachable.erase {files : Files} {path : Path} (reachable : files.IsReachable path) :
    (files.erase path).IsReachable path := by
  apply reachable.of_directories
  intro above shorter directory
  rwa [node?_erase_ne files (ne_of_shorter shorter)]

theorem IsReachable.find_put {files : Files} {path : Path} (reachable : files.IsReachable path)
    (proper : path.names ≠ []) (node : Node) : (files.put path node).find path = .ok node :=
  (find_eq_ok _ _ _).mpr ⟨reachable.put node, node?_put_self files node proper⟩

theorem makeDirectoriesFrom_keeps {path : Path} (start : Path) (names : List String)
    (above : start.names.length + names.length < path.names.length) :
    Keeps (Untouched path) (makeDirectoriesFrom start names) := by
  induction names generalizing start with
  | nil => exact keeps_pure ()
  | cons name rest ih =>
      have child : (start.child name).names.length = start.names.length + 1 := by
        simp [Path.child]
      simp only [List.length_cons] at above
      have deeper := ih (start.child name) (by omega)
      intro files
      simp only [makeDirectoriesFrom, outcome_bind, outcome_get]
      split
      · exact deeper files
      · exact refl_of (Untouched path) files
      · rw [outcome_bind, outcome_modify]
        have different : path ≠ start.child name := by
          intro same
          rw [same] at above
          omega
        have made := untouched_put_directory files different (by simp [Path.child])
        exact trans_of (Untouched path) made (deeper _)
      · exact refl_of (Untouched path) files

theorem makeDirectories_keeps (path : Path) :
    Keeps (Untouched path) (makeDirectories path.parent) := by
  by_cases top : path.names = []
  · exact fun files => untouched_top top _ _
  · apply makeDirectoriesFrom_keeps
    have positive := List.length_pos_iff.mpr top
    simp only [Path.top, Path.parent, List.length_nil, List.length_dropLast]
    omega

theorem write_cases (path : Path) (content : Bytes) (files : Files) :
    (∃ error, outcome (write path content) files = (.error error, files)) ∨
      outcome (write path content) files = (.ok (), files.put path (.file content)) := by
  simp only [write, outcome_bind, outcome_get]
  split
  · exact .inl ⟨_, rfl⟩
  · exact .inr rfl
  · exact .inr rfl
  · exact .inl ⟨_, rfl⟩

theorem move_cases (source target : Path) (files : Files) :
    (∃ error, outcome (move source target) files = (.error error, files)) ∨
      ∃ node, files.find source = .ok node ∧ files.find target ≠ .ok .directory ∧
        outcome (move source target) files =
          (.ok (), (files.erase source).put target node) := by
  simp only [move, outcome_bind, outcome_get]
  cases files.find source with
  | error error => exact .inl ⟨error, rfl⟩
  | ok node =>
      cases target : files.find target with
      | error error => exact .inr ⟨node, rfl, by simp, rfl⟩
      | ok stored =>
          cases stored with
          | directory => exact .inl ⟨_, rfl⟩
          | file content => exact .inr ⟨node, rfl, by simp, rfl⟩

@[simp] theorem name_child (path : Path) (name : String) : (path.child name).name = name := by
  simp [Path.child, Path.name]

theorem child_name {path : Path} (proper : path.names ≠ []) :
    path.parent.child path.name = path := by
  have last : path.names.getLast? = some (path.names.getLast proper) :=
    List.getLast?_eq_some_getLast proper
  simp only [Path.parent, Path.child, Path.name, last, Option.getD_some,
    List.dropLast_concat_getLast]

/-- The temporary file stands beside the file, under a name that begins with a point and the name
of the file. -/
theorem temporaryPath_eq (files : Files) (path : Path) :
    ∃ suffix, files.temporaryPath path =
      path.parent.child ("." ++ path.name ++ "." ++ suffix) := ⟨_, rfl⟩

theorem names_temporaryPath (files : Files) (path : Path) :
    (files.temporaryPath path).names ≠ [] := by
  obtain ⟨suffix, beside⟩ := temporaryPath_eq files path
  simp [beside, Path.child]

theorem temporaryPath_ne (files : Files) (path : Path) : path ≠ files.temporaryPath path := by
  obtain ⟨suffix, beside⟩ := temporaryPath_eq files path
  intro same
  rw [beside] at same
  have lengths := congrArg (fun path => path.name.length) same
  simp only [name_child, String.length_append] at lengths
  have point : ".".length = 1 := rfl
  omega

theorem isTooLong_temporary {name : String} (suffix : String)
    (short : Path.isTooLong ("." ++ name ++ "." ++ suffix) = false) :
    Path.isTooLong name = false := by
  simp only [Path.isTooLong, decide_eq_false_iff_not, Utf8.encode, String.toList_append,
    List.flatMap_append, List.length_append] at short
  exact decide_eq_false (by simp only [Utf8.encode]; omega)

theorem IsReachable.of_temporary {files : Files} {path : Path} (proper : path.names ≠ [])
    {suffix : String}
    (beside : files.IsReachable (path.parent.child ("." ++ path.name ++ "." ++ suffix))) :
    files.IsReachable path := by
  have whole : path.names = path.parent.names ++ [path.name] :=
    (congrArg Path.names (child_name proper)).symm
  intro before name after split
  rw [whole] at split
  -- The last name is the only one that differs, and it is shorter.
  rcases List.eq_nil_or_concat after with rfl | ⟨between, last, rfl⟩
  · obtain ⟨same, last⟩ := List.append_inj' split rfl
    obtain ⟨directory, short⟩ := beside before _ [] (by rw [← same]; rfl)
    simp only [List.cons.injEq, and_true] at last
    exact ⟨directory, last ▸ isTooLong_temporary suffix short⟩
  · have regrouped : before ++ name :: between.concat last =
        (before ++ name :: between) ++ [last] := by simp
    have same := (List.append_inj' (split.trans regrouped) rfl).1
    exact beside before name (between ++ ["." ++ path.name ++ "." ++ suffix])
      (by simp [Path.child, same])

theorem length_temporaryPath (files : Files) {path : Path} (proper : path.names ≠ []) :
    (files.temporaryPath path).names.length = path.names.length := by
  obtain ⟨suffix, beside⟩ := temporaryPath_eq files path
  rw [beside, ← congrArg Path.names (child_name proper)]
  simp [Path.child]

theorem untouched_temporary (files : Files) (path : Path) (node : Node) :
    Untouched path files
      ((files.put (files.temporaryPath path) node).erase (files.temporaryPath path)) := by
  by_cases top : path.names = []
  · exact untouched_top top _ _
  · have different := temporaryPath_ne files path
    have level := Nat.le_of_eq (length_temporaryPath files top).symm
    exact trans_of (Untouched path) (untouched_put files node different level)
      (untouched_erase _ different level)

/-- The files after the temporary file has been written and has taken the place of the file. -/
def replaced (made : Files) (path : Path) (content : Bytes) : Files :=
  ((made.put (made.temporaryPath path) (.file content)).erase (made.temporaryPath path)).put path
    (.file content)

/-- Replacing a file fails and does not touch it, or goes all the way. -/
theorem replace_steps (path : Path) (content : Bytes) (files : Files) :
    (∃ error after, outcome (replace path content) files = (.error error, after) ∧
        Untouched path files after) ∨
      ∃ made : Files, path.names ≠ [] ∧
        (made.put (made.temporaryPath path) (.file content)).IsReachable
          (made.temporaryPath path) ∧
        outcome (replace path content) files = (.ok (), made.replaced path content) := by
  have keeps := makeDirectories_keeps path files
  rw [replace, outcome_bind]
  generalize outcome (makeDirectories path.parent) files = first at keeps ⊢
  obtain ⟨error | _, made⟩ := first
  · exact .inl ⟨error, made, rfl, keeps⟩
  have comesAndGoes := untouched_temporary made path (.file content)
  simp only [outcome_bind, outcome_get]
  rcases write_cases (made.temporaryPath path) content made with ⟨error, failed⟩ | written
  · rw [failed]
    exact .inl ⟨error, made, rfl, keeps⟩
  rw [written]
  simp only [outcome_tryCatch]
  rcases move_cases (made.temporaryPath path) path
      (made.put (made.temporaryPath path) (.file content)) with
    ⟨error, failed⟩ | ⟨node, found, file, moved⟩
  · rw [failed]
    exact .inl ⟨error, _, rfl, trans_of (Untouched path) keeps comesAndGoes⟩
  · obtain ⟨reachable, stored⟩ := (find_eq_ok _ _ _).mp found
    rw [node?_put_self _ _ (names_temporaryPath made path)] at stored
    obtain rfl := Option.some.inj stored
    rw [moved]
    refine .inr ⟨made, ?_, reachable, rfl⟩
    intro top
    exact file (by simp [find, top, findFrom, Path.top])

theorem find_replaced {made : Files} {path : Path} {content : Bytes} (proper : path.names ≠ [])
    (reachable : (made.put (made.temporaryPath path) (.file content)).IsReachable
      (made.temporaryPath path)) :
    (made.replaced path content).find path = .ok (.file content) := by
  have different := temporaryPath_ne made path
  have level := Nat.le_of_eq (length_temporaryPath made proper).symm
  obtain ⟨suffix, beside⟩ := temporaryPath_eq made path
  rw [replaced]
  rw [beside] at reachable different level ⊢
  exact ((untouched_erase _ different level).reachable
    (reachable.of_temporary proper)).find_put proper _

/-- Replacing a file fails and does not touch it, or stores the content. -/
theorem replace_cases (path : Path) (content : Bytes) (files : Files) :
    (∃ error after, outcome (replace path content) files = (.error error, after) ∧
        Untouched path files after) ∨
      ∃ after, outcome (replace path content) files = (.ok (), after) ∧
        after.find path = .ok (.file content) := by
  rcases replace_steps path content files with untouched | ⟨made, proper, reachable, done⟩
  · exact .inl untouched
  · exact .inr ⟨_, done, find_replaced proper reachable⟩

theorem untouched_of_replace {path : Path} {content : Bytes} {before after : Files}
    {error : FileError}
    (failed : outcome (replace path content) before = (.error error, after)) :
    Untouched path before after := by
  rcases replace_cases path content before with ⟨_, other, stopped, kept⟩ | ⟨_, replaced, _⟩
  · obtain rfl := (Prod.mk.inj (stopped.symm.trans failed)).2
    exact kept
  · simp [replaced] at failed

theorem find_of_replace {path : Path} {content : Bytes} {before after : Files}
    (done : outcome (replace path content) before = (.ok (), after)) :
    after.find path = .ok (.file content) := by
  rcases replace_cases path content before with ⟨_, _, failed, _⟩ | ⟨other, replaced, found⟩
  · simp [failed] at done
  · obtain rfl := (Prod.mk.inj (replaced.symm.trans done)).2
    exact found

end LedgerRules.Files
