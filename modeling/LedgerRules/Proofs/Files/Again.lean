import Mathlib.Data.List.Nodup
import Mathlib.Data.List.Perm.Subperm
import LedgerRules.Proofs.Calendar.DateText
import LedgerRules.Proofs.Files.Replace

/-!
A file that has been replaced can be replaced again. The temporary file never takes the place of
another file, and its name is free again as soon as it has been moved.
-/

namespace LedgerRules.Files

open Effect

def numberedPath (path : Path) (number : Nat) : Path :=
  path.parent.child ("." ++ path.name ++ "." ++ Date.padded 8 number)

theorem numberedPath_injective {path : Path} {left right : Nat}
    (same : numberedPath path left = numberedPath path right) : left = right := by
  have names := congrArg Path.name same
  simp only [numberedPath, name_child] at names
  have characters := congrArg String.toList names
  simp only [String.toList_append, List.append_cancel_left_eq] at characters
  exact Date.padded_injective 8 (String.toList_inj.mp characters)

theorem node?_numberedPath (files : Files) (path : Path) (number : Nat) :
    files.node? (numberedPath path number) = files.nodes.lookup (numberedPath path number) := by
  simp [node?, numberedPath, Path.child]

theorem mem_of_lookup_ne_none {files : Files} {path : Path}
    (taken : files.nodes.lookup path ≠ none) : path ∈ files.nodes.map Prod.fst := by
  by_contra absent
  refine taken (List.lookup_eq_none_iff.mpr fun entry member => ?_)
  simp only [bne_iff_ne, ne_eq]
  rintro rfl
  exact absent (List.mem_map_of_mem member)

/-- There are more numbers to choose from than there are files. -/
theorem exists_free (files : Files) (path : Path) :
    ∃ number < files.nodes.length + 1, files.nodes.lookup (numberedPath path number) = none := by
  by_contra taken
  push Not at taken
  let names := (List.range (files.nodes.length + 1)).map (numberedPath path)
  have distinct : names.Nodup :=
    (List.nodup_map_iff fun _ _ => numberedPath_injective).mpr List.nodup_range
  have stored : names ⊆ files.nodes.map Prod.fst := by
    intro name member
    obtain ⟨number, bound, rfl⟩ := List.mem_map.mp member
    exact mem_of_lookup_ne_none (taken number (List.mem_range.mp bound))
  have count := (distinct.subperm stored).length_le
  simp only [names, List.length_map, List.length_range] at count
  omega

/-- The temporary file has the first number that no file has. -/
theorem temporaryPath_first (files : Files) (path : Path) :
    ∃ number, files.temporaryPath path = numberedPath path number ∧
      files.node? (numberedPath path number) = none ∧
      ∀ lower < number, files.node? (numberedPath path lower) ≠ none := by
  simp only [node?_numberedPath]
  let free (number : Nat) : Bool := (files.nodes.lookup (numberedPath path number)).isNone
  have chosen : files.temporaryPath path =
      numberedPath path (((List.range (files.nodes.length + 1)).find? free).getD 0) := rfl
  cases found : (List.range (files.nodes.length + 1)).find? free with
  | none =>
      obtain ⟨number, bound, unused⟩ := exists_free files path
      have taken := List.find?_eq_none.mp found number (List.mem_range.mpr bound)
      simp [free, unused] at taken
  | some number =>
      obtain ⟨unused, _, first⟩ := List.find?_range_eq_some.mp found
      rw [found] at chosen
      exact ⟨number, chosen, by simpa [free] using unused, by simpa [free] using first⟩

theorem node?_temporaryPath (files : Files) (path : Path) :
    files.node? (files.temporaryPath path) = none := by
  obtain ⟨number, chosen, unused, _⟩ := temporaryPath_first files path
  rw [chosen, unused]

theorem temporaryPath_congr {before after : Files} {path : Path}
    (same : ∀ number, after.node? (numberedPath path number) =
      before.node? (numberedPath path number)) :
    after.temporaryPath path = before.temporaryPath path := by
  obtain ⟨left, chosenLeft, freeLeft, firstLeft⟩ := temporaryPath_first after path
  obtain ⟨right, chosenRight, freeRight, firstRight⟩ := temporaryPath_first before path
  rw [chosenLeft, chosenRight]
  rcases Nat.lt_trichotomy left right with lower | equal | higher
  · exact absurd ((same left).symm.trans freeLeft) (firstRight left lower)
  · rw [equal]
  · exact absurd ((same right).trans freeRight) (firstLeft right higher)

theorem findFrom_eq_notFound {files : Files} {start : Path} {names : List String}
    (reaches : files.Reaches start names)
    (absent : files.node? { start with names := start.names ++ names } = none) :
    files.findFrom start names = .error .notFound := by
  induction names generalizing start with
  | nil =>
      rw [List.append_nil] at absent
      simp [findFrom, absent]
  | cons name rest ih =>
      obtain ⟨directory, short⟩ := reaches [] name rest rfl
      rw [List.append_nil] at directory
      simp only [findFrom, directory, short, Bool.false_eq_true, if_false]
      apply ih
      · intro before last after split
        simpa [Path.child] using reaches (name :: before) last after (by simp [split])
      · simpa [Path.child] using absent

theorem IsReachable.find_eq_notFound {files : Files} {path : Path}
    (reachable : files.IsReachable path) (absent : files.node? path = none) :
    files.find path = .error .notFound :=
  findFrom_eq_notFound reachable absent

theorem IsReachable.find_above {files : Files} {path : Path} (reachable : files.IsReachable path)
    {above below : List String} (split : path.names = above ++ below) (proper : below ≠ []) :
    files.find { path with names := above } = .ok .directory := by
  obtain ⟨name, rest, rfl⟩ := List.exists_cons_of_ne_nil proper
  refine (find_eq_ok _ _ _).mpr ⟨?_, (reachable above name rest split).1⟩
  intro before last after (inner : above = before ++ last :: after)
  exact reachable before last (after ++ name :: rest) (by simp [split, inner])

theorem makeDirectoriesFrom_existing {files : Files} {start : Path} {names : List String}
    (existing : ∀ above below, names = above ++ below →
      files.find { start with names := start.names ++ above } = .ok .directory) :
    outcome (makeDirectoriesFrom start names) files = (.ok (), files) := by
  induction names generalizing start with
  | nil => rfl
  | cons name rest ih =>
      have first : files.find (start.child name) = .ok .directory := existing [name] rest rfl
      simp only [makeDirectoriesFrom, outcome_bind, outcome_get, first]
      apply ih
      intro above below split
      simpa [Path.child] using existing (name :: above) below (by simp [split])

theorem makeDirectories_existing {files : Files} {path : Path} (proper : path.names ≠ [])
    (reachable : files.IsReachable path) :
    outcome (makeDirectories path.parent) files = (.ok (), files) := by
  apply makeDirectoriesFrom_existing
  intro above below split
  have whole : path.names = above ++ (below ++ [path.name]) := by
    rw [← List.append_assoc, ← split]
    exact (congrArg Path.names (child_name proper)).symm
  exact reachable.find_above whole (by simp)

/-- A file that can be replaced: it is there, and there is a way to a temporary file beside it. -/
structure IsReplaceable (files : Files) (path : Path) : Prop where
  stored : ∃ content, files.find path = .ok (.file content)
  beside : files.IsReachable (files.temporaryPath path)

theorem IsReplaceable.names {files : Files} {path : Path} (replaceable : files.IsReplaceable path) :
    path.names ≠ [] := by
  intro top
  obtain ⟨content, stored⟩ := replaceable.stored
  simp [find, top, findFrom, Path.top] at stored

theorem outcome_write_temporary {files : Files} {path : Path}
    (reachable : files.IsReachable (files.temporaryPath path)) (content : Bytes) :
    outcome (write (files.temporaryPath path) content) files =
      (.ok (), files.put (files.temporaryPath path) (.file content)) := by
  have unused := reachable.find_eq_notFound (node?_temporaryPath files path)
  have whole := (congrArg Path.names (child_name (names_temporaryPath files path))).symm
  have parent : files.find (files.temporaryPath path).parent = .ok .directory :=
    reachable.find_above whole (List.cons_ne_nil _ _)
  simp only [write, outcome_bind, outcome_get, unused, parent]
  rfl

theorem IsReplaceable.outcome_replace {files : Files} {path : Path}
    (replaceable : files.IsReplaceable path) (content : Bytes) :
    outcome (replace path content) files = (.ok (), files.replaced path content) := by
  obtain ⟨old, stored⟩ := replaceable.stored
  have proper := replaceable.names
  have kept := untouched_put files (.file content) (temporaryPath_ne files path)
    (Nat.le_of_eq (length_temporaryPath files proper).symm)
  have written := replaceable.beside.find_put (names_temporaryPath files path) (.file content)
  have moved : outcome (move (files.temporaryPath path) path)
      (files.put (files.temporaryPath path) (.file content)) =
        (.ok (), files.replaced path content) := by
    simp only [move, outcome_bind, outcome_get, written, kept.find stored]
    rfl
  have reachable := ((find_eq_ok files path _).mp stored).1
  rw [Files.replace, outcome_bind_ok (makeDirectories_existing proper reachable)]
  simp only [outcome_bind, outcome_get, outcome_write_temporary replaceable.beside,
    outcome_tryCatch, moved]

theorem numberedPath_ne (path : Path) (number : Nat) : numberedPath path number ≠ path := by
  intro same
  have lengths := congrArg (fun path => path.name.length) same
  simp only [numberedPath, name_child, String.length_append] at lengths
  have point : ".".length = 1 := rfl
  omega

theorem node?_replaced (made : Files) (path : Path) (content : Bytes) (number : Nat) :
    (made.replaced path content).node? (numberedPath path number) =
      made.node? (numberedPath path number) := by
  rw [replaced, node?_put_ne _ _ (numberedPath_ne path number)]
  by_cases same : numberedPath path number = made.temporaryPath path
  · rw [same, node?_temporaryPath, node?_erase_self _ (names_temporaryPath made path)]
  · rw [node?_erase_ne _ same, node?_put_ne _ _ same]

theorem isReplaceable_replaced {made : Files} {path : Path} {content : Bytes}
    (proper : path.names ≠ [])
    (reachable : (made.put (made.temporaryPath path) (.file content)).IsReachable
      (made.temporaryPath path)) : (made.replaced path content).IsReplaceable path where
  stored := ⟨content, find_replaced proper reachable⟩
  beside := by
    have different := (temporaryPath_ne made path).symm
    have level := Nat.le_of_eq (length_temporaryPath made proper)
    rw [temporaryPath_congr (node?_replaced made path content)]
    exact (untouched_put _ _ different level).reachable reachable.erase

theorem replace_again {path : Path} {content : Bytes} {before after : Files}
    (done : outcome (replace path content) before = (.ok (), after)) (next : Bytes) :
    outcome (replace path next) after = (.ok (), after.replaced path next) := by
  rcases replace_steps path content before with
    ⟨error, _, failed, _⟩ | ⟨made, proper, reachable, stored⟩
  · simp [failed] at done
  · obtain rfl : made.replaced path content = after :=
      (Prod.mk.inj (stored.symm.trans done)).2
    exact (isReplaceable_replaced proper reachable).outcome_replace next

end LedgerRules.Files
