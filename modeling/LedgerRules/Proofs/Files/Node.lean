import LedgerRules.Files.Basic
import LedgerRules.Proofs.Outcome

/-!
What is stored under a path. Each change of the files concerns one path, and a path is found where
all directories on the way to it exist and no name on it is too long.
-/

namespace LedgerRules.Files

@[simp] theorem node?_top (files : Files) (isAbsolute : Bool) :
    files.node? ⟨isAbsolute, []⟩ = some .directory := rfl

theorem lookup_filter_ne {path other : Path} (different : other ≠ path)
    (nodes : List (Path × Node)) :
    (nodes.filter fun entry => entry.1 != path).lookup other = nodes.lookup other := by
  induction nodes with
  | nil => rfl
  | cons entry rest ih =>
      obtain ⟨key, node⟩ := entry
      by_cases removed : key = path
      · subst key
        simp [List.lookup_cons, ih, beq_false_of_ne different]
      · simp [List.lookup_cons, ih, removed]

theorem node?_erase_ne (files : Files) {path other : Path} (different : other ≠ path) :
    (files.erase path).node? other = files.node? other := by
  simp only [node?, erase, lookup_filter_ne different]

theorem node?_erase_self (files : Files) {path : Path} (proper : path.names ≠ []) :
    (files.erase path).node? path = none := by
  have absent : (files.erase path).nodes.lookup path = none := by
    refine List.lookup_eq_none_iff.mpr fun entry member => ?_
    rw [bne_comm]
    exact (List.mem_filter.mp member).2
  simp [node?, proper, absent]

theorem node?_put_ne (files : Files) {path other : Path} (node : Node) (different : other ≠ path) :
    (files.put path node).node? other = files.node? other := by
  simp only [node?, put, erase, List.lookup_cons, lookup_filter_ne different,
    beq_false_of_ne different]

theorem node?_put_self (files : Files) {path : Path} (node : Node) (proper : path.names ≠ []) :
    (files.put path node).node? path = some node := by
  simp [node?, put, proper]

def Reaches (files : Files) (start : Path) (names : List String) : Prop :=
  ∀ before name after, names = before ++ name :: after →
    files.node? { start with names := start.names ++ before } = some .directory ∧
      Path.isTooLong name = false

theorem findFrom_eq_ok (files : Files) (start : Path) (names : List String) (node : Node) :
    files.findFrom start names = .ok node ↔
      files.Reaches start names ∧
        files.node? { start with names := start.names ++ names } = some node := by
  induction names generalizing start with
  | nil =>
      simp only [findFrom, List.append_nil]
      constructor
      · intro found
        refine ⟨fun before name after impossible => by simp at impossible, ?_⟩
        split at found <;> simp_all
      · rintro ⟨_, stored⟩
        simp [stored]
  | cons name rest ih =>
      have child : start.child name = { start with names := start.names ++ [name] } := rfl
      constructor
      · intro found
        simp only [findFrom] at found
        split at found
        · rename_i directory
          split at found
          · simp at found
          · rename_i short
            obtain ⟨reaches, stored⟩ := (ih (start.child name)).mp found
            refine ⟨?_, by simpa [child] using stored⟩
            rintro (_ | ⟨first, before⟩) last after split
            · simp only [List.nil_append, List.cons.injEq] at split
              rw [← split.1]
              exact ⟨by simpa using directory, by simpa using short⟩
            · simp only [List.cons_append, List.cons.injEq] at split
              have step := reaches before last after split.2
              simpa [child, ← split.1] using step
        · simp at found
        · simp at found
      · rintro ⟨reaches, stored⟩
        have first := reaches [] name rest rfl
        have directory : files.node? start = some .directory := by simpa using first.1
        simp only [findFrom, directory, first.2]
        refine (ih (start.child name)).mpr ⟨?_, by simpa [child] using stored⟩
        intro before last after split
        have step := reaches (name :: before) last after (by simp [split])
        simpa [child] using step

def IsReachable (files : Files) (path : Path) : Prop :=
  files.Reaches (Path.top path.isAbsolute) path.names

theorem find_eq_ok (files : Files) (path : Path) (node : Node) :
    files.find path = .ok node ↔ files.IsReachable path ∧ files.node? path = some node := by
  simpa [find, IsReachable, Path.top] using
    findFrom_eq_ok files (Path.top path.isAbsolute) path.names node

end LedgerRules.Files
