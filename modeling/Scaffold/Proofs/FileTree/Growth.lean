import Scaffold.FileTree.Write

/-!
How a tree grows while directories are made.  Directories stay where they are, so that a path goes
on leading where it led, and `createDirs` adds nothing but directories to which the path or one
above it leads.
-/

namespace Scaffold

/-- The first path is the second without one or more of its last segments. -/
inductive Path.IsAbove : String → String → Prop
  | parent {above path : String} : parent? path = some above → IsAbove above path
  | further {above between path : String} : parent? path = some between →
      IsAbove above between → IsAbove above path

namespace FileTree

/-- A path leads to a location when the system takes it and its names can be followed from where it
starts. -/
theorem locateNames_eq_ok_iff {tree : FileTree} {path : String} {names : List String}
    {location : Location} :
    tree.locateNames path names = .ok location ↔
      ('\x00' ∉ path.toList ∧ path ≠ "" ∧ path.utf8ByteSize ≤ maxPathBytes) ∧
        tree.get? (tree.start path) = some .directory ∧
        tree.walk (tree.start path) names = .ok location := by
  by_cases clean : '\x00' ∈ path.toList
  · simp [locateNames, clean]
  by_cases empty : path = ""
  · simp [locateNames, empty]
  by_cases long : maxPathBytes < path.utf8ByteSize
  · have tooLong : ¬ path.utf8ByteSize ≤ maxPathBytes := Nat.not_le.mpr long
    simp [locateNames, clean, empty, long, tooLong]
  have short : path.utf8ByteSize ≤ maxPathBytes := Nat.not_lt.mp long
  simp only [locateNames, clean, empty, long, short, if_false, not_false_eq_true, ne_eq, and_self,
    true_and]
  cases found : tree.top.descend? (tree.start path) with
  | none =>
    have missing : tree.get? (tree.start path) ≠ some .directory := by
      intro stands
      have there : (tree.top.descend? (tree.start path)).isSome := Place.isSome_descend? stands
      simp [found] at there
    simp [missing]
  | some place =>
    obtain ⟨reached, leads⟩ := Place.In.descend? (.top : Place.In tree.root tree.top) found
    have start : place.location = tree.start path := by simpa [top, Place.location] using leads
    have stands : tree.get? (tree.start path) = some .directory := start ▸ reached.get?_location
    show place.follow names = .ok location ↔ _
    rw [follow_eq_walk reached, start]
    exact (and_iff_right stands).symm

theorem get?_dropLast {tree : FileTree} {location : Location}
    (stands : tree.get? location = some .directory) :
    tree.get? location.dropLast = some .directory := by
  rcases List.eq_nil_or_concat location with rfl | ⟨parent, last, rfl⟩
  · exact stands
  · rw [List.concat_eq_append] at stands ⊢
    rw [List.dropLast_concat]
    exact get?_eq_directory_of_isSome (by rw [stands]; rfl)

/-- Names lead to a directory or to a place in one. -/
theorem walk_lands {tree : FileTree} {location found : Location} {names : List String}
    (stands : tree.get? location = some .directory)
    (walked : tree.walk location names = .ok found) :
    tree.get? found = some .directory ∨
      ∃ parent name, found = parent ++ [name] ∧ tree.get? parent = some .directory := by
  induction names generalizing location with
  | nil =>
    obtain rfl := Except.ok.inj walked
    exact .inl stands
  | cons name rest inductionHypothesis =>
    simp only [walk, stands] at walked
    split at walked
    next => exact inductionHypothesis stands walked
    next =>
      split at walked
      next => exact inductionHypothesis (get?_dropLast stands) walked
      next =>
        split at walked
        next => contradiction
        next =>
          cases rest with
          | nil =>
            obtain rfl := Except.ok.inj walked
            exact .inr ⟨location, name, rfl, stands⟩
          | cons second rest =>
            -- To go on, the walk has to find a directory under this name.
            cases below : tree.get? (location ++ [name]) with
            | none => simp [walk, below] at walked
            | some node =>
              cases node with
              | directory => exact inductionHypothesis below walked
              | file contents => simp [walk, below] at walked

/-- Putting a node where a path leads changes that location only. -/
theorem get?_put_of_locateNames {tree : FileTree} {path : String} {names : List String}
    {location : Location} (found : tree.locateNames path names = .ok location)
    (free : tree.get? location ≠ some .directory) (node : Node) (other : Location) :
    (tree.put location node).get? other =
      if other = location then some node else tree.get? other := by
  obtain ⟨_, stands, walked⟩ := locateNames_eq_ok_iff.mp found
  rcases walk_lands stands walked with isDirectory | ⟨parent, name, rfl, parentStands⟩
  · exact absurd isDirectory free
  · exact get?_put parentStands free node other

/-- The same directory is worked in, and no directory is missing. -/
structure Keeps (before after : FileTree) : Prop where
  workingDir_eq : after.workingDir = before.workingDir
  directory {location : Location} : before.get? location = some .directory →
    after.get? location = some .directory

namespace Keeps

theorem refl (tree : FileTree) : Keeps tree tree := ⟨rfl, id⟩

theorem trans {first second third : FileTree} (before : Keeps first second)
    (after : Keeps second third) : Keeps first third where
  workingDir_eq := after.workingDir_eq.trans before.workingDir_eq
  directory stands := after.directory (before.directory stands)

variable {before after : FileTree} (keeps : Keeps before after)
include keeps

theorem start_eq (path : String) : after.start path = before.start path := by
  unfold start
  rw [keeps.workingDir_eq]

theorem walk {location found : Location} {names : List String}
    (walked : before.walk location names = .ok found) : after.walk location names = .ok found := by
  induction names generalizing location with
  | nil => exact walked
  | cons name rest inductionHypothesis =>
    cases stands : before.get? location with
    | none => simp [FileTree.walk, stands] at walked
    | some node =>
      cases node with
      | file contents => simp [FileTree.walk, stands] at walked
      | directory =>
        simp only [FileTree.walk, stands] at walked
        simp only [FileTree.walk, keeps.directory stands]
        split at walked
        next dot =>
          rw [if_pos dot]
          exact inductionHypothesis walked
        next named =>
          rw [if_neg named]
          split at walked
          next up =>
            rw [if_pos up]
            exact inductionHypothesis walked
          next down =>
            rw [if_neg down]
            split at walked
            next => contradiction
            next short =>
              rw [if_neg short]
              exact inductionHypothesis walked

theorem locateNames {path : String} {names : List String} {location : Location}
    (found : before.locateNames path names = .ok location) :
    after.locateNames path names = .ok location := by
  obtain ⟨taken, stands, walked⟩ := locateNames_eq_ok_iff.mp found
  refine locateNames_eq_ok_iff.mpr ⟨taken, ?_, ?_⟩
  · rw [keeps.start_eq]
    exact keeps.directory stands
  · rw [keeps.start_eq]
    exact keeps.walk walked

theorem locate {path : String} {location : Location} (found : before.locate path = .ok location) :
    after.locate path = .ok location :=
  keeps.locateNames found

theorem isDirectory {path : String} (isDirectory : before.IsDirectory path) :
    after.IsDirectory path := by
  unfold IsDirectory at isDirectory ⊢
  cases found : before.locate path with
  | error cause => simp [found, Except.toOption] at isDirectory
  | ok location =>
    rw [found] at isDirectory
    rw [keeps.locate found]
    exact keeps.directory isDirectory

end Keeps

/-- The second tree is the first with more directories, to each of which one of the paths leads. -/
structure Grows (paths : String → Prop) (before after : FileTree) : Prop where
  workingDir_eq : after.workingDir = before.workingDir
  get?_or (location : Location) : after.get? location = before.get? location ∨
    before.get? location = none ∧ after.get? location = some .directory ∧
      ∃ path, paths path ∧ after.locate path = .ok location

namespace Grows

theorem refl (paths : String → Prop) (tree : FileTree) : Grows paths tree tree :=
  ⟨rfl, fun _ => .inl rfl⟩

theorem keeps {paths : String → Prop} {before after : FileTree} (grows : Grows paths before after) :
    Keeps before after where
  workingDir_eq := grows.workingDir_eq
  directory {location} stands := by
    rcases grows.get?_or location with same | ⟨none, _⟩
    · rw [same, stands]
    · simp [stands] at none

theorem mono {paths wider : String → Prop} {before after : FileTree}
    (grows : Grows paths before after) (wide : ∀ path, paths path → wider path) :
    Grows wider before after where
  workingDir_eq := grows.workingDir_eq
  get?_or location := by
    rcases grows.get?_or location with same | ⟨none, made, path, among, leads⟩
    · exact .inl same
    · exact .inr ⟨none, made, path, wide path among, leads⟩

theorem trans {paths : String → Prop} {first second third : FileTree}
    (before : Grows paths first second) (after : Grows paths second third) :
    Grows paths first third where
  workingDir_eq := after.workingDir_eq.trans before.workingDir_eq
  get?_or location := by
    rcases after.get?_or location with same | ⟨none, made, path, among, leads⟩
    · rcases before.get?_or location with same' | ⟨none, made, path, among, leads⟩
      · exact .inl (same.trans same')
      · exact .inr ⟨none, same.trans made, path, among, after.keeps.locate leads⟩
    · rcases before.get?_or location with same' | ⟨_, made', _⟩
      · exact .inr ⟨same' ▸ none, made, path, among, leads⟩
      · simp [none] at made'

theorem get?_file_iff {paths : String → Prop} {before after : FileTree}
    (grows : Grows paths before after) (location : Location) (contents : String) :
    after.get? location = some (.file contents) ↔ before.get? location = some (.file contents) := by
  rcases grows.get?_or location with same | ⟨none, made, _⟩
  · rw [same]
  · simp [none, made]

end Grows

theorem makeDir_eq_ok_iff {tree after : FileTree} {path : String} :
    tree.makeDir path = .ok after ↔ ∃ location, tree.locate path = .ok location ∧
      tree.get? location = none ∧ after = tree.put location .directory := by
  unfold makeDir
  cases tree.locate path with
  | error cause => simp
  | ok location =>
    cases stands : tree.get? location with
    | none =>
      simp only [stands, Option.isSome_none, Bool.false_eq_true, if_false, Except.ok.injEq]
      constructor
      · rintro rfl
        exact ⟨location, rfl, stands, rfl⟩
      · rintro ⟨_, rfl, _, rfl⟩
        rfl
    | some node => simp [stands]

theorem grows_of_makeDir {tree after : FileTree} {path : String}
    (made : tree.makeDir path = .ok after) :
    Grows (· = path) tree after ∧ after.IsDirectory path := by
  obtain ⟨location, found, none, rfl⟩ := makeDir_eq_ok_iff.mp made
  have changed := get?_put_of_locateNames found (by simp [none]) .directory
  have keeps : Keeps tree (tree.put location .directory) := {
    workingDir_eq := rfl
    directory := fun {other} stands => by
      rw [changed]
      split
      · rfl
      · exact stands }
  refine ⟨⟨rfl, ?_⟩, ?_⟩
  · intro other
    rw [changed]
    by_cases here : other = location
    · subst here
      exact .inr ⟨none, if_pos rfl, path, rfl, keeps.locate found⟩
    · exact .inl (if_neg here)
  · unfold IsDirectory
    rw [keeps.locate found]
    exact (changed location).trans (if_pos rfl)

theorem grows_retryDir (tree : FileTree) (path : String) :
    Grows (· = path) tree (tree.retryDir path).1 ∧
      ((tree.retryDir path).2 = .ok () → (tree.retryDir path).1.IsDirectory path) := by
  unfold retryDir
  cases tried : tree.makeDir path with
  | ok made => exact ⟨(grows_of_makeDir tried).1, fun _ => (grows_of_makeDir tried).2⟩
  | error cause =>
    refine ⟨.refl _ tree, ?_⟩
    intro done
    by_cases there : tree.IsDirectory path
    · exact there
    · simp [there] at done

/-- Making a directory and those above it adds directories named by the path and those above it, and
when it is done the directory is there. -/
theorem grows_createDirs (tree : FileTree) (path : String) :
    Grows (fun named => named = path ∨ Path.IsAbove named path) tree (tree.createDirs path).1 ∧
      ((tree.createDirs path).2 = .ok () →
        path = "" ∨ (tree.createDirs path).1.IsDirectory path) := by
  fun_induction createDirs tree path with
  | case1 => exact ⟨.refl _ tree, fun _ => .inl rfl⟩
  | case2 path busy made tried =>
    obtain ⟨grows, there⟩ := grows_of_makeDir tried
    exact ⟨grows.mono fun _ => .inl, fun _ => .inr there⟩
  | case3 path busy above tried => exact ⟨.refl _ tree, by simp⟩
  | case4 path busy parent above made done tried inductionHypothesis =>
    -- The parent was missing and has been made, so that the path is tried once more.
    rw [done] at inductionHypothesis
    obtain ⟨again, there⟩ := grows_retryDir made path
    refine ⟨.trans (inductionHypothesis.1.mono ?_) (again.mono fun _ => .inl),
      fun ends => .inr (there ends)⟩
    rintro named (rfl | higher)
    · exact .inr (.parent above)
    · exact .inr (.further above higher)
  | case5 path busy parent above made cause failed tried inductionHypothesis =>
    rw [failed] at inductionHypothesis
    refine ⟨inductionHypothesis.1.mono ?_, by simp⟩
    rintro named (rfl | higher)
    · exact .inr (.parent above)
    · exact .inr (.further above higher)
  | case6 path busy cause tried other =>
    refine ⟨.refl _ tree, ?_⟩
    intro done
    apply Or.inr
    by_cases there : tree.IsDirectory path
    · exact there
    · simp [there] at done

end FileTree
end Scaffold
