import Scaffold.FileTree
import Scaffold.IoError
import Scaffold.Path

/-!
Where a path leads.  Names are followed from left to right, each in a directory that is there; only
the last name may lead to nothing.
-/

namespace Scaffold.FileTree

def maxNameBytes : Nat := 255

def maxPathBytes : Nat := 4095

def walk (tree : FileTree) : Location → List String → Except IoError Location
  | location, [] => .ok location
  | location, name :: rest =>
    match tree.get? location with
    | none => .error .noEntry
    | some (.file _) => .error .notDirectory
    | some .directory =>
      if name = "." then tree.walk location rest
      else if name = ".." then tree.walk location.dropLast rest
      else if maxNameBytes < name.utf8ByteSize then .error .nameTooLong
      else tree.walk (location ++ [name]) rest

end FileTree

/-- Follows names from a place, each looked up in the directory at hand. -/
def Place.follow : Place → List String → Except IoError Location
  | place, [] => .ok place.location
  | place, name :: rest =>
    if name = "." then place.follow rest
    else if name = ".." then place.leave.follow rest
    else if FileTree.maxNameBytes < name.utf8ByteSize then .error .nameTooLong
    else
      match place.enter? name with
      | some inner => inner.follow rest
      | none =>
        if rest = [] then .ok (place.location ++ [name])
        else if (place.here.get? [name]).isSome then .error .notDirectory
        else .error .noEntry

namespace FileTree

/-- Following names from a place leads where they lead from its location. -/
theorem follow_eq_walk {tree : FileTree} {place : Place} (reached : place.In tree.root)
    (names : List String) : place.follow names = tree.walk place.location names := by
  induction names generalizing place with
  | nil => rfl
  | cons name rest inductionHypothesis =>
    have here : tree.get? place.location = some .directory := reached.get?_location
    simp only [Place.follow, walk, here]
    split
    next => exact inductionHypothesis reached
    next =>
      split
      next => rw [inductionHypothesis reached.leave, Place.location_leave]
      next =>
        split
        next => rfl
        next =>
          cases entered : place.enter? name with
          | some inner =>
            rw [← Place.location_of_enter? entered]
            exact inductionHypothesis (reached.enter entered)
          | none =>
            have below : tree.get? (place.location ++ [name]) = place.here.get? [name] :=
              reached.get?_append [name]
            have closed : place.here.get? [name] ≠ some .directory := by
              simpa [← Directory.isSome_folder?_iff, Place.enter?] using entered
            cases rest with
            | nil => rfl
            | cons second rest =>
              rw [walk, below]
              cases stands : place.here.get? [name] with
              | none => simp
              | some node =>
                cases node with
                | directory => exact absurd stands closed
                | file contents => simp

def names (path : String) : List String :=
  ((Path.segments path.toList).filter (· ≠ [])).map .ofList

def start (tree : FileTree) (path : String) : Location :=
  if Path.IsAbsolute path then [] else tree.workingDir

/-- The location of these names, by a path that the system takes. -/
def locateNames (tree : FileTree) (path : String) (names : List String) :
    Except IoError Location :=
  if '\x00' ∈ path.toList then .error .nulInPath
  else if path = "" then .error .noEntry
  else if maxPathBytes < path.utf8ByteSize then .error .nameTooLong
  else
    match tree.top.descend? (tree.start path) with
    | none => .error .noEntry
    | some place => place.follow names

/-- A path's names are followed from where it starts. -/
theorem locateNames_eq_walk {tree : FileTree} (ready : tree.WellFormed) {path : String}
    (clean : '\x00' ∉ path.toList) (nonempty : path ≠ "")
    (short : path.utf8ByteSize ≤ maxPathBytes) (names : List String) :
    tree.locateNames path names = tree.walk (tree.start path) names := by
  have stands : tree.root.get? (tree.start path) = some .directory := by
    unfold start
    split
    · simp
    · exact ready
  have there : (tree.top.descend? (tree.start path)).isSome := Place.isSome_descend? stands
  obtain ⟨place, found⟩ := Option.isSome_iff_exists.mp there
  obtain ⟨reached, leads⟩ := Place.In.descend? (.top : Place.In tree.root tree.top) found
  simp only [locateNames, clean, nonempty, Nat.not_lt.mpr short, if_false, found]
  rw [follow_eq_walk reached, leads]
  rfl

def locate (tree : FileTree) (path : String) : Except IoError Location :=
  tree.locateNames path (names path)

def IsDirectory (tree : FileTree) (path : String) : Prop :=
  (tree.locate path).toOption.bind tree.get? = some .directory

instance (tree : FileTree) (path : String) : Decidable (tree.IsDirectory path) :=
  inferInstanceAs (Decidable (_ = _))

end Scaffold.FileTree
