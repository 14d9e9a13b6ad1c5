import Scaffold.Directory.Place

/-!
A tree of directories and files with a directory that is worked in, seen through `get?`.
-/

namespace Scaffold

/-- Directories and files, and the directory in which paths start that name no root. -/
structure FileTree where
  root : Directory := .empty
  workingDir : Location := []
deriving Repr

namespace FileTree

/-- The node at a location; the root is always a directory. -/
def get? (tree : FileTree) (location : Location) : Option Node :=
  tree.root.get? location

@[simp]
theorem get?_nil (tree : FileTree) : tree.get? [] = some .directory := Directory.get?_nil _

theorem get?_eq_directory_of_isSome {tree : FileTree} {location : Location} {name : String}
    (stands : (tree.get? (location ++ [name])).isSome) : tree.get? location = some .directory :=
  Directory.get?_eq_directory_of_isSome stands

def put (tree : FileTree) (location : Location) (node : Node) : FileTree :=
  { tree with root := tree.root.put node location }

theorem get?_put {tree : FileTree} {location : Location} {name : String}
    (stands : tree.get? location = some .directory)
    (free : tree.get? (location ++ [name]) ≠ some .directory) (node : Node) (other : Location) :
    (tree.put (location ++ [name]) node).get? other =
      if other = location ++ [name] then some node else tree.get? other :=
  Directory.get?_put stands free node other

@[simp]
theorem workingDir_put (tree : FileTree) (location : Location) (node : Node) :
    (tree.put location node).workingDir = tree.workingDir := rfl

/-- The directory that is worked in is there. -/
def WellFormed (tree : FileTree) : Prop := tree.get? tree.workingDir = some .directory

def empty (workingDir : Location) : FileTree := ⟨.chain workingDir, workingDir⟩

theorem wellFormed_empty (workingDir : Location) : (empty workingDir).WellFormed :=
  Directory.get?_chain workingDir

def top (tree : FileTree) : Place := ⟨[], tree.root⟩

/-- What stands below a location, by the rest of the way. -/
def below (tree : FileTree) (location : Location) : List (Location × Node) :=
  (tree.top.descend? location).elim [] (·.here.listing)

end FileTree
end Scaffold
