import Scaffold.Error
import Scaffold.FileTree.Walk

/-!
Making directories and writing files.  `createDirs` makes a directory together with those above
it, the deepest first and upwards only when something is missing; `save` does this for a file's
directory and then writes the file.  Each gives the tree as it is afterwards, also when it fails.
-/

namespace Scaffold.FileTree

def makeDir (tree : FileTree) (path : String) : Except IoError FileTree :=
  match tree.locate path with
  | .error cause => .error cause
  | .ok location =>
    if (tree.get? location).isSome then .error .alreadyExists
    else .ok (tree.put location .directory)

def writeFile (tree : FileTree) (path contents : String) : Except IoError FileTree :=
  if Path.EndsInSlash path then
    match tree.locateNames path ((names path).dropLast ++ ["."]) with
    | .error cause => .error cause
    | .ok _ => .error .isDirectory
  else
    match tree.locate path with
    | .error cause => .error cause
    | .ok location =>
      if tree.get? location = some .directory then .error .isDirectory
      else .ok (tree.put location (.file contents))

/-- Makes a directory again that could not be made for want of its parent. -/
def retryDir (tree : FileTree) (path : String) : FileTree × Except IoError Unit :=
  match tree.makeDir path with
  | .ok made => (made, .ok ())
  | .error cause => (tree, if tree.IsDirectory path then .ok () else .error cause)

/-- Makes a directory and those above it, unless they are there. -/
def createDirs (tree : FileTree) (path : String) : FileTree × Except IoError Unit :=
  if path = "" then (tree, .ok ())
  else
    match tree.makeDir path with
    | .ok made => (made, .ok ())
    | .error cause =>
      if cause = .noEntry then
        match _above : Path.parent? path with
        | none => (tree, .error cause)
        | some parent =>
          match tree.createDirs parent with
          | (made, .ok ()) => made.retryDir path
          | (made, .error cause) => (made, .error cause)
      else (tree, if tree.IsDirectory path then .ok () else .error cause)
termination_by path.length
decreasing_by exact Path.length_lt_of_parent? _above

/-- Writes a file after making the directory that it goes to.  An error names the directory or the
file, whichever could not be made. -/
def save (tree : FileTree) (path contents : String) : FileTree × Except Error Unit :=
  match (Path.parent? path).elim (tree, .ok ()) tree.createDirs with
  | (made, .error cause) => (made, .error (.filesystem ((Path.parent? path).getD "") cause))
  | (made, .ok ()) =>
    match made.writeFile path contents with
    | .ok written => (written, .ok ())
    | .error cause => (made, .error (.filesystem path cause))

end Scaffold.FileTree
