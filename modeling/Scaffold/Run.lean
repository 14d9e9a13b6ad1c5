import Scaffold.FileTree.Write
import Scaffold.Schema
import Scaffold.Source.File

/-!
A run: the table is read, its files are generated, and they are written below the output root, or
shown when the run is a dry one.  The first failure ends it.
-/

namespace Scaffold

structure Saving where
  /-- The paths of the files, or why one could not be written. -/
  result : Except Error (List String)
  tree : FileTree
  events : List Event := []

namespace SourceFile

def target (outputRoot : String) (file : SourceFile) : String :=
  Path.push outputRoot file.path

/-- Saves the files in order, up to the first failure. -/
def saveAll (outputRoot : String) : List SourceFile → FileTree → Saving
  | [], tree => { result := .ok [], tree }
  | file :: rest, tree =>
    match tree.save (file.target outputRoot) file.contents with
    | (after, .error error) => { result := .error error, tree := after }
    | (after, .ok ()) =>
      let others := saveAll outputRoot rest after
      { result := others.result.map (file.target outputRoot :: ·)
        tree := others.tree
        events := .fileWritten file.className (file.target outputRoot) :: others.events }

def preview (outputRoot : String) (file : SourceFile) : String :=
  "// ==> " ++ file.target outputRoot ++ "\n" ++ file.contents ++ "\n"

end SourceFile

structure Run where
  /-- The generated files, or why there are none. -/
  result : Except Error (List SourceFile)
  tree : FileTree
  events : List Event := []
  printed : String := ""

namespace Run

def deliver (settings : Settings) (files : List SourceFile) (tree : FileTree) : Run :=
  if settings.dryRun then
    { result := .ok files
      tree
      printed := String.join (files.map (·.preview settings.outputRoot)) }
  else
    let saving := SourceFile.saveAll settings.outputRoot files tree
    { result := saving.result.map fun _ => files
      tree := saving.tree
      events := saving.events }

def after (events : List Event) (run : Run) : Run :=
  { run with events := events ++ run.events }

def generate (reader : Schema.Reader) (settings : Settings) (moment : Moment) (tree : FileTree) :
    Run :=
  let status := reader.status settings.table
  match status.result with
  | .error error => { result := .error error, tree, events := status.events }
  | .ok table =>
    let columns := reader.columns settings.table
    let read := status.events ++ [.tableRead table] ++ columns.events
    match columns.result with
    | .error error => { result := .error error, tree, events := read }
    | .ok found =>
      let files := SourceFile.ofTable settings moment table (found.map Field.ofColumn)
      (deliver settings files tree).after
        (read ++ [.columnsRead found.length settings.table])

end Run
end Scaffold
