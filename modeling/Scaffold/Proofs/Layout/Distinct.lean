import Scaffold.Proofs.FileTree.Above
import Scaffold.Proofs.Source.Placement

/-!
Which files are kept apart.  The layers tell the roles apart and the file name the tables, so that
two files go to the same path, or to the same location, only for the same role and class stem.  The
files of one table do not meet whatever its name is, since their own names end differently.
-/

namespace Scaffold

theorem Role.suffix_injective : Function.Injective Role.suffix := by
  intro first second same
  revert same
  cases first <;> cases second <;> decide

namespace FileTree

open Scaffold.Path

/-- However a text begins, an ending without slashes belongs to its last name. -/
theorem exists_names_append (stem : String) :
    ∃ front tail, ∀ ending : String, 2 < ending.length → '/' ∉ ending.toList →
      IsOrdinary (tail ++ ending) ∧ names (stem ++ ending) = front ++ [tail ++ ending] := by
  have ordinary {tail ending : String} (tailClean : '/' ∉ tail.toList)
      (long : 2 < ending.length) (clean : '/' ∉ ending.toList) : IsOrdinary (tail ++ ending) := by
    apply isOrdinary_of_length
    · rw [String.length_append]
      omega
    · rw [String.toList_append, List.mem_append, not_or]
      exact ⟨tailClean, clean⟩
  by_cases slash : '/' ∈ stem.toList
  · obtain ⟨tail, front, spelled, tailClean⟩ :=
      List.eq_append_cons_of_mem (List.mem_reverse.mpr slash)
    have cut : stem = .ofList front.reverse ++ "/" ++ .ofList tail.reverse := by
      rw [← String.toList_inj, ← List.reverse_inj, spelled]
      simp
    refine ⟨names (.ofList front.reverse), .ofList tail.reverse, ?_⟩
    intro ending long clean
    have own : IsOrdinary (.ofList tail.reverse ++ ending) :=
      ordinary (by simpa using tailClean) long clean
    refine ⟨own, ?_⟩
    rw [cut, String.append_assoc, names_append_slash, names_of_isOrdinary own]
  · refine ⟨[], stem, ?_⟩
    intro ending long clean
    have own := ordinary slash long clean
    exact ⟨own, names_of_isOrdinary own⟩

/-- A path that is pushed keeps its last name. -/
theorem exists_names_push {part name : String} (ends : ∃ front, names part = front ++ [name])
    (base : String) : ∃ front, names (push base part) = front ++ [name] := by
  obtain ⟨front, spelled⟩ := ends
  rcases push_eq_or base part with same | ⟨before, same⟩
  · exact ⟨front, by rw [same, spelled]⟩
  · refine ⟨names before ++ front, ?_⟩
    rw [same, names_append_slash, spelled, List.append_assoc]

end FileTree

namespace Layout

open Scaffold.Path

variable {outputRoot domain table other : String} {role second : Role}

theorem eq_of_layers_append
    (same : role.layers ++ [role.className table ++ ".java"] =
      second.layers ++ [second.className other ++ ".java"]) :
    role = second ∧ Identifier.classStem table = Identifier.classStem other := by
  obtain ⟨layers, fileName⟩ := List.append_inj' same (by simp)
  obtain rfl := Role.layers_injective layers
  refine ⟨rfl, ?_⟩
  have className : role.className table = role.className other :=
    (String.append_left_inj ".java").mp (List.cons.inj fileName).1
  exact (String.append_left_inj role.suffix).mp className

theorem filePath_eq_iff (named : Table.IsName table) (namedToo : Table.IsName other) :
    filePath domain role (role.className table) = filePath domain second (second.className other) ↔
      role = second ∧ Identifier.classStem table = Identifier.classStem other := by
  constructor
  · intro same
    have names := congrArg FileTree.names same
    rw [names_filePath (role.isOrdinary_fileName named),
      names_filePath (second.isOrdinary_fileName namedToo)] at names
    exact eq_of_layers_append (List.append_cancel_left names)
  · rintro ⟨rfl, stem⟩
    rw [Role.className, Role.className, stem]

/-- Where the working directory is the same, the two files do not even meet in different trees. -/
theorem eq_of_locate_filePath (named : Table.IsName table) (namedToo : Table.IsName other)
    {tree later : FileTree} (workingDir : later.workingDir = tree.workingDir)
    {location : Location}
    (leads : tree.locate (push outputRoot (filePath domain role (role.className table))) =
      .ok location)
    (leadsToo : later.locate (push outputRoot (filePath domain second (second.className other))) =
      .ok location) :
    role = second ∧ Identifier.classStem table = Identifier.classStem other := by
  obtain ⟨base, toBase, spelled⟩ := locate_push_filePath (role.isOrdinary_fileName named) leads
  obtain ⟨base', toBase', spelled'⟩ :=
    locate_push_filePath (second.isOrdinary_fileName namedToo) leadsToo
  have start : later.start (push outputRoot domain) = tree.start (push outputRoot domain) := by
    rw [FileTree.start, FileTree.start, workingDir]
  rw [start] at toBase'
  obtain rfl := FileTree.walk_unique toBase toBase'
  exact eq_of_layers_append (List.append_cancel_left (spelled.symm.trans spelled'))

/-- What a table's files are called at the locations to which they go. -/
theorem exists_last_name (outputRoot domain table : String) :
    ∃ tail, ∀ (tree : FileTree) (role : Role) (location : Location),
      tree.locate (push outputRoot (filePath domain role (role.className table))) = .ok location →
      ∃ above, location = above ++ [tail ++ (role.suffix ++ ".java")] := by
  obtain ⟨front, tail, spelled⟩ := FileTree.exists_names_append (Identifier.classStem table)
  refine ⟨tail, ?_⟩
  intro tree role location leads
  obtain ⟨own, names⟩ := spelled (role.suffix ++ ".java") (by cases role <;> decide)
    (by cases role <;> decide)
  rw [← String.append_assoc] at names
  have inDomain : ∃ before, FileTree.names (filePath domain role (role.className table)) =
      before ++ [tail ++ (role.suffix ++ ".java")] :=
    FileTree.exists_names_push ⟨front, names⟩ (extend domain role.layers)
  obtain ⟨before, last⟩ := FileTree.exists_names_push inDomain outputRoot
  obtain ⟨_, _, walked⟩ := FileTree.locateNames_eq_ok_iff.mp leads
  rw [last] at walked
  obtain ⟨above, _, below⟩ := FileTree.walk_append.mp walked
  refine ⟨above, FileTree.eq_append_of_walk ?_ below⟩
  intro name among
  obtain rfl := List.mem_singleton.mp among
  exact own

theorem role_eq_of_locate {tree : FileTree} {location : Location}
    (leads : tree.locate (push outputRoot (filePath domain role (role.className table))) =
      .ok location)
    (leadsToo : tree.locate (push outputRoot (filePath domain second (second.className table))) =
      .ok location) : role = second := by
  obtain ⟨tail, ends⟩ := exists_last_name outputRoot domain table
  obtain ⟨above, rfl⟩ := ends tree role location leads
  obtain ⟨aboveToo, same⟩ := ends tree second _ leadsToo
  have names := (List.append_inj' same rfl).2
  rw [List.singleton_inj, String.append_right_inj, String.append_left_inj] at names
  exact Role.suffix_injective names

end Layout
end Scaffold
