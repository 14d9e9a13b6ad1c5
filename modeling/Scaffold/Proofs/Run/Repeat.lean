import Scaffold.Proofs.Layout.SourcePath
import Scaffold.Proofs.Source.Standing

/-!
That a run can be repeated.  Where the seven files of a table stand already, a run writes them again
and changes nothing.
-/

namespace Scaffold

namespace Run

open FileTree

theorem generate_ofTable {settings : Settings} {table : Table} (named : table.name = settings.table)
    (writes : settings.dryRun = false) (columns : List Column) (moment : Moment)
    (tree : FileTree) :
    let files := SourceFile.ofTable settings moment table (columns.map Field.ofColumn)
    let saving := SourceFile.saveAll settings.outputRoot files tree
    (generate (.ofTable table columns) settings moment tree).result =
        saving.result.map (fun _ => files) ∧
      (generate (.ofTable table columns) settings moment tree).tree = saving.tree := by
  simp only [generate, Schema.Reader.ofTable, named, if_true, deliver, writes, after,
    Bool.false_eq_true, if_false, and_self]

/-- A run that ends well leaves each of its seven files where its path leads, none written over
another, and all other files as they were; made again, it ends well and changes nothing. -/
theorem generate_stores_and_repeats {config : Config} {table : Table} {columns : List Column}
    {moment : Moment} {tree : FileTree} {files : List SourceFile}
    (_ : config.check = .ok ()) (writes : config.settings.dryRun = false)
    (named : table.name = config.settings.table)
    (done : (generate (.ofTable table columns) config.settings moment tree).result = .ok files) :
    let first := generate (.ofTable table columns) config.settings moment tree
    let second := generate (.ofTable table columns) config.settings moment first.tree
    files.map (·.role) = Role.all ∧
      SourceFile.Standing config.settings.outputRoot files tree first.tree ∧
      second.result = .ok files ∧ Same first.tree second.tree := by
  intro first second
  let subject : Subject := ⟨table, columns.map Field.ofColumn, config.settings, moment.text⟩
  obtain ⟨firstResult, firstTree⟩ := generate_ofTable named writes columns moment tree
  obtain ⟨secondResult, secondTree⟩ := generate_ofTable named writes columns moment first.tree
  rw [firstResult] at done
  obtain ⟨rfl, paths, saved⟩ := SourceFile.saved_of_map_eq_ok done
  have standing : SourceFile.Standing config.settings.outputRoot subject.files tree first.tree :=
    firstTree ▸ subject.standing_of_saved saved
  have stand : ∀ file ∈ subject.files, ∃ location,
      first.tree.Accepts (file.target config.settings.outputRoot) location ∧
        first.tree.get? location = some (.file file.contents) :=
    firstTree ▸ subject.exists_accepts_and_stands saved
  have again : (SourceFile.saveAll config.settings.outputRoot subject.files first.tree).result =
      .ok (subject.files.map (·.target config.settings.outputRoot)) := by
    apply SourceFile.result_saveAll_of_accepts
    intro file among
    obtain ⟨location, accepts, _⟩ := stand file among
    exact ⟨location, accepts⟩
  refine ⟨rfl, standing, ?_, ?_⟩
  · exact secondResult.trans (congrArg (Except.map fun _ => subject.files) again)
  · exact secondTree ▸ SourceFile.same_saveAll stand

/-- The settings of a run for a table without a name of its own, beside the output root. -/
def besideRoot : Settings := { table := "tb_", domain := "../gen/", outputRoot := "out" }

def emptyDirs : List String → Directory
  | [] => .empty
  | name :: rest => .folder name .empty (emptyDirs rest)

/-- A working directory in which the directories for the files of a run are there. -/
def preparedTree : FileTree where
  workingDir := ["work"]
  root := .folder "work"
    (.folder "gen"
      (.folder "application" (emptyDirs ["assembler", "service"])
        (.folder "domain" (emptyDirs ["entity", "factory"])
          (.folder "infrastructure"
            (.folder "persistence" (emptyDirs ["mapper", "po"]) (emptyDirs ["repository"]))
            .empty)))
      (emptyDirs ["out"]))
    .empty

theorem preparedTree_locate (role : Role) :
    preparedTree.locate ("out/../gen/" ++ "/".intercalate role.layers) =
        .ok (["work", "gen"] ++ role.layers) ∧
      preparedTree.get? (["work", "gen"] ++ role.layers) = some .directory := by
  cases role <;> decide +kernel

theorem preparedTree_get?_append (role : Role) (name : String) :
    preparedTree.get? (["work", "gen"] ++ role.layers ++ [name]) = none := by
  cases role <;>
    simp [preparedTree, FileTree.get?, Directory.get?, emptyDirs, Role.layers]

theorem preparedTree_target (subject : Subject) (named : Table.IsName subject.table.name)
    (placed : subject.settings.domain = "../gen/") (role : Role) :
    (subject.file role).target "out" = "out/../gen/" ++ "/".intercalate role.layers ++ "/" ++
      (subject.className role ++ ".java") := by
  have domain : Path.lead "../gen/" = "../gen/" := by decide
  have root : Path.lead "out" = "out/" := by decide
  have relative (rest : String) : ¬ Path.IsAbsolute ("../gen/" ++ rest) := by simp [Path.IsAbsolute]
  rw [subject.target_file, placed,
    Layout.filePath_eq_lead_append (Subject.isOrdinary_fileName named role), domain,
    Path.push_of_relative (relative _), root]
  simp only [← String.append_assoc]
  rfl

theorem preparedTree_parent? (role : Role) {name : String} (ordinary : Path.IsOrdinary name) :
    Path.parent? ("out/../gen/" ++ "/".intercalate role.layers ++ "/" ++ name) =
      some ("out/../gen/" ++ "/".intercalate role.layers) := by
  have dir : "out/../gen/" ++ "/".intercalate role.layers =
      "/".intercalate (["out", "..", "gen"] ++ role.layers) := by
    have front : "/".intercalate ["out", "..", "gen"] ++ "/" = "out/../gen/" := by decide
    rw [String.intercalate_append_of_ne_nil (List.cons_ne_nil _ _) role.layers_ne_nil, front]
  have steps : ∀ step ∈ ["out", "..", "gen"] ++ role.layers,
      '/' ∉ step.toList ∧ Path.isIdle step.toList = false := by
    cases role <;> decide
  have each : ∀ step ∈ ["out", "..", "gen"] ++ role.layers ++ [name],
      '/' ∉ step.toList ∧ Path.isIdle step.toList = false := by
    intro step among
    rcases List.mem_append.mp among with before | own
    · exact steps step before
    · obtain rfl := List.mem_singleton.mp own
      exact ⟨ordinary.2.1, ordinary.isIdle_eq_false⟩
  have whole := Path.parent?_intercalate (fun step among => (each step among).1)
    (fun step among => (each step among).2)
  rw [String.intercalate_append_of_ne_nil (by simp) (List.cons_ne_nil _ _),
    String.intercalate_singleton] at whole
  rw [dir]
  exact whole

theorem preparedTree_accepts_of_isName (subject : Subject)
    (named : Table.IsName subject.table.name) (placed : subject.settings.domain = "../gen/")
    (role : Role)
    (short : (subject.className role ++ ".java").utf8ByteSize ≤ FileTree.maxNameBytes) :
    preparedTree.Accepts ((subject.file role).target "out")
      (["work", "gen"] ++ role.layers ++ [subject.className role ++ ".java"]) := by
  have ordinary := Subject.isOrdinary_fileName named role
  obtain ⟨leads, stands⟩ := preparedTree_locate role
  have clean : '\x00' ∉ (subject.className role ++ ".java").toList :=
    role.notMem_fileName named (by decide) (by decide)
  have dirSize : ("out/../gen/" ++ "/".intercalate role.layers).utf8ByteSize ≤ 100 := by
    cases role <;> decide
  rw [preparedTree_target subject named placed]
  apply accepts_of_isDirectory leads stands ordinary clean short
  · rw [String.utf8ByteSize_append, String.utf8ByteSize_append]
    have slash : "/".utf8ByteSize = 1 := by decide
    unfold maxNameBytes at short
    unfold maxPathBytes
    omega
  · exact preparedTree_parent? role ordinary
  · rw [preparedTree_get?_append]
    simp

theorem preparedTree_accepts (subject : Subject) (named : subject.table.name = "tb_")
    (placed : subject.settings.domain = "../gen/") (role : Role) :
    preparedTree.Accepts ((subject.file role).target "out")
      (["work", "gen"] ++ role.layers ++ [role.className "tb_" ++ ".java"]) := by
  have plain : Table.IsName subject.table.name := by
    rw [named]
    decide
  rw [← named]
  apply preparedTree_accepts_of_isName subject plain placed role
  rw [Subject.className, named]
  cases role <;> decide

/-- All seven files go beside the output root, the entity with nothing in front of its ending. -/
theorem besideRoot_stores_and_repeats :
    let config : Config := { settings := besideRoot }
    let table : Table := { name := "tb_" }
    let columns : List Column := [{ field := "id", sqlType := "bigint" }]
    let moment : Moment := ⟨2024, 1, 2, 3, 4, 5, 0⟩
    let first := generate (.ofTable table columns) config.settings moment preparedTree
    let second := generate (.ofTable table columns) config.settings moment first.tree
    ∃ files, (config.check = .ok () ∧ config.settings.dryRun = false ∧
        table.name = config.settings.table ∧ first.result = .ok files) ∧
      files.map (·.role) = Role.all ∧
        SourceFile.Standing config.settings.outputRoot files preparedTree first.tree ∧
        second.result = .ok files ∧ Same first.tree second.tree := by
  intro config table columns moment first second
  let subject : Subject := ⟨table, columns.map Field.ofColumn, config.settings, moment.text⟩
  have checked : config.check = .ok () := by
    refine (Config.check_eq_ok_iff config).mpr ?_
    decide
  have accepts : ∀ file ∈ subject.files, ∃ location,
      preparedTree.Accepts (file.target "out") location := by
    intro file among
    obtain ⟨role, _, rfl⟩ := List.mem_map.mp among
    exact ⟨_, preparedTree_accepts subject rfl rfl role⟩
  have done : first.result = .ok subject.files := by
    have saved := SourceFile.result_saveAll_of_accepts accepts
    exact (generate_ofTable rfl rfl columns moment preparedTree).1.trans
      (congrArg (Except.map fun _ => subject.files) saved)
  exact ⟨subject.files, ⟨checked, rfl, rfl, done⟩,
    generate_stores_and_repeats checked rfl rfl done⟩

end Run
end Scaffold
