import Scaffold.Proofs.Path.Components
import Scaffold.Proofs.Role.Alphabet
import Scaffold.Run

/-!
Where the files of a table go.  Each goes to its role's layers and its own name, below the place
that the domain names from the output root.  That place need not lie within the output root: an
absolute domain replaces it, and two dots lead out of it.
-/

namespace Scaffold

namespace Layout

open Scaffold.Path

theorem components_push_filePath {outputRoot domain className : String} {role : Role}
    (ordinary : IsOrdinary (className ++ ".java")) :
    components (push outputRoot (filePath domain role className)) =
      components (push outputRoot domain) ++
        (role.layers ++ [className ++ ".java"]).map .down := by
  apply components_of_names (isAbsolute_push_filePath ordinary) (names_push_filePath ordinary)
  intro name among
  rcases List.mem_append.mp among with layer | own
  · exact isOrdinary_of_mem_layers layer
  · obtain rfl := List.mem_singleton.mp own
    exact ordinary

end Layout

theorem Role.notMem_fileName {table : String} (named : Table.IsName table) (role : Role) {c : Char}
    (special : ¬ Identifier.IsClassChar c) (outside : c ∉ ".java".toList) :
    c ∉ (role.className table ++ ".java").toList := by
  rw [String.toList_append, List.mem_append, not_or]
  exact ⟨mt (Role.isClassChar_of_mem_className named) special, outside⟩

/-- The file name of a class is a single name, since class names hold no slash. -/
theorem Role.isOrdinary_fileName {table : String} (named : Table.IsName table) (role : Role) :
    Path.IsOrdinary (role.className table ++ ".java") := by
  apply Path.isOrdinary_of_length
  · rw [String.length_append]
    exact Nat.lt_add_left _ (by decide)
  · exact role.notMem_fileName named (by decide) (by decide)

namespace Subject

open Scaffold.Path

theorem isOrdinary_fileName {subject : Subject} (named : Table.IsName subject.table.name)
    (role : Role) :
    Path.IsOrdinary (subject.className role ++ ".java") :=
  role.isOrdinary_fileName named

theorem target_file (subject : Subject) (role : Role) (outputRoot : String) :
    (subject.file role).target outputRoot = Path.push outputRoot
      (Layout.filePath subject.settings.domain role (subject.className role)) := by
  simp only [SourceFile.target, file]

theorem components_target (subject : Subject) (named : Table.IsName subject.table.name)
    (role : Role) (outputRoot : String) :
    components ((subject.file role).target outputRoot) =
      components (push outputRoot subject.settings.domain) ++
        (role.layers ++ [subject.className role ++ ".java"]).map .down := by
  rw [target_file]
  exact Layout.components_push_filePath (isOrdinary_fileName named role)

theorem isBelow_target_of_isWithin (subject : Subject) (named : Table.IsName subject.table.name)
    {outputRoot : String}
    (within : IsWithin outputRoot (push outputRoot subject.settings.domain)) (role : Role) :
    IsBelow outputRoot ((subject.file role).target outputRoot) := by
  obtain ⟨further, spelled, stays⟩ := within
  have whole := subject.components_target named role outputRoot
  rw [spelled, List.append_assoc] at whole
  refine ⟨_, whole, by simp, ?_⟩
  intro up
  rcases List.mem_append.mp up with before | behind
  · exact stays before
  · exact up_notMem_map_down _ behind

/-- Two files whose first layers differ lie below the same directory only where the domain does. -/
theorem isWithin_of_isBelow_target (subject : Subject) (named : Table.IsName subject.table.name)
    {outputRoot : String}
    (po : IsBelow outputRoot ((subject.file .po).target outputRoot))
    (entity : IsBelow outputRoot ((subject.file .entity).target outputRoot)) :
    IsWithin outputRoot (push outputRoot subject.settings.domain) := by
  obtain ⟨poFurther, poSpelled, _, poStays⟩ := po
  obtain ⟨entityFurther, entitySpelled, _, _⟩ := entity
  rw [subject.components_target named] at poSpelled entitySpelled
  rcases List.append_eq_append_iff.mp poSpelled with ⟨more, root, poTail⟩ | ⟨more, domain, rest⟩
  · -- The output root would reach into the layers, where the two files have parted.
    cases more with
    | nil =>
      rw [List.append_nil] at root
      exact ⟨[], by rw [List.append_nil, root], by simp⟩
    | cons first more =>
      rw [root, List.append_assoc] at entitySpelled
      have entityTail := List.append_cancel_left entitySpelled
      have poFirst : Component.down "infrastructure" = first := (List.cons.inj poTail).1
      have entityFirst : Component.down "domain" = first := (List.cons.inj entityTail).1
      exact absurd (poFirst.trans entityFirst.symm) (by decide)
  · refine ⟨more, domain, ?_⟩
    intro up
    apply poStays
    rw [rest]
    exact List.mem_append_left _ up

end Subject

/-- All files of a table lie below the output root exactly when the domain's own place lies within
it; a relative domain stays there when none of its names is two dots. -/
theorem SourceFile.ofTable_isBelow_iff (settings : Settings) (moment : Moment) {table : Table}
    (fields : List Field) (named : Table.IsName table.name) :
    ((∀ file ∈ ofTable settings moment table fields,
        Path.IsBelow settings.outputRoot (file.target settings.outputRoot)) ↔
      Path.IsWithin settings.outputRoot (Path.push settings.outputRoot settings.domain)) ∧
    (¬ Path.IsAbsolute settings.domain →
      (Path.IsWithin settings.outputRoot (Path.push settings.outputRoot settings.domain) ↔
        ".." ∉ FileTree.names settings.domain)) := by
  let subject : Subject := ⟨table, fields, settings, moment.text⟩
  refine ⟨⟨?_, ?_⟩, Path.isWithin_push_iff⟩
  · intro below
    have each (role : Role) : Path.IsBelow settings.outputRoot
        ((subject.file role).target settings.outputRoot) :=
      below (subject.file role) (List.mem_map_of_mem role.mem_all)
    exact subject.isWithin_of_isBelow_target named (each .po) (each .entity)
  · intro within file among
    obtain ⟨role, _, rfl⟩ := List.mem_map.mp among
    exact subject.isBelow_target_of_isWithin named within role

/-- An absolute domain can lie within an absolute output root, however the two are written. -/
theorem SourceFile.isBelow_of_domain_within_root :
    let settings : Settings :=
      { table := "tb_order", domain := "/srv//gen/./order", outputRoot := "/srv/gen/" }
    let table : Table := { name := "tb_order" }
    Table.IsName table.name ∧ ∀ file ∈ ofTable settings ⟨2024, 1, 2, 3, 4, 5, 0⟩ table [],
      Path.IsBelow settings.outputRoot (file.target settings.outputRoot) := by
  intro settings table
  have named : Table.IsName table.name := by decide
  have within : Path.IsWithin settings.outputRoot
      (Path.push settings.outputRoot settings.domain) :=
    ⟨[.down "order"], by decide, by decide⟩
  exact ⟨named, (ofTable_isBelow_iff settings ⟨2024, 1, 2, 3, 4, 5, 0⟩ [] named).1.mpr within⟩

/-- Settings that are accepted can lead out of the output root with every file. -/
theorem SourceFile.not_isBelow_of_domain_beside_root :
    let config : Config :=
      { settings := { table := "tb_order", domain := "../shop", outputRoot := "out" } }
    let table : Table := { name := "tb_order" }
    config.check = .ok () ∧ Table.IsName table.name ∧
      ∀ file ∈ ofTable config.settings ⟨2024, 1, 2, 3, 4, 5, 0⟩ table [],
        ¬ Path.IsBelow config.settings.outputRoot (file.target config.settings.outputRoot) := by
  intro config table
  have named : Table.IsName table.name := by decide
  refine ⟨(Config.check_eq_ok_iff config).mpr (by decide), named, ?_⟩
  intro file among
  obtain ⟨role, _, rfl⟩ := List.mem_map.mp among
  let subject : Subject := ⟨table, [], config.settings, Moment.text ⟨2024, 1, 2, 3, 4, 5, 0⟩⟩
  rintro ⟨further, spelled, _, stays⟩
  have domain : Path.components (Path.push "out" "../shop") =
      Path.components "out" ++ [.up, .down "shop"] := by decide
  have whole := subject.components_target named role config.settings.outputRoot
  rw [domain, List.append_assoc] at whole
  have same := List.append_cancel_left (whole.symm.trans spelled)
  apply stays
  rw [← same]
  exact List.mem_append_left _ (by decide)

end Scaffold
