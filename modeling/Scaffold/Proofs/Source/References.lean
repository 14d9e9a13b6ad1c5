import Scaffold.Proofs.FileTree.Names
import Scaffold.Proofs.Source.Values
import Scaffold.Proofs.Template.Lines

/-!
How the files of a table refer to each other.  Each declares the package and the class of its own
role.  The lines in which it names its companions are known, and what stands in them is what the
companions' own files declare.
-/

namespace Scaffold

namespace Role

def declarator : Role → String
  | mapper => "public interface "
  | _ => "public class "

end Role

namespace Skeleton

/-- Something other than the file's own class and the fields of the table is named in the line. -/
def NamesCompanion (line : Template) : Prop :=
  ∃ name ∈ line.slots, name ∉ Subject.ownNames ++ Subject.fieldNames

instance (line : Template) : Decidable (NamesCompanion line) :=
  inferInstanceAs (Decidable (∃ name ∈ line.slots, _))

def companionLines (role : Role) : List Template :=
  (ofRole role).lines.filter (NamesCompanion ·)

theorem whole_of_mem_companionLines {role : Role} {line : Template}
    (among : line ∈ companionLines role) :
    Piece.literal "\n" :: (line ++ [.literal "\n"]) <:+: ofRole role := by
  -- The skeletons are fixed, and each has few such lines.
  revert line
  cases role <;> decide +kernel

theorem exists_declaration (role : Role) :
    ∃ follows, [Piece.literal "\n", .literal role.declarator, .slot "className",
      .literal (" " ++ follows)] <:+: ofRole role := by
  cases role with
  | po => exact ⟨"extends BaseAutoIdPo \x7b", by decide⟩
  | entity => exact ⟨"extends BaseEntity \x7b", by decide⟩
  | mapper => exact ⟨"extends BaseMapper<", by decide⟩
  | repository => exact ⟨"\x7b", by decide⟩
  | factory => exact ⟨"\x7b", by decide⟩
  | appService => exact ⟨"\x7b", by decide⟩
  | assembler => exact ⟨"\x7b", by decide⟩

end Skeleton

def importLine (package className : String) : String :=
  "import " ++ package ++ "." ++ className ++ ";"

def memberLine (className memberName : String) : String :=
  "  private " ++ className ++ " " ++ memberName ++ ";"

def importTemplate (companion : Role) : Template :=
  ["import ", .slot (companion.slotStem ++ "Import"), ";"]

/-- Behind the imports, the lines in which a role's file names its companions. -/
def mentions (classOf memberOf : Role → String) : Role → List String
  | .po | .entity => []
  | .mapper =>
    ["public interface " ++ classOf .mapper ++ " extends BaseMapper<" ++ classOf .po ++
      "> \x7b\x7d"]
  | .repository => [memberLine (classOf .mapper) (memberOf .mapper)]
  | .factory => [
    "  public " ++ classOf .entity ++ " create() \x7b",
    "    return new " ++ classOf .entity ++ "();"]
  | .appService => [
    memberLine (classOf .repository) (memberOf .repository),
    memberLine (classOf .factory) (memberOf .factory)]
  | .assembler => [
    "  public " ++ classOf .entity ++ " toEntity(" ++ classOf .po ++ " po) \x7b",
    "    " ++ classOf .entity ++ " entity = new " ++ classOf .entity ++ "();",
    "  public " ++ classOf .po ++ " toPo(" ++ classOf .entity ++ " entity) \x7b",
    "    " ++ classOf .po ++ " po = new " ++ classOf .po ++ "();"]

def mentionTemplates : Role → List Template
  | .po | .entity => []
  | .mapper => [["public interface ", .slot "className", " extends BaseMapper<",
      .slot "poClassName", "> \x7b\x7d"]]
  | .repository => [["  private ", .slot "mapperClassName", " ", .slot "mapperMemberName", ";"]]
  | .factory => [
    ["  public ", .slot "entityClassName", " create() \x7b"],
    ["    return new ", .slot "entityClassName", "();"]]
  | .appService => [
    ["  private ", .slot "repositoryClassName", " ", .slot "repositoryMemberName", ";"],
    ["  private ", .slot "factoryClassName", " ", .slot "factoryMemberName", ";"]]
  | .assembler => [
    ["  public ", .slot "entityClassName", " toEntity(", .slot "poClassName", " po) \x7b"],
    ["    ", .slot "entityClassName", " entity = new ", .slot "entityClassName", "();"],
    ["  public ", .slot "poClassName", " toPo(", .slot "entityClassName", " entity) \x7b"],
    ["    ", .slot "poClassName", " po = new ", .slot "poClassName", "();"]]

theorem Skeleton.companionLines_eq (role : Role) :
    companionLines role = role.companions.map importTemplate ++ mentionTemplates role := by
  cases role <;> decide

namespace Subject

open Skeleton

variable (subject : Subject) {role : Role}

theorem fill_package (role : Role) :
    (Piece.slot "package").fill (subject.bindings role) = subject.package role := by
  apply fill_of_mem_ownValues
  simp [ownValues]

theorem fill_className (role : Role) :
    (Piece.slot "className").fill (subject.bindings role) = subject.className role := by
  apply fill_of_mem_ownValues
  simp [ownValues]

theorem fill_companion {companion : Role} (used : companion ∈ role.companions) :
    (Piece.slot (companion.slotStem ++ "Import")).fill (subject.bindings role) =
        subject.qualifiedName companion ∧
      (Piece.slot (companion.slotStem ++ "ClassName")).fill (subject.bindings role) =
        subject.className companion ∧
      (Piece.slot (companion.slotStem ++ "MemberName")).fill (subject.bindings role) =
        subject.memberName companion := by
  refine ⟨?_, ?_, ?_⟩
  all_goals
    apply fill_of_mem_companionValues used
    simp [companionValues]

theorem render_importTemplate {companion : Role} (used : companion ∈ role.companions) :
    (importTemplate companion).render (subject.bindings role) =
      importLine (subject.package companion) (subject.className companion) := by
  simp [importTemplate, importLine, (subject.fill_companion used).1, qualifiedName,
    String.append_assoc]

theorem render_mentionTemplates (role : Role) :
    (mentionTemplates role).map (Template.render (subject.bindings role)) =
      mentions subject.className subject.memberName role := by
  cases role with
  | po => rfl
  | entity => rfl
  | mapper =>
    have po : Role.po ∈ Role.mapper.companions := by decide
    have values := subject.fill_companion po
    simp only [Role.slotStem, String.reduceAppend] at values
    simp [mentionTemplates, mentions, fill_className, values, String.append_assoc]
  | repository =>
    have mapper : Role.mapper ∈ Role.repository.companions := by decide
    have values := subject.fill_companion mapper
    simp only [Role.slotStem, String.reduceAppend] at values
    simp [mentionTemplates, mentions, memberLine, values, String.append_assoc]
  | factory =>
    have entity : Role.entity ∈ Role.factory.companions := by decide
    have values := subject.fill_companion entity
    simp only [Role.slotStem, String.reduceAppend] at values
    simp [mentionTemplates, mentions, values, String.append_assoc]
  | appService =>
    have factory : Role.factory ∈ Role.appService.companions := by decide
    have repository : Role.repository ∈ Role.appService.companions := by decide
    have factoryValues := subject.fill_companion factory
    have repositoryValues := subject.fill_companion repository
    simp only [Role.slotStem, String.reduceAppend] at factoryValues repositoryValues
    simp [mentionTemplates, mentions, memberLine, factoryValues, repositoryValues,
      String.append_assoc]
  | assembler =>
    have entity : Role.entity ∈ Role.assembler.companions := by decide
    have po : Role.po ∈ Role.assembler.companions := by decide
    have entityValues := subject.fill_companion entity
    have poValues := subject.fill_companion po
    simp only [Role.slotStem, String.reduceAppend] at entityValues poValues
    simp [mentionTemplates, mentions, entityValues, poValues, String.append_assoc]

theorem render_companionLines (role : Role) :
    (companionLines role).map (Template.render (subject.bindings role)) =
      (role.companions.map fun companion =>
        importLine (subject.package companion) (subject.className companion)) ++
      mentions subject.className subject.memberName role := by
  rw [companionLines_eq, List.map_append, List.map_map, render_mentionTemplates]
  congr 1
  apply List.map_congr_left
  intro companion used
  exact subject.render_importTemplate used

theorem hasLine_of_mem_companionLines {line : Template} (among : line ∈ companionLines role) :
    HasLine (subject.contents role) (line.render (subject.bindings role)) :=
  Template.hasLine_render (whole_of_mem_companionLines among) _

theorem hasLine_importLine {companion : Role} (used : companion ∈ role.companions) :
    HasLine (subject.contents role)
      (importLine (subject.package companion) (subject.className companion)) := by
  rw [← subject.render_importTemplate used]
  apply hasLine_of_mem_companionLines
  rw [companionLines_eq]
  exact List.mem_append_left _ (List.mem_map_of_mem used)

theorem hasLine_of_mem_mentions {line : String}
    (among : line ∈ mentions subject.className subject.memberName role) :
    HasLine (subject.contents role) line := by
  rw [← render_mentionTemplates] at among
  obtain ⟨template, listed, rfl⟩ := List.mem_map.mp among
  apply hasLine_of_mem_companionLines
  rw [companionLines_eq]
  exact List.mem_append_right _ listed

end Subject

namespace SourceFile

/-- The file declares the class in the package, and is named after it. -/
structure Declares (file : SourceFile) (package className : String) : Prop where
  starts : ∃ rest, file.contents = "package " ++ package ++ ";\n" ++ rest
  declared : ∃ before after,
    file.contents = before ++ "\n" ++ file.role.declarator ++ className ++ " " ++ after
  named : file.path = className ++ ".java" ∨
    ∃ dir, file.path = dir ++ "/" ++ (className ++ ".java")

/-- What one of the files says about classes, where those of each role are named like this. -/
structure Refers (packageOf classOf memberOf : Role → String) (files : List SourceFile)
    (file : SourceFile) : Prop where
  declares : file.Declares (packageOf file.role) (classOf file.role)
  /-- A companion is imported from the package and by the name that its own file declares. -/
  imports (companion : Role) : companion ∈ file.role.companions →
    HasLine file.contents (importLine (packageOf companion) (classOf companion)) ∧
      ∃ other ∈ files, other.role = companion ∧
        other.Declares (packageOf companion) (classOf companion)
  mentioned (line : String) : line ∈ mentions classOf memberOf file.role →
    HasLine file.contents line
  /-- In no other line is a companion named. -/
  complete : ∃ bindings, file.contents =
      "\n".intercalate ((Skeleton.ofRole file.role).lines.map (Template.render bindings)) ∧
    (Skeleton.companionLines file.role).map (Template.render bindings) =
      (file.role.companions.map fun companion =>
        importLine (packageOf companion) (classOf companion)) ++
      mentions classOf memberOf file.role

end SourceFile

namespace Subject

theorem starts_contents (subject : Subject) (role : Role) :
    ∃ rest, subject.contents role = "package " ++ subject.package role ++ ";\n" ++ rest := by
  have skeleton : ∃ rest, Skeleton.ofRole role =
      .literal "package " :: .slot "package" :: .literal ";" :: .literal "\n" :: rest := by
    cases role <;> exact ⟨_, rfl⟩
  obtain ⟨rest, spelled⟩ := skeleton
  refine ⟨Template.render (subject.bindings role) rest, ?_⟩
  rw [← String.toList_inj]
  simp [contents, spelled, fill_package]

theorem declared_contents (subject : Subject) (role : Role) :
    ∃ before after, subject.contents role =
      before ++ "\n" ++ role.declarator ++ subject.className role ++ " " ++ after := by
  obtain ⟨follows, front, back, spelled⟩ := Skeleton.exists_declaration role
  refine ⟨Template.render (subject.bindings role) front,
    follows ++ Template.render (subject.bindings role) back, ?_⟩
  simp [contents, ← spelled, fill_className, String.append_assoc]

theorem declares_file (subject : Subject) (role : Role) :
    (subject.file role).Declares (subject.package role) (subject.className role) where
  starts := subject.starts_contents role
  declared := subject.declared_contents role
  named := by
    simp only [file, Layout.filePath]
    exact Path.push_eq_or _ _

theorem refers_file (subject : Subject) (role : Role) :
    (subject.file role).Refers subject.package subject.className subject.memberName
      subject.files where
  declares := subject.declares_file role
  imports companion used := by
    have own : subject.file companion ∈ subject.files :=
      List.mem_map_of_mem (Role.mem_all companion)
    exact ⟨subject.hasLine_importLine used, subject.file companion, own, rfl,
      subject.declares_file companion⟩
  mentioned line among := subject.hasLine_of_mem_mentions among
  complete := ⟨subject.bindings role, Template.render_eq_intercalate _ _,
    subject.render_companionLines role⟩

end Subject

/-- The seven files of a table refer to each other by the packages and names that they declare. -/
theorem SourceFile.ofTable_refers (settings : Settings) (moment : Moment) (table : Table)
    (fields : List Field) :
    let files := ofTable settings moment table fields
    let packageOf := Layout.package settings.basePackage settings.domain
    let classOf (role : Role) := role.className table.name
    let memberOf (role : Role) := role.memberName table.name
    files.map (·.role) = Role.all ∧
      (∀ file ∈ files, file.Refers packageOf classOf memberOf files) ∧
      ∀ role, Identifier.capitalize (memberOf role) = classOf role := by
  intro files packageOf classOf memberOf
  let subject : Subject := ⟨table, fields, settings, moment.text⟩
  refine ⟨rfl, ?_, fun role => role.capitalize_memberName table.name⟩
  intro file among
  obtain ⟨role, _, rfl⟩ := List.mem_map.mp among
  exact subject.refers_file role

end Scaffold
