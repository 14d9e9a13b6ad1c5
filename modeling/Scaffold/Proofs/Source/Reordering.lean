import Scaffold.Proofs.Field.Reordering
import Scaffold.Proofs.Source.Influence
import Scaffold.Proofs.Template.Lines

/-!
Files of tables whose columns come in another order.  Files of classes with fields show the import
lines and the declarations in places of their own, and are otherwise the same; so they have the same
lines.  The other files do not change.
-/

namespace Scaffold

/-- The text in front of, between and behind the import lines and the declarations. -/
structure Skeleton.Parts where
  front : Template
  middle : Template
  back : Template

namespace Skeleton.Parts

def whole (parts : Parts) : Template :=
  parts.front ++ .literal "\n" :: .slot "imports" :: (parts.middle ++
    .literal "\n" :: .slot "fields" :: .literal "\n" :: parts.back)

/-- The template, cut at the slots for the two blocks. -/
def ofTemplate (template : Template) : Parts where
  front := (template.takeWhile (· ≠ .slot "imports")).dropLast
  middle :=
    (((template.dropWhile (· ≠ .slot "imports")).drop 1).takeWhile (· ≠ .slot "fields")).dropLast
  back := (template.dropWhile (· ≠ .slot "fields")).drop 2

end Skeleton.Parts

theorem Skeleton.whole_ofTemplate {role : Role} (has : role.HasFields) :
    (Parts.ofTemplate (ofRole role)).whole = ofRole role := by
  rcases has with rfl | rfl <;> decide

theorem Skeleton.slots_ofTemplate {role : Role} (has : role.HasFields) :
    let parts := Parts.ofTemplate (ofRole role)
    ∀ name ∈ parts.front.slots ++ parts.middle.slots ++ parts.back.slots,
      name ∈ Subject.ownNames := by
  rcases has with rfl | rfl <;> decide

namespace Subject

variable {role : Role}

theorem fill_slot_of_ownNames {subject other : Subject}
    (own : subject.ownValues role = other.ownValues role) {name : String}
    (known : name ∈ ownNames) :
    (Piece.slot name).fill (subject.bindings role) =
      (Piece.slot name).fill (other.bindings role) := by
  have listed : name ∈ (subject.ownValues role).map Prod.fst := known
  obtain ⟨⟨_, value⟩, given, rfl⟩ := List.mem_map.mp listed
  rw [fill_of_mem_ownValues given, fill_of_mem_ownValues (own ▸ given)]

theorem render_eq_of_ownNames {subject other : Subject}
    (own : subject.ownValues role = other.ownValues role) {template : Template}
    (known : ∀ name ∈ template.slots, name ∈ ownNames) :
    template.render (subject.bindings role) = template.render (other.bindings role) := by
  unfold Template.render
  apply congrArg String.join
  apply List.map_congr_left
  intro piece among
  cases piece with
  | literal text => simp only [Piece.fill_literal]
  | slot name =>
    apply fill_slot_of_ownNames own
    apply known
    exact List.mem_filterMap.mpr ⟨.slot name, among, rfl⟩

/-- The role's file around these import lines and these declarations. -/
def around (subject : Subject) (role : Role) (imports declarations : String) : String :=
  let parts := Skeleton.Parts.ofTemplate (Skeleton.ofRole role)
  let bindings := subject.bare.bindings role
  parts.front.render bindings ++ "\n" ++ imports ++ parts.middle.render bindings ++ "\n"
    ++ declarations ++ "\n" ++ parts.back.render bindings

theorem contents_eq_around (subject : Subject) (has : role.HasFields) :
    subject.contents role = subject.around role subject.importLines subject.declarationBlock := by
  have imports : (Piece.slot "imports").fill (subject.bindings role) = subject.importLines := by
    apply fill_of_mem_values
    simp [values, has, fieldValues]
  have fields : (Piece.slot "fields").fill (subject.bindings role) = subject.declarationBlock := by
    apply fill_of_mem_values
    simp [values, has, fieldValues]
  have known := Skeleton.slots_ofTemplate has
  simp only [List.forall_mem_append] at known
  obtain ⟨⟨front, middle⟩, back⟩ := known
  have own : subject.ownValues role = subject.bare.ownValues role := rfl
  calc
    subject.contents role =
        (Skeleton.Parts.ofTemplate (Skeleton.ofRole role)).whole.render (subject.bindings role) :=
      congrArg (Template.render (subject.bindings role)) (Skeleton.whole_ofTemplate has).symm
    _ = subject.around role subject.importLines subject.declarationBlock := by
      unfold around
      simp only [Skeleton.Parts.whole, Template.render_append, Template.render_cons,
        Piece.fill_literal, imports, fields, render_eq_of_ownNames own front,
        render_eq_of_ownNames own middle, render_eq_of_ownNames own back, String.append_assoc]

theorem lines_around (subject : Subject) (role : Role) (imports declarations : String) :
    let parts := Skeleton.Parts.ofTemplate (Skeleton.ofRole role)
    let bindings := subject.bare.bindings role
    Text.lines (subject.around role imports declarations) =
      Text.lines (parts.front.render bindings) ++
        (Text.lines (imports ++ parts.middle.render bindings) ++
          (Text.lines declarations ++ Text.lines (parts.back.render bindings))) := by
  intro parts bindings
  have whole : subject.around role imports declarations =
      parts.front.render bindings ++ "\n" ++ ((imports ++ parts.middle.render bindings) ++ "\n" ++
        (declarations ++ "\n" ++ parts.back.render bindings)) := by
    unfold around
    simp only [String.append_assoc, parts, bindings]
  rw [whole, Text.lines_append, Text.lines_append, Text.lines_append]

end Subject

/-- The files are the same unless their class holds fields, and have the same lines in any case. -/
structure SourceFile.SameButOrder (file other : SourceFile) : Prop
    extends SourceFile.SameButFields file other where
  lines : (Text.lines file.contents).Perm (Text.lines other.contents)

theorem Subject.sameButOrder {subject other : Subject} {columns others : List Column}
    (reordered : columns.Perm others) (same : subject.bare = other.bare)
    (fields : subject.fields = columns.map Field.ofColumn)
    (otherFields : other.fields = others.map Field.ofColumn) (role : Role) :
    (subject.file role).SameButOrder (other.file role) where
  toSameButFields := sameButFields (congrArg shown same) role
  lines := by
    by_cases has : role.HasFields
    · have declared : (Text.lines subject.declarationBlock).Perm
          (Text.lines other.declarationBlock) := by
        unfold declarationBlock
        rw [fields, otherFields]
        exact Text.perm_lines_intercalate (Field.perm_declarations (reordered.map Field.ofColumn))
      have imported (rest : String) : (Text.lines (subject.importLines ++ rest)).Perm
          (Text.lines (other.importLines ++ rest)) := by
        unfold importLines
        rw [fields, otherFields]
        exact Field.perm_lines_importLines_append reordered rest
      have around : subject.around role = other.around role := by
        unfold Subject.around
        rw [same]
      have contents : (subject.file role).contents =
          other.around role subject.importLines subject.declarationBlock := by
        rw [← around]
        exact subject.contents_eq_around has
      have otherContents : (other.file role).contents =
          other.around role other.importLines other.declarationBlock := other.contents_eq_around has
      rw [contents, otherContents, lines_around, lines_around]
      exact ((imported _).append (declared.append_right _)).append_left _
    · rw [(sameButFields (congrArg shown same) role).contents has]

/-- When the columns of a table come in another order, each declared column keeps its line, and the
lines follow the columns; the same imports are made, each once.  Both blocks stand in the same text
as before, and files without them are the same. -/
theorem SourceFile.ofTable_of_perm {columns others : List Column}
    (reordered : columns.Perm others) :
    let fields := columns.map Field.ofColumn
    let otherFields := others.map Field.ofColumn
    let line (column : Column) := (Field.ofColumn column).declaration
      (Field.widest (fields.map (·.javaType))) (Field.widest (fields.map (·.name)))
    (Field.declarations fields =
        (columns.filter fun column => (Field.ofColumn column).IsDeclared).map line ∧
      Field.declarations otherFields =
        (others.filter fun column => (Field.ofColumn column).IsDeclared).map line) ∧
    (∀ import_, import_ ∈ Text.lines (Field.importLines fields) ↔
      import_ ∈ Text.lines (Field.importLines otherFields)) ∧
    (∀ import_ ≠ "", (Text.lines (Field.importLines fields)).count import_ ≤ 1 ∧
      (Text.lines (Field.importLines otherFields)).count import_ ≤ 1) ∧
    ∀ (settings : Settings) (moment : Moment) (table : Table),
      List.Forall₂ SameButOrder (ofTable settings moment table fields)
        (ofTable settings moment table otherFields) ∧
      ∀ role : Role, role.HasFields → ∃ front middle back, ∀ listed ∈ [fields, otherFields],
        (Subject.contents ⟨table, listed, settings, moment.text⟩ role) =
          front ++ Field.importLines listed ++ middle ++ Field.declarationBlock listed ++ back := by
  have reorderedFields := reordered.map Field.ofColumn
  refine ⟨⟨?_, ?_⟩, ?_, ?_, ?_⟩
  · rw [Field.declarations_of_perm (.refl _), List.filter_map, List.map_map]
    rfl
  · rw [Field.declarations_of_perm reorderedFields, List.filter_map, List.map_map]
    rfl
  · intro import_
    have lines := Field.perm_lines_importLines_append reordered ""
    rw [String.append_empty, String.append_empty] at lines
    exact lines.mem_iff
  · intro import_ filled
    exact ⟨Field.count_lines_importLines_le columns filled,
      Field.count_lines_importLines_le others filled⟩
  · intro settings moment table
    let subject (fields : List Field) : Subject := ⟨table, fields, settings, moment.text⟩
    constructor
    · apply List.forall₂_map_left_iff.mpr
      apply List.forall₂_map_right_iff.mpr
      apply List.forall₂_same.mpr
      intro role _
      exact @Subject.sameButOrder (subject (columns.map Field.ofColumn))
        (subject (others.map Field.ofColumn)) columns others reordered rfl rfl rfl role
    · intro role has
      let parts := Skeleton.Parts.ofTemplate (Skeleton.ofRole role)
      let bindings := (subject []).bindings role
      refine ⟨parts.front.render bindings ++ "\n", parts.middle.render bindings ++ "\n",
        "\n" ++ parts.back.render bindings, ?_⟩
      intro listed _
      rw [(subject listed).contents_eq_around has]
      simp only [Subject.around, String.append_assoc]
      rfl

theorem SourceFile.ofTable_of_reversed_columns :
    let columns : List Column := [
      { field := "id", sqlType := "bigint" }, { field := "price", sqlType := "decimal(10,2)" },
      { field := "created", sqlType := "datetime" }, { field := "a", sqlType := "double" }]
    let fields := columns.reverse.map Field.ofColumn
    columns.Perm columns.reverse ∧
      Field.declarations fields = [
        "  private BigDecimal    a;       // ",
        "  private LocalDateTime created; // ",
        "  private BigDecimal    price;   // "] ∧
      (Text.lines (Field.importLines fields)).count "import java.math.BigDecimal;" ≤ 1 := by
  intro columns fields
  have reordered : columns.Perm columns.reverse := columns.reverse_perm.symm
  obtain ⟨⟨-, declared⟩, -, once, -⟩ := ofTable_of_perm reordered
  refine ⟨reordered, ?_, (once "import java.math.BigDecimal;" (by decide)).2⟩
  rw [declared]
  decide +kernel

end Scaffold
