import Mathlib.Data.List.Forall2
import Scaffold.Proofs.Moment.Text
import Scaffold.Proofs.Source.Values

/-!
What a table's files depend on.  A subject is reduced to what its files show, and none of them
changes; those of roles without fields do not change either when the fields are gone.  Runs that
agree on what is shown have the same reduced subject, whatever else is different.
-/

namespace Scaffold

namespace Field

/-- The field with all that its declaration and its import show. -/
def shown (field : Field) : Field :=
  { field with isPrimaryKey := false }

theorem importLines_map_shown (fields : List Field) :
    importLines (fields.map shown) = importLines fields := by
  have qualifiers : (fields.map shown).filterMap (·.qualifier) = fields.filterMap (·.qualifier) :=
    List.filterMap_map
  unfold importLines
  rw [qualifiers]

theorem declarations_map_shown (fields : List Field) :
    declarations (fields.map shown) = declarations fields := by
  have kept : (fields.map shown).filter (·.IsDeclared)
      = (fields.filter (·.IsDeclared)).map shown := List.filter_map
  unfold declarations
  rw [kept, List.map_map, List.map_map, List.map_map]
  rfl

/-- The fields look the same, so that only one of them may be the primary key. -/
structure LooksLike (field other : Field) : Prop where
  javaType : field.javaType = other.javaType
  name : field.name = other.name
  comment : field.comment = other.comment
  qualifier : field.qualifier = other.qualifier

theorem LooksLike.shown_eq {field other : Field} (alike : field.LooksLike other) :
    field.shown = other.shown := by
  cases field
  cases other
  obtain ⟨rfl, rfl, rfl, rfl⟩ := alike
  rfl

theorem map_shown_eq {fields others : List Field}
    (alike : List.Forall₂ LooksLike fields others) : fields.map shown = others.map shown := by
  induction alike with
  | nil => rfl
  | cons first rest inductionHypothesis =>
    rw [List.map_cons, List.map_cons, first.shown_eq, inductionHypothesis]

end Field

/-- The columns have the same name and comment, and types that map to the same one. -/
structure Column.LooksLike (column other : Column) : Prop where
  field : column.field = other.field
  comment : column.comment = other.comment
  type : JavaType.ofSqlType column.sqlType = JavaType.ofSqlType other.sqlType

theorem Column.LooksLike.ofColumn {column other : Column} (alike : column.LooksLike other) :
    (Field.ofColumn column).LooksLike (Field.ofColumn other) where
  javaType := congrArg JavaType.name alike.type
  name := congrArg Identifier.camelCase alike.field
  comment := alike.comment
  qualifier := congrArg JavaType.qualifier alike.type

namespace Subject

variable (subject : Subject) (role : Role)

def shown : Subject where
  table := { name := subject.table.name, comment := subject.table.comment }
  fields := subject.fields.map Field.shown
  settings := {
    domain := subject.settings.domain
    basePackage := subject.settings.basePackage
    author := subject.settings.author }
  generatedAt := subject.generatedAt

theorem fieldValues_shown : subject.shown.fieldValues = subject.fieldValues := by
  have declared : subject.shown.declarationBlock = subject.declarationBlock :=
    congrArg "\n".intercalate (Field.declarations_map_shown subject.fields)
  have imported : subject.shown.importLines = subject.importLines :=
    Field.importLines_map_shown subject.fields
  rw [fieldValues, declared, imported]
  rfl

theorem contents_shown : subject.shown.contents role = subject.contents role := by
  unfold contents bindings values
  rw [fieldValues_shown]
  rfl

theorem file_shown : subject.shown.file role = subject.file role := by
  simp only [file, contents_shown]
  rfl

def bare : Subject := { subject with fields := [] }

variable {role} in
theorem contents_bare (without : ¬ role.HasFields) :
    subject.bare.contents role = subject.contents role := by
  unfold contents bindings values
  rw [if_neg without, if_neg without]
  rfl

theorem files_shown : subject.shown.files = subject.files :=
  List.map_congr_left fun role _ => subject.file_shown role

end Subject

/-- The files have the same name and place, and the same text unless their class holds fields. -/
structure SourceFile.SameButFields (file other : SourceFile) : Prop where
  role : file.role = other.role
  className : file.className = other.className
  path : file.path = other.path
  contents : ¬ file.role.HasFields → file.contents = other.contents

theorem Subject.sameButFields {subject other : Subject}
    (same : subject.bare.shown = other.bare.shown) (role : Role) :
    (subject.file role).SameButFields (other.file role) where
  role := rfl
  className := congrArg (fun reduced => reduced.className role) same
  path := congrArg (fun reduced => (reduced.file role).path) same
  contents := by
    intro (without : ¬ role.HasFields)
    have bareContents : subject.bare.contents role = other.bare.contents role := by
      rw [← contents_shown, same, contents_shown]
    rwa [subject.contents_bare without, other.contents_bare without] at bareContents

namespace SourceFile

/-- Nothing but what is agreed on here has an influence on the files of a table. -/
theorem ofTable_of_agree {settings otherSettings : Settings} {moment otherMoment : Moment}
    {table otherTable : Table} (name : table.name = otherTable.name)
    (comment : table.comment = otherTable.comment)
    (basePackage : settings.basePackage = otherSettings.basePackage)
    (domain : settings.domain = otherSettings.domain)
    (author : settings.author = otherSettings.author) (time : moment.SameSecond otherMoment) :
    (∀ fields others, List.Forall₂ SameButFields (ofTable settings moment table fields)
      (ofTable otherSettings otherMoment otherTable others)) ∧
    (∀ fields others, List.Forall₂ Field.LooksLike fields others →
      ofTable settings moment table fields
        = ofTable otherSettings otherMoment otherTable others) ∧
    ∀ columns others, List.Forall₂ Column.LooksLike columns others →
      ofTable settings moment table (columns.map Field.ofColumn)
        = ofTable otherSettings otherMoment otherTable (others.map Field.ofColumn) := by
  have reduced : ∀ fields others, fields.map Field.shown = others.map Field.shown →
      Subject.shown ⟨table, fields, settings, moment.text⟩
        = Subject.shown ⟨otherTable, others, otherSettings, otherMoment.text⟩ := by
    intro fields others same
    simp only [Subject.shown, name, comment, basePackage, domain, author, time.text, same]
  have alike : ∀ fields others, List.Forall₂ Field.LooksLike fields others →
      ofTable settings moment table fields
        = ofTable otherSettings otherMoment otherTable others := by
    intro fields others alike
    have same := reduced fields others (Field.map_shown_eq alike)
    unfold ofTable
    rw [← Subject.files_shown, same, Subject.files_shown]
  refine ⟨?_, alike, ?_⟩
  · intro fields others
    apply List.forall₂_map_left_iff.mpr
    apply List.forall₂_map_right_iff.mpr
    apply List.forall₂_same.mpr
    intro role _
    exact @Subject.sameButFields ⟨table, fields, settings, moment.text⟩
      ⟨otherTable, others, otherSettings, otherMoment.text⟩ (reduced [] [] rfl) role
  · intro columns others columnsAlike
    apply alike
    apply List.forall₂_map_left_iff.mpr
    apply List.forall₂_map_right_iff.mpr
    exact columnsAlike.imp fun _ _ => Column.LooksLike.ofColumn

theorem ofTable_of_decimal_and_double :
    let keyed : Column := {
      field := "price", sqlType := "decimal(10,2)", nullable := "NO", key := "PRI"
      defaultValue := some "0", extra := "auto_increment" }
    let plain : Column := { field := "price", sqlType := "DOUBLE unsigned" }
    ofTable { table := "orders", outputRoot := "out", dryRun := true }
        ⟨2016, 12, 31, 23, 59, 59, 1000000000⟩
        { name := "tb_order", comment := "Orders", collation := "utf8mb4_bin", rows := some 7 }
        [Field.ofColumn keyed]
      = ofTable {} ⟨2016, 12, 31, 23, 59, 59, 1999999999⟩
        { name := "tb_order", comment := "Orders" } [Field.ofColumn plain] := by
  intro keyed plain
  have alike : keyed.LooksLike plain := ⟨rfl, rfl, by decide +kernel⟩
  refine (ofTable_of_agree ?_ ?_ ?_ ?_ ?_ ?_).2.2 [keyed] [plain] (.cons alike .nil)
  · rfl
  · rfl
  · rfl
  · rfl
  · rfl
  · exact ⟨rfl, rfl, rfl, rfl, rfl, by decide⟩

end SourceFile
end Scaffold
