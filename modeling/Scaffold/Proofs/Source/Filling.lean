import Scaffold.Proofs.Role.Alphabet
import Scaffold.Proofs.Source.Values
import Scaffold.Proofs.Template.Scan
import Scaffold.Proofs.Text.Lines

/-!
What the slots of a file are filled with.  Every slot of a skeleton has its value, which goes in as
it is, so that all dollar signs of a file are those of the values.  The values in turn have theirs
from the table, the settings and the fields.
-/

namespace Scaffold

namespace Skeleton

theorem isScannable_of_mem_ofRole {role : Role} {piece : Piece} (among : piece ∈ ofRole role) :
    piece.IsScannable := by
  revert piece
  cases role <;> decide +kernel

theorem mem_names_of_mem_slots {role : Role} {name : String}
    (among : name ∈ (ofRole role).slots) : name ∈ Subject.names role := by
  revert name
  cases role <;> decide

end Skeleton

def NoDollar (text : String) : Prop := '$' ∉ text.toList

instance (text : String) : Decidable (NoDollar text) :=
  inferInstanceAs (Decidable (_ ∉ _))

theorem noDollar_append {front back : String} :
    NoDollar (front ++ back) ↔ NoDollar front ∧ NoDollar back := by
  simp [NoDollar]

theorem NoDollar.append {front back : String} (clean : NoDollar front) (other : NoDollar back) :
    NoDollar (front ++ back) :=
  noDollar_append.mpr ⟨clean, other⟩

theorem NoDollar.intercalate {separator : String} (clean : NoDollar separator)
    {parts : List String} (each : ∀ part ∈ parts, NoDollar part) :
    NoDollar (separator.intercalate parts) :=
  Text.notMem_intercalate clean each

namespace Identifier

theorem noDollar_memberStem {table : String} (clean : NoDollar table) :
    NoDollar (memberStem table) := by
  intro among
  obtain ⟨source, found, _, raised⟩ := mem_memberStem among
  exact clean (raised.eq_of_isAlpha_eq_false (by decide) ▸ found)

theorem noDollar_classStem {table : String} (clean : NoDollar table) :
    NoDollar (classStem table) := by
  intro among
  obtain ⟨source, found, raised⟩ := mem_classStem among
  exact noDollar_memberStem clean (raised.eq_of_isAlpha_eq_false (by decide) ▸ found)

end Identifier

namespace Role

theorem noDollar_suffix (role : Role) : NoDollar role.suffix := by
  cases role <;> decide

theorem noDollar_className (role : Role) {table : String} (clean : NoDollar table) :
    NoDollar (role.className table) :=
  (Identifier.noDollar_classStem clean).append role.noDollar_suffix

theorem noDollar_memberName (role : Role) {table : String} (clean : NoDollar table) :
    NoDollar (role.memberName table) :=
  (Identifier.noDollar_memberStem clean).append role.noDollar_suffix

theorem noDollar_layers (role : Role) : ∀ layer ∈ role.layers, NoDollar layer := by
  cases role <;> decide

end Role

theorem Layout.noDollar_package {basePackage domain : String} (role : Role)
    (base : NoDollar basePackage) (own : NoDollar domain) :
    NoDollar (package basePackage domain role) := by
  apply NoDollar.intercalate (by decide)
  intro segment among
  rcases List.mem_append.mp among with first | below
  · split at first
    next => contradiction
    next => exact List.mem_singleton.mp first ▸ base
  · rcases List.mem_cons.mp below with rfl | layer
    · exact own
    · exact role.noDollar_layers segment layer

namespace Field

/-- No dollar sign stands in what the field is declared with. -/
structure IsClean (field : Field) : Prop where
  javaType : NoDollar field.javaType
  name : NoDollar field.name
  comment : NoDollar field.comment
  qualifier : ∀ qualifier, field.qualifier = some qualifier → NoDollar qualifier

theorem noDollar_spaces (count : Nat) : NoDollar (spaces count) := by
  intro among
  rw [spaces, String.toList_ofList] at among
  exact absurd (List.eq_of_mem_replicate among) (by decide)

theorem IsClean.noDollar_declaration {field : Field} (clean : field.IsClean)
    (typeWidth nameWidth : Nat) : NoDollar (field.declaration typeWidth nameWidth) := by
  have begins : NoDollar "  private " := by decide
  have space : NoDollar " " := by decide
  have ends : NoDollar ";" := by decide
  have slashes : NoDollar "// " := by decide
  unfold declaration
  simp only [noDollar_append, begins, space, ends, slashes, noDollar_spaces, clean.javaType,
    clean.name, clean.comment, and_self]

theorem noDollar_declarationBlock {fields : List Field} (clean : ∀ field ∈ fields, field.IsClean) :
    NoDollar (declarationBlock fields) := by
  apply NoDollar.intercalate (by decide)
  intro line among
  obtain ⟨field, declared, rfl⟩ := List.mem_map.mp among
  apply IsClean.noDollar_declaration
  exact clean field (List.mem_of_mem_filter declared)

theorem dollar_notMem_addImport {lines qualifier : List Char} (before : '$' ∉ lines)
    (clean : '$' ∉ qualifier) : '$' ∉ addImport lines qualifier := by
  unfold addImport
  split
  next => exact before
  next =>
    have begins : '$' ∉ "import ".toList := by decide
    have ends : '$' ∉ ";\n".toList := by decide
    unfold importLine
    simp only [List.mem_append, not_or]
    exact ⟨before, ⟨begins, clean⟩, ends⟩

theorem dollar_notMem_foldl_addImport {lines : List Char} {qualifiers : List (List Char)}
    (before : '$' ∉ lines) (clean : ∀ qualifier ∈ qualifiers, '$' ∉ qualifier) :
    '$' ∉ qualifiers.foldl addImport lines := by
  induction qualifiers generalizing lines with
  | nil => exact before
  | cons qualifier rest inductionHypothesis =>
    rw [List.forall_mem_cons] at clean
    exact inductionHypothesis (dollar_notMem_addImport before clean.1) clean.2

theorem noDollar_importLines {fields : List Field} (clean : ∀ field ∈ fields, field.IsClean) :
    NoDollar (importLines fields) := by
  rw [NoDollar, importLines, String.toList_ofList]
  apply dollar_notMem_foldl_addImport (by simp)
  intro chars among
  obtain ⟨qualifier, listed, rfl⟩ := List.mem_map.mp among
  obtain ⟨field, present, imported⟩ := List.mem_filterMap.mp listed
  exact (clean field present).qualifier qualifier imported

end Field

namespace Subject

/-- No dollar sign comes in with the subject, as far as the role's file speaks of it. -/
structure IsClean (subject : Subject) (role : Role) : Prop where
  tableName : NoDollar subject.table.name
  comment : NoDollar subject.table.comment
  author : NoDollar subject.settings.author
  generatedAt : NoDollar subject.generatedAt
  basePackage : NoDollar subject.settings.basePackage
  domain : NoDollar subject.settings.domain
  fields : role.HasFields → ∀ field ∈ subject.fields, field.IsClean

variable {subject : Subject} {role : Role}

theorem IsClean.noDollar_package (clean : subject.IsClean role) (other : Role) :
    NoDollar (subject.package other) :=
  Layout.noDollar_package other clean.basePackage clean.domain

theorem IsClean.noDollar_className (clean : subject.IsClean role) (other : Role) :
    NoDollar (subject.className other) :=
  other.noDollar_className clean.tableName

theorem IsClean.noDollar_javadoc (clean : subject.IsClean role) :
    NoDollar (subject.javadoc role) := by
  have opens : NoDollar "/**\n * " := by decide
  have dash : NoDollar " - " := by decide
  have table : NoDollar "\n *\n * <p>table_name: " := by decide
  have author : NoDollar "</p>\n *\n * @author " := by decide
  have date : NoDollar "\n * @date " := by decide
  have closes : NoDollar "\n */" := by decide
  unfold javadoc Javadoc.header
  simp only [noDollar_append, opens, dash, table, author, date, closes, clean.noDollar_className,
    clean.comment, clean.tableName, clean.author, clean.generatedAt, and_self]

theorem IsClean.noDollar_qualifiedName (clean : subject.IsClean role) (other : Role) :
    NoDollar (subject.qualifiedName other) := by
  have dot : NoDollar "." := by decide
  exact ((clean.noDollar_package other).append dot).append (clean.noDollar_className other)

theorem IsClean.noDollar_of_mem_ownValues (clean : subject.IsClean role) {name value : String}
    (own : (name, value) ∈ subject.ownValues role) : NoDollar value := by
  simp only [ownValues, List.mem_cons, Prod.mk.injEq, List.not_mem_nil, or_false] at own
  rcases own with ⟨-, rfl⟩ | ⟨-, rfl⟩ | ⟨-, rfl⟩ | ⟨-, rfl⟩ | ⟨-, rfl⟩
  · exact clean.noDollar_package role
  · exact clean.basePackage
  · exact clean.noDollar_className role
  · exact clean.tableName
  · exact clean.noDollar_javadoc

theorem IsClean.noDollar_of_mem_companionValues (clean : subject.IsClean role) {companion : Role}
    {name value : String} (listed : (name, value) ∈ subject.companionValues companion) :
    NoDollar value := by
  simp only [companionValues, List.mem_cons, Prod.mk.injEq, List.not_mem_nil, or_false] at listed
  rcases listed with ⟨-, rfl⟩ | ⟨-, rfl⟩ | ⟨-, rfl⟩
  · exact clean.noDollar_qualifiedName companion
  · exact clean.noDollar_className companion
  · exact companion.noDollar_memberName clean.tableName

theorem IsClean.noDollar_of_mem_values (clean : subject.IsClean role) {name value : String}
    (among : (name, value) ∈ subject.values role) : NoDollar value := by
  rcases List.mem_append.mp among with front | field
  · rcases List.mem_append.mp front with own | companion
    · exact clean.noDollar_of_mem_ownValues own
    · obtain ⟨companion, _, listed⟩ := List.mem_flatMap.mp companion
      exact clean.noDollar_of_mem_companionValues listed
  · split at field
    next has =>
      simp only [fieldValues, List.mem_cons, Prod.mk.injEq, List.not_mem_nil, or_false] at field
      rcases field with ⟨-, rfl⟩ | ⟨-, rfl⟩
      · exact Field.noDollar_importLines (clean.fields has)
      · exact Field.noDollar_declarationBlock (clean.fields has)
    next => contradiction

/-- The value of a slot, which every slot of the role's skeleton has. -/
def valueOf (subject : Subject) (role : Role) (name : String) : String :=
  ((subject.bindings role).get? name).getD ""

theorem valueOf_mem_values {name : String} (among : name ∈ (Skeleton.ofRole role).slots) :
    (name, subject.valueOf role name) ∈ subject.values role ∧
      (subject.bindings role).get? name = some (subject.valueOf role name) := by
  have known := Skeleton.mem_names_of_mem_slots among
  rw [← map_fst_values subject] at known
  obtain ⟨⟨_, value⟩, given, rfl⟩ := List.mem_map.mp known
  have found := get?_of_mem_values given
  have same : subject.valueOf role _ = value := Option.getD_eq_iff.mpr (.inl found)
  rw [same]
  exact ⟨given, found⟩

/-- A file is its skeleton with each slot replaced by its value, whatever stands in the value; the
dollar signs of the file are those of the values. -/
theorem contents_fills_skeleton (subject : Subject) (role : Role) :
    let skeleton := Skeleton.ofRole role
    let scanned := Template.ofText skeleton.text
    let contents := subject.contents role
    let valueOf := subject.valueOf role
    scanned.slots = skeleton.slots ∧
    (∀ name ∈ skeleton.slots, (name, valueOf name) ∈ subject.values role ∧
      (subject.bindings role).get? name = some (valueOf name)) ∧
    scanned.render (subject.bindings role) = contents ∧
    contents = skeleton.substitute valueOf ∧
    contents.toList.count '$' =
      (skeleton.slots.map fun name => (valueOf name).toList.count '$').sum ∧
    (subject.IsClean role → NoDollar contents) := by
  intro skeleton scanned contents valueOf
  have scannable : ∀ piece ∈ skeleton, piece.IsScannable :=
    fun _ among => Skeleton.isScannable_of_mem_ofRole among
  have filled : contents = skeleton.substitute valueOf := by
    apply Template.render_eq_substitute
    intro name among
    exact (valueOf_mem_values among).2
  have counted : contents.toList.count '$' =
      (skeleton.slots.map fun name => (valueOf name).toList.count '$').sum := by
    rw [filled]
    exact Template.count_substitute scannable valueOf
  refine ⟨Template.slots_ofText_text scannable, fun name => valueOf_mem_values,
    Template.render_ofText_text scannable _, filled, counted, ?_⟩
  intro clean
  apply List.count_eq_zero.mp
  rw [counted, List.sum_eq_zero_iff_forall_eq_nat]
  intro number among
  obtain ⟨name, slot, rfl⟩ := List.mem_map.mp among
  apply List.count_eq_zero.mpr
  exact clean.noDollar_of_mem_values (valueOf_mem_values slot).1

end Subject
end Scaffold
