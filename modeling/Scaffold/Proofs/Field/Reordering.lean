import Mathlib.Data.List.Perm.Basic
import Scaffold.Field.Declarations
import Scaffold.Proofs.Field.Imports

/-!
Fields in another order.  The widths of a block are maxima, so that each field keeps its line.
Which lines import something is up to the order only where one qualifier can be found in another,
and those of column types cannot.
-/

namespace Scaffold

namespace Text

theorem lines_append (front back : String) :
    lines (front ++ "\n" ++ back) = lines front ++ lines back :=
  split_append '\n' front back

theorem lines_intercalate_eq_flatMap {parts : List String} (filled : parts ≠ []) :
    lines ("\n".intercalate parts) = parts.flatMap lines := by
  induction parts with
  | nil => contradiction
  | cons first rest inductionHypothesis =>
    cases rest with
    | nil => simp
    | cons second rest =>
      rw [String.intercalate_cons_cons, lines_append, inductionHypothesis (by simp),
        ← List.flatMap_cons]

theorem perm_lines_intercalate {parts others : List String} (reordered : parts.Perm others) :
    (lines ("\n".intercalate parts)).Perm (lines ("\n".intercalate others)) := by
  by_cases none : parts = []
  · rw [none, List.nil_perm] at reordered
    rw [none, reordered]
  · have some : others ≠ [] := fun empty => none (List.perm_nil.mp (empty ▸ reordered))
    rw [lines_intercalate_eq_flatMap none, lines_intercalate_eq_flatMap some]
    exact reordered.flatMap_right lines

end Text

namespace Field

theorem widest_eq_of_perm {texts others : List String} (reordered : texts.Perm others) :
    widest texts = widest others :=
  (reordered.map String.utf8ByteSize).foldr_eq 0

def lineAmong (fields : List Field) (field : Field) : String :=
  field.declaration (widest (fields.map (·.javaType))) (widest (fields.map (·.name)))

theorem lineAmong_eq_of_perm {fields others : List Field} (reordered : fields.Perm others) :
    lineAmong fields = lineAmong others := by
  funext field
  unfold lineAmong
  rw [widest_eq_of_perm (reordered.map _), widest_eq_of_perm (reordered.map _)]

theorem declarations_of_perm {fields others : List Field} (reordered : fields.Perm others) :
    declarations others = (others.filter (·.IsDeclared)).map (lineAmong fields) := by
  rw [lineAmong_eq_of_perm reordered]
  rfl

theorem perm_declarations {fields others : List Field} (reordered : fields.Perm others) :
    (declarations fields).Perm (declarations others) := by
  rw [declarations_of_perm reordered]
  exact (reordered.filter _).map _

theorem perm_qualifiers {fields others : List Field} (reordered : fields.Perm others) :
    (qualifiers fields).Perm (qualifiers others) :=
  (reordered.filterMap _).filter _

theorem Separate.perm_selected {listed others : List String} (separate : Separate listed)
    (reordered : listed.Perm others) : (selected [] listed).Perm (selected [] others) := by
  have separateToo : Separate others := separate.subset reordered.symm.subset
  apply (List.perm_ext_iff_of_nodup (nodup_append_selected List.nodup_nil listed)
    (nodup_append_selected List.nodup_nil others)).mpr
  intro qualifier
  rw [List.nil_append, List.nil_append, separate.selected_nil_eq, separateToo.selected_nil_eq,
    List.mem_eraseDups, List.mem_eraseDups, reordered.mem_iff]

theorem lines_importText_append (listed : List String) (rest : String) :
    Text.lines (importText listed ++ rest) =
      listed.flatMap (fun qualifier => Text.lines (importStatement qualifier)) ++
        Text.lines rest := by
  induction listed with
  | nil => simp [importText]
  | cons qualifier listed inductionHypothesis =>
    have whole : importText (qualifier :: listed) ++ rest =
        importStatement qualifier ++ "\n" ++ (importText listed ++ rest) := by
      simp [importText, String.append_assoc]
    rw [whole, Text.lines_append, inductionHypothesis, List.flatMap_cons, List.append_assoc]

theorem perm_lines_importLines_append {columns others : List Column}
    (reordered : columns.Perm others) (rest : String) :
    (Text.lines (importLines (columns.map ofColumn) ++ rest)).Perm
      (Text.lines (importLines (others.map ofColumn) ++ rest)) := by
  have separate := separate_qualifiers_ofColumn columns
  have listed := separate.perm_selected (perm_qualifiers (reordered.map ofColumn))
  rw [importLines_eq_importText, importLines_eq_importText, lines_importText_append,
    lines_importText_append]
  exact (listed.flatMap_right _).append_right _

theorem count_lines_importLines_le (columns : List Column) {line : String} (filled : line ≠ "") :
    (Text.lines (importLines (columns.map ofColumn))).count line ≤ 1 := by
  have separate := separate_qualifiers_ofColumn columns
  have nodup := nodup_append_selected List.nodup_nil (qualifiers (columns.map ofColumn))
  rw [List.nil_append, separate.selected_nil_eq] at nodup
  have other : line ∉ [""] := by simpa using filled
  rw [lines_importLines_ofColumn, List.count_append, List.count_eq_zero_of_not_mem other]
  exact List.nodup_iff_count_le_one.mp (nodup.map importStatement_injective) line

end Field
end Scaffold
