import Mathlib.Data.List.Nodup
import Scaffold.Field.Imports
import Scaffold.Proofs.Text.Lines

/-!
What is imported for a list of fields.  A line is left out when its qualifier already occurs in the
text, be it within another one or across a line break.  Where qualifiers cannot be found in this
way, which holds of those that column types need, each is imported once.
-/

namespace Scaffold

namespace Field

/-- What has to be imported, once for each field that needs it. -/
def qualifiers (fields : List Field) : List String :=
  (fields.filterMap (·.qualifier)).filter (· ≠ "")

def importStatement (qualifier : String) : String := "import " ++ qualifier ++ ";"

/-- Statements on a line each, with its line break. -/
def importText (qualifiers : List String) : String :=
  String.join (qualifiers.map fun qualifier => importStatement qualifier ++ "\n")

theorem toList_importText (qualifiers : List String) :
    (importText qualifiers).toList =
      qualifiers.flatMap fun qualifier => importLine qualifier.toList := by
  have ends : ";\n".toList = ";".toList ++ "\n".toList := by decide
  unfold importText importLine importStatement
  rw [String.toList_join, List.flatMap_map, ends]
  simp only [String.toList_append, List.append_assoc]

theorem importText_append (front back : List String) :
    importText (front ++ back) = importText front ++ importText back := by
  simp [importText]

theorem infix_importText {qualifier : String} {listed : List String} (among : qualifier ∈ listed) :
    qualifier.toList <:+: (importText listed).toList := by
  have line : qualifier.toList <:+: importLine qualifier.toList := ⟨_, _, rfl⟩
  rw [toList_importText, List.flatMap_def]
  exact line.trans (List.infix_of_mem_flatten (List.mem_map_of_mem among))

/-- Those qualifiers that get a line of their own, behind the lines of others. -/
def selected (before : List String) : List String → List String
  | [] => []
  | qualifier :: rest =>
    if Text.occurs qualifier.toList (importText before).toList then selected before rest
    else qualifier :: selected (before ++ [qualifier]) rest

theorem foldl_addImport_importText (before qualifiers : List String) :
    (qualifiers.map String.toList).foldl addImport (importText before).toList =
      (importText (before ++ selected before qualifiers)).toList := by
  induction qualifiers generalizing before with
  | nil => rw [selected, List.append_nil, List.map_nil, List.foldl_nil]
  | cons qualifier rest inductionHypothesis =>
    rw [List.map_cons, List.foldl_cons, addImport, selected]
    by_cases occurs : Text.occurs qualifier.toList (importText before).toList
    · rw [if_pos occurs, if_pos occurs]
      exact inductionHypothesis before
    · have line : (importText before).toList ++ importLine qualifier.toList =
          (importText (before ++ [qualifier])).toList := by
        simp [toList_importText]
      rw [if_neg occurs, if_neg occurs, line, inductionHypothesis, List.append_assoc,
        List.singleton_append]

theorem foldl_addImport_filter (lines : List Char) (qualifiers : List String) :
    ((qualifiers.filter (· ≠ "")).map String.toList).foldl addImport lines =
      (qualifiers.map String.toList).foldl addImport lines := by
  induction qualifiers generalizing lines with
  | nil => rfl
  | cons qualifier rest inductionHypothesis =>
    by_cases empty : qualifier = ""
    · subst empty
      simpa [addImport_nil] using inductionHypothesis lines
    · simpa [empty] using inductionHypothesis (addImport lines qualifier.toList)

theorem importLines_eq_importText (fields : List Field) :
    importLines fields = importText (selected [] (qualifiers fields)) := by
  have start : (importText []).toList = [] := by simp [importText]
  have whole := foldl_addImport_importText [] (qualifiers fields)
  rw [qualifiers, foldl_addImport_filter, start, List.nil_append] at whole
  rw [importLines, whole]
  exact String.ofList_toList

theorem selected_sublist (before qualifiers : List String) :
    (selected before qualifiers).Sublist qualifiers := by
  induction qualifiers generalizing before with
  | nil => exact .slnil
  | cons qualifier rest inductionHypothesis =>
    unfold selected
    split
    next => exact (inductionHypothesis before).cons qualifier
    next => exact (inductionHypothesis (before ++ [qualifier])).cons_cons qualifier

theorem nodup_append_selected {before : List String} (nodup : before.Nodup)
    (qualifiers : List String) : (before ++ selected before qualifiers).Nodup := by
  induction qualifiers generalizing before with
  | nil => simpa [selected] using nodup
  | cons qualifier rest inductionHypothesis =>
    unfold selected
    split
    next => exact inductionHypothesis nodup
    next fresh =>
      have other : qualifier ∉ before :=
        fun among => fresh (Text.occurs_iff.mpr (infix_importText among))
      have longer : (before ++ [qualifier]).Nodup :=
        List.Nodup.append nodup (List.nodup_singleton qualifier) (by simpa using other)
      simpa using inductionHypothesis longer

theorem infix_importText_selected (before : List String) {qualifiers : List String}
    {qualifier : String} (among : qualifier ∈ qualifiers) :
    qualifier.toList <:+: (importText (before ++ selected before qualifiers)).toList := by
  induction qualifiers generalizing before with
  | nil => simp at among
  | cons first rest inductionHypothesis =>
    unfold selected
    rcases List.mem_cons.mp among with rfl | later
    · split
      next occurs =>
        rw [importText_append, String.toList_append]
        exact (Text.occurs_iff.mp occurs).trans (List.prefix_append _ _).isInfix
      next => exact infix_importText (by simp)
    · split
      next => exact inductionHypothesis before later
      next => simpa using inductionHypothesis (before ++ [first]) later

/-- No qualifier can be found in the lines of others. -/
structure Separate (qualifiers : List String) : Prop where
  single : ∀ qualifier ∈ qualifiers,
    ' ' ∉ qualifier.toList ∧ ';' ∉ qualifier.toList ∧ '\n' ∉ qualifier.toList
  apart : ∀ qualifier ∈ qualifiers, ∀ other ∈ qualifiers,
    qualifier.toList <:+: other.toList → qualifier = other
  unlike : ∀ qualifier ∈ qualifiers, ¬ qualifier.toList <:+: "import".toList

theorem Separate.subset {qualifiers others : List String} (separate : Separate others)
    (part : qualifiers ⊆ others) : Separate qualifiers where
  single qualifier among := separate.single qualifier (part among)
  apart qualifier among other amongToo :=
    separate.apart qualifier (part among) other (part amongToo)
  unlike qualifier among := separate.unlike qualifier (part among)

theorem Separate.infix_importText_iff {qualifiers : List String} {qualifier : String}
    (separate : Separate (qualifier :: qualifiers)) :
    qualifier.toList <:+: (importText qualifiers).toList ↔ qualifier ∈ qualifiers := by
  refine ⟨?_, infix_importText⟩
  obtain ⟨noSpace, noSemicolon, noBreak⟩ := separate.single qualifier List.mem_cons_self
  have noKeyword := separate.unlike qualifier List.mem_cons_self
  induction qualifiers with
  | nil =>
    intro occurs
    have nothing : (importText []).toList = [] := by simp [importText]
    rw [nothing] at occurs
    exact absurd (occurs.trans List.nil_infix) noKeyword
  | cons other rest inductionHypothesis =>
    intro occurs
    have text : (importText (other :: rest)).toList =
        "import".toList ++ ' ' ::
          (other.toList ++ ';' :: ([] ++ '\n' :: (importText rest).toList)) := by
      have keyword : "import ".toList = "import".toList ++ [' '] := by decide
      have ends : ";\n".toList = [';', '\n'] := by decide
      rw [toList_importText, List.flatMap_cons, ← toList_importText]
      unfold importLine
      rw [keyword, ends]
      simp only [List.append_assoc, List.cons_append, List.nil_append]
    rw [text, Text.infix_append_cons_iff noSpace, Text.infix_append_cons_iff noSemicolon,
      Text.infix_append_cons_iff noBreak] at occurs
    rcases occurs with keyword | inside | between | later
    · exact absurd keyword noKeyword
    · have same := separate.apart qualifier List.mem_cons_self other (by simp) inside
      exact same ▸ List.mem_cons_self
    · exact absurd (between.trans List.nil_infix) noKeyword
    · have fewer : Separate (qualifier :: rest) :=
        separate.subset (List.cons_subset_cons qualifier (List.subset_cons_self other rest))
      exact List.mem_cons_of_mem other (inductionHypothesis fewer later)

theorem Separate.selected_eq {before qualifiers : List String}
    (separate : Separate (before ++ qualifiers)) :
    selected before qualifiers = (qualifiers.removeAll before).eraseDups := by
  induction qualifiers generalizing before with
  | nil => simp [selected, List.removeAll]
  | cons qualifier rest inductionHypothesis =>
    have own : Separate (qualifier :: before) := separate.subset (by simp)
    have occurs_iff := Text.occurs_iff.trans own.infix_importText_iff
    unfold selected
    by_cases among : qualifier ∈ before
    · have fewer : Separate (before ++ rest) := separate.subset (by simp)
      rw [if_pos (occurs_iff.mpr among), inductionHypothesis fewer]
      simp [List.removeAll, among]
    · have moved : Separate ((before ++ [qualifier]) ++ rest) := by simpa using separate
      rw [if_neg (mt occurs_iff.mp among), inductionHypothesis moved]
      have kept : (qualifier :: rest).removeAll before = qualifier :: rest.removeAll before := by
        simp [List.removeAll, among]
      have further : rest.removeAll (before ++ [qualifier]) =
          (rest.removeAll before).filter fun other => !other == qualifier := by
        unfold List.removeAll
        rw [List.filter_filter]
        apply List.filter_congr
        intro other _
        by_cases same : other = qualifier
        · simp [same]
        · simp [same]
      rw [kept, further, List.eraseDups_cons]

end Field

theorem JavaType.ofSqlType_mem (sqlType : String) :
    ofSqlType sqlType ∈ string :: rules.map Rule.type := by
  unfold ofSqlType
  split
  next rule found =>
    exact List.mem_cons_of_mem _ (List.mem_map_of_mem (List.mem_of_getElem? found))
  next => exact List.mem_cons_self

/-- Two types have to be imported. -/
theorem JavaType.qualifier_ofSqlType_eq_some_iff {sqlType qualifier : String} :
    (ofSqlType sqlType).qualifier = some qualifier ↔
      (qualifier = "java.math.BigDecimal" ∧ (ofSqlType sqlType).name = "BigDecimal") ∨
      (qualifier = "java.time.LocalDateTime" ∧ (ofSqlType sqlType).name = "LocalDateTime") := by
  have known : ∀ type ∈ string :: rules.map Rule.type, type.qualifier =
      if type.name = "BigDecimal" then some "java.math.BigDecimal"
      else if type.name = "LocalDateTime" then some "java.time.LocalDateTime" else none := by
    decide
  rw [known _ (ofSqlType_mem sqlType)]
  split
  next decimal => simp [decimal, eq_comm]
  next other =>
    split
    next time => simp [time, eq_comm]
    next neither => simp [other, neither]

def Column.AnyMapsTo (columns : List Column) (type : String) : Prop :=
  ∃ column ∈ columns, (JavaType.ofSqlType column.sqlType).name = type

namespace Field

theorem mem_qualifiers_ofColumn_iff {columns : List Column} {qualifier : String} :
    qualifier ∈ qualifiers (columns.map ofColumn) ↔
      (qualifier = "java.math.BigDecimal" ∧ Column.AnyMapsTo columns "BigDecimal") ∨
      (qualifier = "java.time.LocalDateTime" ∧ Column.AnyMapsTo columns "LocalDateTime") := by
  have needed : qualifier ∈ qualifiers (columns.map ofColumn) ↔
      (∃ column ∈ columns, (JavaType.ofSqlType column.sqlType).qualifier = some qualifier) ∧
        qualifier ≠ "" := by
    simp [qualifiers, ofColumn]
  simp only [needed, JavaType.qualifier_ofSqlType_eq_some_iff, Column.AnyMapsTo]
  constructor
  · rintro ⟨⟨column, among, ⟨rfl, decimal⟩ | ⟨rfl, time⟩⟩, _⟩
    · exact .inl ⟨rfl, column, among, decimal⟩
    · exact .inr ⟨rfl, column, among, time⟩
  · rintro (⟨rfl, column, among, decimal⟩ | ⟨rfl, column, among, time⟩)
    · exact ⟨⟨column, among, .inl ⟨rfl, decimal⟩⟩, by decide⟩
    · exact ⟨⟨column, among, .inr ⟨rfl, time⟩⟩, by decide⟩

theorem separate_qualifiers_ofColumn (columns : List Column) :
    Separate (qualifiers (columns.map ofColumn)) := by
  have both : Separate ["java.math.BigDecimal", "java.time.LocalDateTime"] := by
    constructor
    · decide
    · simp only [← Text.occurs_iff]
      decide
    · simp only [← Text.occurs_iff]
      decide
  apply both.subset
  intro qualifier among
  rcases mem_qualifiers_ofColumn_iff.mp among with ⟨rfl, _⟩ | ⟨rfl, _⟩
  · exact List.mem_cons_self
  · exact List.mem_cons_of_mem _ List.mem_cons_self

theorem importLines_eq_importBlock (fields : List Field) :
    importLines fields =
      if importBlock fields = "" then "" else importBlock fields ++ "\n" := by
  unfold importBlock
  rw [importLines_eq_importText]
  rcases List.eq_nil_or_concat (selected [] (qualifiers fields)) with none | ⟨front, last, some⟩
  · simp [none, importText]
  · have text : (importText (front ++ [last])).toList =
        (importText front ++ importStatement last).toList ++ ['\n'] := by
      simp [importText]
    have filled : importText front ++ importStatement last ≠ "" := by
      simp [importStatement]
    rw [some, List.concat_eq_append, text, List.dropLast_concat, String.ofList_toList,
      if_neg filled, ← String.toList_inj, text]
    simp

theorem lines_importText {listed : List String}
    (single : ∀ qualifier ∈ listed, '\n' ∉ qualifier.toList) :
    Text.lines (importText listed) = listed.map importStatement ++ [""] := by
  have whole : importText listed = "\n".intercalate (listed.map importStatement ++ [""]) := by
    clear single
    induction listed with
    | nil => simp [importText]
    | cons qualifier rest inductionHypothesis =>
      have more : rest.map importStatement ++ [""] ≠ [] := by simp
      rw [List.map_cons, List.cons_append, String.intercalate_cons_of_ne_nil more,
        ← inductionHypothesis]
      simp [importText]
  rw [whole]
  apply Text.lines_intercalate (by simp)
  intro line among
  rcases List.mem_append.mp among with own | last
  · obtain ⟨qualifier, present, rfl⟩ := List.mem_map.mp own
    have noBreak := single qualifier present
    simpa [importStatement] using noBreak
  · simp [List.mem_singleton.mp last]

theorem importStatement_injective : Function.Injective importStatement := by
  intro first second same
  unfold importStatement at same
  rwa [String.append_left_inj, String.append_right_inj] at same

theorem mem_map_importStatement_iff {columns : List Column} {line : String} :
    line ∈ (qualifiers (columns.map ofColumn)).map importStatement ↔
      (line = "import java.math.BigDecimal;" ∧ Column.AnyMapsTo columns "BigDecimal") ∨
      (line = "import java.time.LocalDateTime;" ∧ Column.AnyMapsTo columns "LocalDateTime") := by
  have decimal : importStatement "java.math.BigDecimal" = "import java.math.BigDecimal;" := by
    decide
  have time : importStatement "java.time.LocalDateTime" = "import java.time.LocalDateTime;" := by
    decide
  rw [List.mem_map]
  simp only [mem_qualifiers_ofColumn_iff, ← decimal, ← time]
  constructor
  · rintro ⟨qualifier, ⟨rfl, needed⟩ | ⟨rfl, needed⟩, rfl⟩
    · exact .inl ⟨rfl, needed⟩
    · exact .inr ⟨rfl, needed⟩
  · rintro (⟨rfl, needed⟩ | ⟨rfl, needed⟩)
    · exact ⟨_, .inl ⟨rfl, needed⟩, rfl⟩
    · exact ⟨_, .inr ⟨rfl, needed⟩, rfl⟩

theorem Separate.selected_nil_eq {listed : List String} (separate : Separate listed) :
    selected [] listed = listed.eraseDups := by
  have whole : listed.removeAll [] = listed := by simp [List.removeAll]
  rw [@Separate.selected_eq [] listed separate, whole]

theorem lines_importLines_ofColumn (columns : List Column) :
    Text.lines (importLines (columns.map ofColumn)) =
      (qualifiers (columns.map ofColumn)).eraseDups.map importStatement ++ [""] := by
  have separate := separate_qualifiers_ofColumn columns
  rw [importLines_eq_importText, separate.selected_nil_eq]
  apply lines_importText
  intro qualifier among
  exact (separate.single qualifier (List.mem_eraseDups.mp among)).2.2

/-- Each line imports a qualifier that a field needs, and none twice; a qualifier without a line of
its own occurs in those of others.  Where no qualifier can be found in the lines of others, each is
imported once, in the order in which they are first needed.  For columns these are at most two. -/
theorem importLines_lists_qualifiers :
    (∀ fields : List Field,
      (∃ listed, importLines fields = importText listed ∧ listed.Nodup ∧
        listed.Sublist (qualifiers fields) ∧
        (Separate (qualifiers fields) → listed = (qualifiers fields).eraseDups)) ∧
      (∀ qualifier ∈ qualifiers fields, qualifier.toList <:+: (importLines fields).toList) ∧
      importLines fields =
        if importBlock fields = "" then "" else importBlock fields ++ "\n") ∧
    ∀ columns : List Column,
      Separate (qualifiers (columns.map ofColumn)) ∧
      ∀ line ≠ "", (Text.lines (importLines (columns.map ofColumn))).count line ≤ 1 ∧
        (line ∈ Text.lines (importLines (columns.map ofColumn)) ↔
          (line = "import java.math.BigDecimal;" ∧ Column.AnyMapsTo columns "BigDecimal") ∨
          (line = "import java.time.LocalDateTime;" ∧
            Column.AnyMapsTo columns "LocalDateTime")) := by
  refine ⟨fun fields => ⟨⟨selected [] (qualifiers fields), ?_, ?_, ?_, Separate.selected_nil_eq⟩,
    ?_, ?_⟩, ?_⟩
  · exact importLines_eq_importText fields
  · exact nodup_append_selected List.nodup_nil (qualifiers fields)
  · exact selected_sublist [] (qualifiers fields)
  · intro qualifier among
    rw [importLines_eq_importText]
    exact infix_importText_selected [] among
  · exact importLines_eq_importBlock fields
  · intro columns
    have separate := separate_qualifiers_ofColumn columns
    refine ⟨separate, fun line filled => ?_⟩
    have other : line ∉ [""] := by simpa using filled
    have nodup := nodup_append_selected List.nodup_nil (qualifiers (columns.map ofColumn))
    rw [List.nil_append, separate.selected_nil_eq] at nodup
    rw [lines_importLines_ofColumn, List.count_append, List.count_eq_zero_of_not_mem other,
      List.mem_append, or_iff_left other, ← mem_map_importStatement_iff, List.mem_map, List.mem_map]
    refine ⟨List.nodup_iff_count_le_one.mp (nodup.map importStatement_injective) line, ?_⟩
    simp only [List.mem_eraseDups]

end Field
end Scaffold
