import Mathlib.Data.List.Forall2
import Mathlib.Data.String.Basic
import Scaffold.Field.Declarations

/-!
The columns of field declarations.  Widths are numbers of bytes while columns count characters, so
that names stand below each other, and the markers of comments do so for names that have the same
number of bytes beyond their characters.
-/

namespace Scaffold

namespace Text

/-- The bytes of a text beyond its characters. -/
def excess (text : String) : Nat := text.utf8ByteSize - text.length

theorem length_add_excess (text : String) :
    text.length + excess text = text.utf8ByteSize := by
  have bytes : text.toList.length ≤ String.utf8Len text.toList := by
    induction text.toList with
    | nil => simp
    | cons c rest inductionHypothesis =>
      have positive := c.utf8Size_pos
      rw [List.length_cons, String.utf8Len_cons]
      omega
  rw [← String.utf8ByteSize_ofList, String.ofList_toList, String.length_toList] at bytes
  unfold excess
  omega

theorem excess_eq_zero {text : String} (ascii : ∀ c ∈ text.toList, c.toNat < 128) :
    excess text = 0 := by
  have bytes : String.utf8Len text.toList = text.toList.length := by
    generalize text.toList = chars at ascii ⊢
    induction chars with
    | nil => simp
    | cons c rest inductionHypothesis =>
      obtain ⟨own, later⟩ := List.forall_mem_cons.mp ascii
      have one : c.utf8Size = 1 := Char.utf8Size_eq_one_iff.mpr (Nat.le_of_lt_succ own)
      rw [String.utf8Len_cons, List.length_cons, inductionHypothesis later, one]
  rw [← String.utf8ByteSize_ofList, String.ofList_toList, String.length_toList] at bytes
  unfold excess
  omega

def StandsAt (part line : String) (column : Nat) : Prop :=
  part.toList <+: line.toList.drop column

theorem standsAt_append {front part back : String} {column : Nat} (starts : front.length = column) :
    StandsAt part (front ++ part ++ back) column := by
  refine ⟨back.toList, ?_⟩
  have before : front.toList.length = column := String.length_toList.trans starts
  rw [String.append_assoc, String.toList_append, List.drop_left' before, String.toList_append]

end Text

namespace Field

open Text

theorem widest_eq_max? (texts : List String) :
    widest texts = (texts.map String.utf8ByteSize).max?.getD 0 := by
  unfold widest
  induction texts with
  | nil => rfl
  | cons text rest inductionHypothesis =>
    rw [List.map_cons, List.foldr_cons, inductionHypothesis, List.max?_cons]
    cases (rest.map String.utf8ByteSize).max? with
    | none => simp
    | some most => rfl

/-- From this column on, the line holds the marker and the field's comment, and nothing else. -/
def MarkerAt (field : Field) (line : String) (column : Nat) : Prop :=
  line.toList.drop column = "// ".toList ++ field.comment.toList

theorem markerAt_append {field : Field} {front : String} {column : Nat}
    (starts : front.length = column) :
    MarkerAt field (front ++ "// " ++ field.comment) column := by
  have before : front.toList.length = column := String.length_toList.trans starts
  rw [MarkerAt, String.append_assoc, String.toList_append, List.drop_left' before,
    String.toList_append]

/-- There is one such column at most. -/
theorem MarkerAt.column_eq {field : Field} {line : String} {column other : Nat}
    (found : MarkerAt field line column) (foundToo : MarkerAt field line other) :
    column = other := by
  have first := congrArg List.length found
  have second := congrArg List.length foundToo
  have marker : "// ".toList.length = 3 := by decide
  rw [List.length_drop, List.length_append] at first second
  omega

structure Aligned (typeWidth nameWidth : Nat) (field : Field) (line : String) : Prop where
  /-- There is room for the name, so that some is left for the gap behind it. -/
  fits : field.name.utf8ByteSize ≤ nameWidth
  type : StandsAt ("  private " ++ field.javaType) line 0
  name : StandsAt (field.name ++ ";") line (11 + typeWidth)
  marker : ∃ column, column + excess field.name = 13 + typeWidth + nameWidth ∧
    MarkerAt field line column

theorem length_spaces (count : Nat) : (spaces count).length = count := by
  rw [← String.length_toList, spaces, String.toList_ofList, List.length_replicate]

theorem aligned_declaration {typeWidth nameWidth : Nat} {field : Field}
    (typeFits : field.javaType.utf8ByteSize ≤ typeWidth)
    (nameFits : field.name.utf8ByteSize ≤ nameWidth) :
    Aligned typeWidth nameWidth field (field.declaration typeWidth nameWidth) := by
  have typeSize := length_add_excess field.javaType
  have nameSize := length_add_excess field.name
  have keyword : "  private ".length = 10 := by decide
  have blank : " ".length = 1 := by decide
  have semicolon : ";".length = 1 := by decide
  let padding := spaces (typeWidth - field.javaType.length)
  let gap := spaces (nameWidth - field.name.utf8ByteSize + 1)
  let front := "  private " ++ field.javaType ++ padding ++ " "
  have frontLength : front.length = 11 + typeWidth := by
    simp only [front, padding, String.length_append, length_spaces, keyword, blank]
    omega
  have gapLength : (front ++ field.name ++ ";" ++ gap).length + excess field.name =
      13 + typeWidth + nameWidth := by
    simp only [gap, String.length_append, length_spaces, frontLength, semicolon]
    omega
  have line : field.declaration typeWidth nameWidth =
      front ++ field.name ++ ";" ++ gap ++ "// " ++ field.comment := rfl
  refine ⟨nameFits, ?_, ?_, ?_⟩
  · have opening := @standsAt_append "" ("  private " ++ field.javaType)
      (padding ++ " " ++ field.name ++ ";" ++ gap ++ "// " ++ field.comment) 0 rfl
    simpa only [line, front, String.append_assoc, String.empty_append] using opening
  · have named := @standsAt_append front (field.name ++ ";") (gap ++ "// " ++ field.comment) _
      frontLength
    simpa only [line, String.append_assoc] using named
  · exact ⟨_, gapLength, markerAt_append rfl⟩

theorem Aligned.column_eq_iff {typeWidth nameWidth column otherColumn : Nat} {field other : Field}
    {line otherLine : String} (aligned : Aligned typeWidth nameWidth field line)
    (alignedToo : Aligned typeWidth nameWidth other otherLine)
    (found : MarkerAt field line column) (foundToo : MarkerAt other otherLine otherColumn) :
    column = otherColumn ↔ excess field.name = excess other.name := by
  obtain ⟨own, ownPlace, ownMarker⟩ := aligned.marker
  obtain ⟨its, itsPlace, itsMarker⟩ := alignedToo.marker
  rw [found.column_eq ownMarker, foundToo.column_eq itsMarker]
  omega

theorem Aligned.markerAt_of_ascii {typeWidth nameWidth : Nat} {field : Field} {line : String}
    (aligned : Aligned typeWidth nameWidth field line)
    (ascii : ∀ c ∈ field.name.toList, c.toNat < 128) :
    MarkerAt field line (13 + typeWidth + nameWidth) := by
  obtain ⟨column, place, marker⟩ := aligned.marker
  rw [excess_eq_zero ascii, Nat.add_zero] at place
  exact place ▸ marker

theorem aligned_declarations (fields : List Field) :
    List.Forall₂
      (Aligned (widest (fields.map (·.javaType))) (widest (fields.map (·.name))))
      (fields.filter (·.IsDeclared)) (declarations fields) := by
  apply List.forall₂_map_right_iff.mpr
  apply List.forall₂_same.mpr
  intro field among
  have present := List.mem_of_mem_filter among
  apply aligned_declaration
  · exact utf8ByteSize_le_widest (List.mem_map_of_mem present)
  · exact utf8ByteSize_le_widest (List.mem_map_of_mem present)

/-- Every declared field has its line, in the order of the fields, with the name in one and the same
column and the marker of the comment as far left of a common column as the name has bytes beyond its
characters.  The widths are the largest of all fields, declared or not. -/
theorem declarationBlock_aligned (fields : List Field) :
    let declared := fields.filter (·.IsDeclared)
    let typeWidth := (fields.map (·.javaType.utf8ByteSize)).max?.getD 0
    let nameWidth := (fields.map (·.name.utf8ByteSize)).max?.getD 0
    ∃ lines, declarationBlock fields = "\n".intercalate lines ∧
      List.Forall₂ (Aligned typeWidth nameWidth) declared lines ∧
      (∀ first ∈ declared.zip lines, ∀ second ∈ declared.zip lines, ∀ column other,
        MarkerAt first.1 first.2 column → MarkerAt second.1 second.2 other →
        (column = other ↔ excess first.1.name = excess second.1.name)) ∧
      ((∀ field ∈ declared, ∀ c ∈ field.name.toList, c.toNat < 128) →
        ∀ entry ∈ declared.zip lines,
          MarkerAt entry.1 entry.2 (13 + typeWidth + nameWidth)) := by
  intro declared typeWidth nameWidth
  have types : typeWidth = widest (fields.map (·.javaType)) := by
    rw [widest_eq_max?, List.map_map]
    rfl
  have names : nameWidth = widest (fields.map (·.name)) := by
    rw [widest_eq_max?, List.map_map]
    rfl
  have aligned : List.Forall₂ (Aligned typeWidth nameWidth) declared (declarations fields) := by
    rw [types, names]
    exact aligned_declarations fields
  have entries : ∀ entry ∈ declared.zip (declarations fields),
      Aligned typeWidth nameWidth entry.1 entry.2 := by
    intro entry among
    exact (List.forall₂_iff_zip.mp aligned).2 among
  refine ⟨declarations fields, rfl, aligned, ?_, ?_⟩
  · intro first among second amongToo column other found foundToo
    exact (entries _ among).column_eq_iff (entries _ amongToo) found foundToo
  · intro ascii entry among
    exact (entries _ among).markerAt_of_ascii (ascii entry.1 (List.of_mem_zip among).1)

end Field
end Scaffold
