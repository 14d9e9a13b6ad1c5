import Mathlib.Algebra.GroupWithZero.Nat
import Scaffold.Field.Declarations
import Scaffold.Proofs.Text.Lines

/-!
Reading declarations back.  A block has one line break fewer than declarations, and those of its
texts.  The spaces that align a line are none of its texts: where the texts can be told apart in it,
a block gives back the types, names and comments from which it was made, however wide it is.
-/

namespace Scaffold

namespace Text

theorem count_intercalate (parts : List String) :
    ("\n".intercalate parts).toList.count '\n' =
      (parts.length - 1) + (parts.map fun part => part.toList.count '\n').sum := by
  induction parts with
  | nil => simp
  | cons first rest inductionHypothesis =>
    cases rest with
    | nil => simp
    | cons second rest =>
      rw [String.intercalate_cons_cons, String.toList_append, String.toList_append,
        List.count_append, List.count_append, inductionHypothesis]
      simp
      omega

/-- A part without the character that ends it is cut off in front of it. -/
theorem span_append {part : List Char} {c : Char} (clean : c ∉ part) (rest : List Char) :
    (part ++ c :: rest).takeWhile (· ≠ c) = part ∧
      (part ++ c :: rest).dropWhile (· ≠ c) = c :: rest := by
  have before : ∀ d ∈ part, decide (d ≠ c) = true := by
    intro d among
    apply decide_eq_true
    rintro rfl
    exact clean among
  constructor
  · rw [List.takeWhile_append_of_pos before]
    simp
  · rw [List.dropWhile_append_of_pos before]
    simp

theorem dropWhile_replicate_append {c : Char} (count : Nat) {rest : List Char}
    (other : rest.head? ≠ some c) : (List.replicate count c ++ rest).dropWhile (· = c) = rest := by
  have same : ∀ d ∈ List.replicate count c, decide (d = c) = true := by
    intro d among
    exact decide_eq_true (List.eq_of_mem_replicate among)
  rw [List.dropWhile_append_of_pos same]
  cases rest with
  | nil => rfl
  | cons d rest =>
    have differ : d ≠ c := by simpa using other
    simp [differ]

end Text

namespace Field

/-- The type, the name and the comment that a line declares. -/
def readLine (line : List Char) : String × String × String :=
  let typed := line.drop 10
  let named := (typed.dropWhile (· ≠ ' ')).dropWhile (· = ' ')
  let noted := ((named.dropWhile (· ≠ ';')).drop 1).dropWhile (· = ' ')
  (.ofList (typed.takeWhile (· ≠ ' ')), .ofList (named.takeWhile (· ≠ ';')), .ofList (noted.drop 3))

def readBlock (block : String) : List (String × String × String) :=
  if block = "" then [] else (Text.lines block).map fun line => readLine line.toList

def written (field : Field) : String × String × String :=
  (field.javaType, field.name, field.comment)

/-- The texts of the field can be told apart in its declaration. -/
structure IsReadable (field : Field) : Prop where
  javaType : ' ' ∉ field.javaType.toList ∧ '\n' ∉ field.javaType.toList
  name : field.name.toList.head? ≠ some ' ' ∧ ';' ∉ field.name.toList ∧ '\n' ∉ field.name.toList
  comment : '\n' ∉ field.comment.toList

theorem readLine_declaration {field : Field} (readable : field.IsReadable)
    (typeWidth nameWidth : Nat) :
    readLine (field.declaration typeWidth nameWidth).toList = field.written := by
  obtain ⟨noSpace, _⟩ := readable.javaType
  obtain ⟨begins, noSemicolon, _⟩ := readable.name
  let noted := "// ".toList ++ field.comment.toList
  let named := field.name.toList ++ ';' ::
    (List.replicate (nameWidth - field.name.utf8ByteSize + 1) ' ' ++ noted)
  let typed := field.javaType.toList ++ ' ' ::
    (List.replicate (typeWidth - field.javaType.length) ' ' ++ named)
  have line : (field.declaration typeWidth nameWidth).toList = "  private ".toList ++ typed := by
    have blank (count : Nat) (rest : List Char) :
        List.replicate count ' ' ++ ' ' :: rest = ' ' :: (List.replicate count ' ' ++ rest) := by
      rw [← List.singleton_append, ← List.append_assoc, ← List.replicate_succ', List.replicate_succ,
        List.cons_append]
    unfold declaration
    simp [spaces, typed, named, noted, blank]
  have keyword : "  private ".toList.length = 10 := by decide
  have marker : "// ".toList.length = 3 := by decide
  have notedBegins : noted.head? ≠ some ' ' := by simp [noted]
  have namedBegins : named.head? ≠ some ' ' := by
    -- Behind an empty name stands the semicolon.
    cases spelled : field.name.toList with
    | nil => simp [named, spelled]
    | cons c rest => simpa [named, spelled] using begins
  have dropType : (typed.dropWhile (· ≠ ' ')).dropWhile (· = ' ') = named := by
    rw [(Text.span_append noSpace _).2, List.dropWhile_cons_of_pos (by simp)]
    exact Text.dropWhile_replicate_append _ namedBegins
  have dropName : ((named.dropWhile (· ≠ ';')).drop 1).dropWhile (· = ' ') = noted := by
    rw [(Text.span_append noSemicolon _).2]
    exact Text.dropWhile_replicate_append _ notedBegins
  unfold readLine written
  rw [line, List.drop_left' keyword]
  dsimp only
  rw [dropType, dropName, (Text.span_append noSpace _).1, (Text.span_append noSemicolon _).1,
    List.drop_left' marker]
  simp only [String.ofList_toList]

def lineBreaks (field : Field) : Nat :=
  field.javaType.toList.count '\n' + field.name.toList.count '\n' + field.comment.toList.count '\n'

theorem lineBreaks_eq_zero_iff {field : Field} :
    field.lineBreaks = 0 ↔ '\n' ∉ field.javaType.toList ∧ '\n' ∉ field.name.toList ∧
      '\n' ∉ field.comment.toList := by
  simp only [lineBreaks, Nat.add_eq_zero_iff, List.count_eq_zero, and_assoc]

theorem count_declaration (field : Field) (typeWidth nameWidth : Nat) :
    (field.declaration typeWidth nameWidth).toList.count '\n' = field.lineBreaks := by
  have padding (count : Nat) : (spaces count).toList.count '\n' = 0 := by
    simp [spaces, List.count_replicate]
  have keyword : "  private ".toList.count '\n' = 0 := by decide
  have blank : " ".toList.count '\n' = 0 := by decide
  have semicolon : ";".toList.count '\n' = 0 := by decide
  have marker : "// ".toList.count '\n' = 0 := by decide
  unfold declaration lineBreaks
  simp only [String.toList_append, List.count_append, padding, keyword, blank, semicolon, marker]
  omega

theorem count_declarationBlock (fields : List Field) :
    (declarationBlock fields).toList.count '\n' =
      ((fields.filter (·.IsDeclared)).length - 1) +
        ((fields.filter (·.IsDeclared)).map lineBreaks).sum := by
  have each (typeWidth nameWidth : Nat) :
      (fun line : String => line.toList.count '\n') ∘ declaration typeWidth nameWidth =
        lineBreaks := by
    funext field
    rw [Function.comp_apply, count_declaration]
  rw [declarationBlock, Text.count_intercalate, declarations, List.length_map, List.map_map, each]

theorem IsReadable.notMem_declaration {field : Field} (readable : field.IsReadable)
    (typeWidth nameWidth : Nat) : '\n' ∉ (field.declaration typeWidth nameWidth).toList := by
  rw [← List.count_eq_zero, count_declaration]
  exact lineBreaks_eq_zero_iff.mpr ⟨readable.javaType.2, readable.name.2.2, readable.comment⟩

theorem declaration_ne_empty (field : Field) (typeWidth nameWidth : Nat) :
    field.declaration typeWidth nameWidth ≠ "" := by
  unfold declaration
  simp

theorem lines_declarationBlock {fields : List Field} (some : fields.filter (·.IsDeclared) ≠ [])
    (readable : ∀ field ∈ fields.filter (·.IsDeclared), field.IsReadable) :
    Text.lines (declarationBlock fields) = declarations fields := by
  apply Text.lines_intercalate
  · intro none
    exact some (List.map_eq_nil_iff.mp none)
  · intro line among
    obtain ⟨field, listed, rfl⟩ := List.mem_map.mp among
    exact (readable field listed).notMem_declaration _ _

theorem readBlock_declarationBlock {fields : List Field}
    (readable : ∀ field ∈ fields.filter (·.IsDeclared), field.IsReadable) :
    readBlock (declarationBlock fields) = (fields.filter (·.IsDeclared)).map written := by
  unfold readBlock
  by_cases none : fields.filter (·.IsDeclared) = []
  · simp [declarationBlock, declarations, none]
  · have lines := lines_declarationBlock none readable
    have filled : declarationBlock fields ≠ "" := by
      intro empty
      rw [empty] at lines
      have blank : "" ∈ declarations fields := by
        rw [← lines]
        decide
      obtain ⟨field, _, same⟩ := List.mem_map.mp blank
      exact declaration_ne_empty _ _ _ same
    rw [if_neg filled, lines, declarations, List.map_map]
    apply List.map_congr_left
    intro field listed
    rw [Function.comp_apply, readLine_declaration (readable field listed)]

/-- Padding and empty texts do not matter. -/
example : readBlock "  private Long   id;     // the // key\n  private  ;// " =
    [("Long", "id", "the // key"), ("", "", "")] := by decide

/-- A block has a line for each declared field where none of its texts has a line break, and what it
declares can be told from it where the texts can be told apart. -/
theorem declarationBlock_reads_back (fields : List Field) :
    let declared := fields.filter (·.IsDeclared)
    (declarationBlock fields).toList.count '\n' =
      (declared.length - 1) + (declared.map lineBreaks).sum ∧
    (declared = [] → declarationBlock fields = "") ∧
    (declared ≠ [] → ((Text.lines (declarationBlock fields)).length = declared.length ↔
      ∀ field ∈ declared, '\n' ∉ field.javaType.toList ∧ '\n' ∉ field.name.toList ∧
        '\n' ∉ field.comment.toList)) ∧
    ∀ others, (∀ field ∈ declared, field.IsReadable) →
      (∀ field ∈ others.filter (·.IsDeclared), field.IsReadable) →
      declarationBlock fields = declarationBlock others →
      declared.map written = (others.filter (·.IsDeclared)).map written := by
  intro declared
  have counted : (declarationBlock fields).toList.count '\n' =
      (declared.length - 1) + (declared.map lineBreaks).sum := count_declarationBlock fields
  refine ⟨counted, ?_, ?_, ?_⟩
  · intro (none : fields.filter (·.IsDeclared) = [])
    simp [declarationBlock, declarations, none]
  · intro some
    have positive := List.length_pos_iff.mpr some
    have single : (declared.map lineBreaks).sum = 0 ↔ ∀ field ∈ declared, field.lineBreaks = 0 := by
      simp [List.sum_eq_zero_iff_forall_eq_nat]
    simp only [← lineBreaks_eq_zero_iff]
    rw [Text.length_lines, counted, ← single]
    omega
  · intro others readable readableToo same
    rw [← readBlock_declarationBlock readable, same, readBlock_declarationBlock readableToo]

end Field
end Scaffold
