import Scaffold.Field.Declarations
import Scaffold.Proofs.Identifier.Segments

/-!
Which columns a class inherits.  The test is made on names in camel case.  A word of small letters
is the camel case of nothing but itself with underscores behind it: any other underscore goes,
too, but leaves a capital, or something that is no letter.
-/

namespace Scaffold

namespace Identifier

def trimmed (name : String) : String :=
  .ofList (name.toList.rdropWhile (· = '_'))

theorem trimmed_eq_iff {name word : String} (clean : '_' ∉ word.toList) :
    trimmed name = word ↔ ∃ count, name.toList = word.toList ++ List.replicate count '_' := by
  rw [← String.toList_inj, trimmed, String.toList_ofList]
  constructor
  · intro same
    have tail : ∀ c ∈ name.toList.rtakeWhile (· = '_'), c = '_' := by
      intro c among
      simpa using List.mem_rtakeWhile_imp among
    refine ⟨(name.toList.rtakeWhile (· = '_')).length, ?_⟩
    rw [← List.eq_replicate_of_mem tail, ← same, List.rdropWhile_append_rtakeWhile]
  · rintro ⟨count, spelled⟩
    rw [spelled]
    clear spelled
    induction count with
    | zero =>
      rw [List.replicate_zero, List.append_nil, List.rdropWhile_eq_self_iff]
      intro filled last
      have underscore : word.toList.getLast filled = '_' := by simpa using last
      exact clean (underscore ▸ List.getLast_mem filled)
    | succ count inductionHypothesis =>
      rw [List.replicate_succ', ← List.append_assoc, List.rdropWhile_concat_pos _ _ _ (by simp)]
      exact inductionHypothesis

/-- What follows an underscore is no small letter. -/
theorem eq_nil_of_capitalChars {chars : List Char}
    (small : ∀ c ∈ capitalChars chars, c.isLower = true) : chars = [] := by
  cases chars with
  | nil => rfl
  | cons c rest =>
    have first := small c.toUpper List.mem_cons_self
    rw [Char.isLower_toUpper_eq_false] at first
    contradiction

theorem camelChars_append_replicate (raised : Bool) (chars : List Char) (count : Nat) :
    camelChars raised (chars ++ List.replicate count '_') = camelChars raised chars := by
  have nothing : ∀ raised, camelChars raised (List.replicate count '_') = [] := by
    induction count with
    | zero => exact fun _ => rfl
    | succ count inductionHypothesis => exact fun _ => inductionHypothesis true
  induction chars generalizing raised with
  | nil => exact nothing raised
  | cons c rest inductionHypothesis => simp only [List.cons_append, camelChars, inductionHypothesis]

theorem exists_replicate_of_camelChars {chars : List Char}
    (small : ∀ c ∈ camelChars false chars, c.isLower = true) :
    ∃ count, chars = camelChars false chars ++ List.replicate count '_' := by
  induction chars with
  | nil => exact ⟨0, rfl⟩
  | cons c rest inductionHypothesis =>
    by_cases underscore : c = '_'
    · have raised : camelChars false (c :: rest) = capitalChars (camelChars false rest) := by
        rw [camelChars, if_pos underscore, camelChars_true]
      have last := eq_nil_of_capitalChars (raised ▸ small)
      obtain ⟨count, tail⟩ := inductionHypothesis (by simp [last])
      rw [last, List.nil_append] at tail
      refine ⟨count + 1, ?_⟩
      rw [raised, last, underscore, tail, List.replicate_succ]
      rfl
    · have kept : camelChars false (c :: rest) = c :: camelChars false rest := by
        rw [camelChars, if_neg underscore]
        rfl
      rw [kept, List.forall_mem_cons] at small
      obtain ⟨count, tail⟩ := inductionHypothesis small.2
      exact ⟨count, by rw [kept, List.cons_append, ← tail]⟩

theorem camelCase_eq_iff {name word : String} (small : ∀ c ∈ word.toList, c.isLower = true) :
    camelCase name = word ↔ ∃ count, name.toList = word.toList ++ List.replicate count '_' := by
  rw [← String.toList_inj, toList_camelCase]
  constructor
  · intro same
    rw [← same] at small ⊢
    exact exists_replicate_of_camelChars small
  · rintro ⟨count, spelled⟩
    have clean : '_' ∉ word.toList := fun among => absurd (small '_' among) (by decide)
    rw [spelled, camelChars_append_replicate, camelChars_eq_self clean]

theorem camelCase_eq_iff_trimmed {name word : String}
    (small : ∀ c ∈ word.toList, c.isLower = true) :
    camelCase name = word ↔ trimmed name = word := by
  have clean : '_' ∉ word.toList := fun among => absurd (small '_' among) (by decide)
  rw [camelCase_eq_iff small, trimmed_eq_iff clean]

end Identifier

namespace Field

open Identifier

theorem isLower_of_mem_inherited {word : String} (listed : word ∈ inherited) {c : Char}
    (among : c ∈ word.toList) : c.isLower = true := by
  have every : inherited.all (·.toList.all Char.isLower) = true := by decide
  simp only [List.all_eq_true] at every
  exact every word listed c among

/-- A column is inherited when its name is, up to underscores at the end. -/
theorem isDeclared_ofColumn_iff {column : Column} :
    (ofColumn column).IsDeclared ↔ trimmed column.field ∉ inherited := by
  have each : ∀ word ∈ inherited, camelCase column.field = word ↔ trimmed column.field = word :=
    fun word listed => camelCase_eq_iff_trimmed fun _ => isLower_of_mem_inherited listed
  apply not_congr
  constructor
  · intro among
    rwa [(each _ among).mp rfl]
  · intro among
    rwa [← (each _ among).mpr rfl] at among

theorem trimmed_mem_inherited_iff {name : String} :
    trimmed name ∈ inherited ↔
      ∃ word ∈ inherited, ∃ count, name.toList = word.toList ++ List.replicate count '_' := by
  have clean : ∀ word ∈ inherited, '_' ∉ word.toList :=
    fun word listed among => absurd (isLower_of_mem_inherited listed among) (by decide)
  constructor
  · intro among
    exact ⟨_, among, (trimmed_eq_iff (clean _ among)).mp rfl⟩
  · rintro ⟨word, listed, spelled⟩
    rwa [(trimmed_eq_iff (clean word listed)).mpr spelled]

theorem filter_isDeclared_ofColumn (columns : List Column) :
    (columns.map ofColumn).filter (·.IsDeclared) =
      (columns.filter fun column => trimmed column.field ∉ inherited).map ofColumn := by
  have same : ∀ column ∈ columns,
      decide (ofColumn column).IsDeclared = decide (trimmed column.field ∉ inherited) :=
    fun column _ => decide_eq_decide.mpr isDeclared_ofColumn_iff
  rw [List.filter_map, ← List.filter_congr same]
  rfl

/-- A word of small letters is the camel case of itself with underscores behind it, and of no other
name.  So the columns without a declaration are those named `id`, `ctime` or `mtime`, up to such
underscores, and the block is made of the lines of the others, in the order of the columns. -/
theorem declarations_omit_inherited :
    (∀ word name : String, (∀ c ∈ word.toList, c.isLower = true) →
      (camelCase name = word ↔ ∃ count, name.toList = word.toList ++ List.replicate count '_')) ∧
    (∀ column : Column,
      (¬ (ofColumn column).IsDeclared ↔ trimmed column.field ∈ ["id", "ctime", "mtime"]) ∧
      (¬ (ofColumn column).IsDeclared ↔ ∃ word ∈ ["id", "ctime", "mtime"], ∃ count,
        column.field.toList = word.toList ++ List.replicate count '_')) ∧
    ∀ columns : List Column,
      let fields := columns.map ofColumn
      let others := columns.filter fun column => trimmed column.field ∉ ["id", "ctime", "mtime"]
      let lines := others.map fun column => (ofColumn column).declaration
        (widest (fields.map (·.javaType))) (widest (fields.map (·.name)))
      fields.filter (·.IsDeclared) = others.map ofColumn ∧
      declarations fields = lines ∧ declarationBlock fields = "\n".intercalate lines := by
  refine ⟨fun word name small => camelCase_eq_iff small, fun column => ?_, ?_⟩
  · have omitted : ¬ (ofColumn column).IsDeclared ↔ trimmed column.field ∈ inherited :=
      not_iff_comm.mp isDeclared_ofColumn_iff.symm
    exact ⟨omitted, omitted.trans trimmed_mem_inherited_iff⟩
  · intro columns fields others lines
    have declared : fields.filter (·.IsDeclared) = others.map ofColumn :=
      filter_isDeclared_ofColumn columns
    have listed : declarations fields = lines := by
      rw [declarations, declared, List.map_map]
      rfl
    exact ⟨declared, listed, congrArg "\n".intercalate listed⟩

theorem declarations_omit_ctime_at_end :
    let named (field : String) : Column := { field, sqlType := "int" }
    let columns := ["id_", "c_time", "_id", "ctime", "ID", "mtime__"].map named
    (∀ c ∈ "ctime".toList, c.isLower = true) ∧ camelCase "ctime__" = "ctime" ∧
      (columns.map ofColumn).filter (·.IsDeclared) =
        (["c_time", "_id", "ID"].map named).map ofColumn := by
  intro named columns
  have small : ∀ c ∈ "ctime".toList, c.isLower = true := by simp
  have others : (columns.filter fun column => trimmed column.field ∉ ["id", "ctime", "mtime"]) =
      ["c_time", "_id", "ID"].map named := by decide
  refine ⟨small, (declarations_omit_inherited.1 "ctime" "ctime__" small).mpr ⟨2, rfl⟩, ?_⟩
  rw [← others]
  exact (declarations_omit_inherited.2.2 columns).1

end Field

end Scaffold
