import Scaffold.Field
import Scaffold.Proofs.Identifier.Segments

/-!
Names in snake case and the way back from camel case.  Each word of such a name begins with a small
letter, so in camel case every word but the first one begins with a capital, and no other character
is one: an underscore before each capital separates the words again.
-/

namespace Scaffold

namespace Identifier

def IsWord : List Char → Prop
  | [] => False
  | c :: rest => c.isLower = true ∧ ∀ d ∈ rest, d.isLower = true ∨ d.isDigit = true

/-- Words, with one underscore between each and the next. -/
def IsSnake (name : String) : Prop :=
  ∃ words ≠ [], (∀ word ∈ words, IsWord word.toList) ∧ "_".intercalate words = name

def snakeCase (name : String) : String :=
  .ofList (name.toList.flatMap fun c => if c.isUpper then ['_', c.toLower] else [c])

theorem snakeCase_append (front back : String) :
    snakeCase (front ++ back) = snakeCase front ++ snakeCase back := by
  simp [snakeCase]

theorem snakeCase_join (parts : List String) :
    snakeCase (String.join parts) = String.join (parts.map snakeCase) := by
  induction parts with
  | nil => rfl
  | cons first rest inductionHypothesis =>
    rw [String.join_cons, snakeCase_append, inductionHypothesis, List.map_cons, String.join_cons]

theorem snakeCase_eq_self {name : String} (small : ∀ c ∈ name.toList, c.isUpper = false) :
    snakeCase name = name := by
  have each : (name.toList.flatMap fun c => if c.isUpper then ['_', c.toLower] else [c]) =
      name.toList.flatMap fun c => [c] := by
    apply List.flatMap_congr
    intro c among
    simp [small c among]
  rw [snakeCase, each, List.flatMap_singleton', String.ofList_toList]

theorem IsWord.isLower_or_isDigit {word : List Char} (fits : IsWord word) {c : Char}
    (among : c ∈ word) : c.isLower = true ∨ c.isDigit = true := by
  cases word with
  | nil => contradiction
  | cons first rest =>
    rcases List.mem_cons.mp among with rfl | later
    · exact .inl fits.1
    · exact fits.2 c later

theorem IsWord.isUpper_eq_false {word : List Char} (fits : IsWord word) {c : Char}
    (among : c ∈ word) : c.isUpper = false := by
  rw [← Bool.not_eq_true]
  intro capital
  rcases fits.isLower_or_isDigit among with small | digit
  · exact Char.not_isLower_of_isUpper capital small
  · have noLetter := Text.isAlpha_eq_false_of_isDigit digit
    simp [Char.isAlpha, capital] at noLetter

theorem IsWord.underscore_notMem {word : List Char} (fits : IsWord word) : '_' ∉ word := by
  intro among
  exact absurd (fits.isLower_or_isDigit among) (by decide)

theorem snakeCase_capitalize {word : String} (fits : IsWord word.toList) :
    snakeCase (capitalize word) = "_" ++ word := by
  obtain ⟨chars, rfl⟩ : ∃ chars, word = String.ofList chars := ⟨_, String.ofList_toList.symm⟩
  rw [String.toList_ofList] at fits
  cases chars with
  | nil => exact fits.elim
  | cons c rest =>
    have capital : c.toUpper.isUpper = true := by
      rw [Char.isUpper_toUpper_eq_isAlpha, Char.isAlpha, fits.1, Bool.or_true]
    have small : c.toUpper.toLower = c := by
      have other : ¬ c.isUpper = true := Char.not_isUpper_of_isLower fits.1
      rw [Char.toLower_toUpper_eq_toLower, Char.toLower_eq_of_not_isUpper other]
    have kept : snakeCase (.ofList rest) = .ofList rest := by
      apply snakeCase_eq_self
      intro d among
      rw [String.toList_ofList] at among
      exact fits.isUpper_eq_false (List.mem_cons_of_mem c among)
    rw [← String.toList_inj] at kept
    rw [← String.toList_inj]
    simpa [snakeCase, capitalChars, capital, small] using kept

theorem isSnake_iff {name : String} :
    IsSnake name ↔ ∀ word ∈ segments name, IsWord word.toList := by
  constructor
  · rintro ⟨words, filled, each, rfl⟩
    have parts : segments ("_".intercalate words) = words :=
      Text.split_intercalate filled fun word among => (each word among).underscore_notMem
    rwa [parts]
  · intro each
    exact ⟨segments name, Text.split_ne_nil '_' name, each, intercalate_segments name⟩

theorem append_join_eq_intercalate (first : String) (rest : List String) :
    first ++ String.join (rest.map ("_" ++ ·)) = "_".intercalate (first :: rest) := by
  induction rest generalizing first with
  | nil => simp
  | cons second rest inductionHypothesis =>
    rw [List.map_cons, String.join_cons, String.append_assoc, inductionHypothesis second,
      ← String.append_assoc,
      String.intercalate_cons_cons]

theorem snakeCase_join_capitalize {words : List String}
    (each : ∀ word ∈ words, IsWord word.toList) :
    snakeCase (String.join (words.map capitalize)) = String.join (words.map ("_" ++ ·)) := by
  have apart : (words.map capitalize).map snakeCase = words.map ("_" ++ ·) := by
    rw [List.map_map]
    apply List.map_congr_left
    intro word among
    exact snakeCase_capitalize (each word among)
  rw [snakeCase_join, apart]

theorem snakeCase_camelCase {name : String} (snake : IsSnake name) :
    snakeCase (camelCase name) = name := by
  obtain ⟨first, rest, parts⟩ := exists_segments name
  rw [isSnake_iff, parts, List.forall_mem_cons] at snake
  obtain ⟨own, later⟩ := snake
  have kept : snakeCase first = first := snakeCase_eq_self fun _ among => own.isUpper_eq_false among
  rw [camelCase_of_segments parts, snakeCase_append, kept, snakeCase_join_capitalize later,
    append_join_eq_intercalate, ← parts, intercalate_segments]

theorem snakeCase_capitalize_camelCase {name : String} (snake : IsSnake name) :
    snakeCase (capitalize (camelCase name)) = "_" ++ name := by
  obtain ⟨first, rest, parts⟩ := exists_segments name
  have each := isSnake_iff.mp snake
  rw [capitalize_camelCase, snakeCase_join_capitalize each, parts, List.map_cons, String.join_cons,
    String.append_assoc, append_join_eq_intercalate, ← parts, intercalate_segments]

theorem exists_eq_append_underscore {front : String} (listed : front ∈ tablePrefixes) :
    ∃ mark, front = mark ++ "_" := by
  simp only [tablePrefixes, List.mem_cons, List.not_mem_nil, or_false] at listed
  rcases listed with rfl | rfl | rfl
  · exact ⟨"tb", rfl⟩
  · exact ⟨"t", rfl⟩
  · exact ⟨"r", rfl⟩

/-- A prefix that is dropped takes whole words with it. -/
theorem IsSnake.dropTablePrefix {table : String} (snake : IsSnake table) :
    IsSnake (dropTablePrefix table) := by
  rcases dropTablePrefix_cases table with kept | ⟨front, listed, cut⟩
  · rwa [kept]
  · obtain ⟨mark, rfl⟩ := exists_eq_append_underscore listed
    rw [isSnake_iff, cut, segments_append] at snake
    rw [isSnake_iff]
    intro word among
    exact snake word (List.mem_append_right _ among)

theorem eq_of_classStem_eq {table other : String} (snake : IsSnake table) (snakeToo : IsSnake other)
    (same : classStem table = classStem other) : dropTablePrefix table = dropTablePrefix other := by
  -- Read back from the class names, what is left of either name stands behind an underscore.
  have back := congrArg snakeCase same
  unfold classStem memberStem at back
  rwa [snakeCase_capitalize_camelCase snake.dropTablePrefix,
    snakeCase_capitalize_camelCase snakeToo.dropTablePrefix, String.append_right_inj] at back

/-- Names in snake case come back from camel case, so that no two of them meet there: fields of
such columns have different names in the order of the columns, and two tables share their class
names only when they differ in nothing but a prefix. -/
theorem snakeCase_undoes_camelCase :
    (∀ name : String, IsSnake name → snakeCase (camelCase name) = name) ∧
    (∀ name other : String, IsSnake name → IsSnake other → camelCase name = camelCase other →
      name = other) ∧
    (∀ columns : List Column, (∀ column ∈ columns, IsSnake column.field) →
      (columns.map (·.field)).Nodup →
      ((columns.map Field.ofColumn).map (·.name)).Nodup ∧
        (columns.map Field.ofColumn).map (snakeCase ·.name) = columns.map (·.field)) ∧
    ∀ table other : String, IsSnake table → IsSnake other →
      (classStem table = classStem other ↔ dropTablePrefix table = dropTablePrefix other) := by
  refine ⟨fun name => snakeCase_camelCase, ?_, ?_, ?_⟩
  · intro name other snake snakeToo same
    rw [← snakeCase_camelCase snake, same, snakeCase_camelCase snakeToo]
  · intro columns snake nodup
    have back : (columns.map Field.ofColumn).map (snakeCase ·.name) = columns.map (·.field) := by
      rw [List.map_map]
      apply List.map_congr_left
      intro column among
      exact snakeCase_camelCase (snake column among)
    refine ⟨?_, back⟩
    rw [← back] at nodup
    apply List.Nodup.of_map snakeCase
    rwa [List.map_map]
  · intro table other snake snakeToo
    refine ⟨eq_of_classStem_eq snake snakeToo, fun same => ?_⟩
    unfold classStem memberStem
    rw [same]

theorem snakeCase_of_order_items :
    let columns : List Column :=
      [{ field := "order_no2", sqlType := "int" }, { field := "order_no", sqlType := "text" }]
    ((∀ column ∈ columns, IsSnake column.field) ∧ (columns.map (·.field)).Nodup) ∧
      snakeCase (camelCase "order_no2") = "order_no2" ∧
      ((columns.map Field.ofColumn).map (·.name)).Nodup ∧
      (IsSnake "tb_order_item" ∧ IsSnake "t_order_item") ∧
      (classStem "tb_order_item" = classStem "t_order_item" ↔
        dropTablePrefix "tb_order_item" = dropTablePrefix "t_order_item") := by
  intro columns
  obtain ⟨undone, _, distinct, shared⟩ := snakeCase_undoes_camelCase
  have second : IsSnake "order_no2" := ⟨["order", "no2"], by simp, by simp [IsWord], by decide⟩
  have first : IsSnake "order_no" := ⟨["order", "no"], by simp, by simp [IsWord], by decide⟩
  have marked : IsSnake "tb_order_item" :=
    ⟨["tb", "order", "item"], by simp, by simp [IsWord], by decide⟩
  have other : IsSnake "t_order_item" :=
    ⟨["t", "order", "item"], by simp, by simp [IsWord], by decide⟩
  have each : ∀ column ∈ columns, IsSnake column.field := by
    simpa [columns] using ⟨second, first⟩
  have nodup : (columns.map (·.field)).Nodup := by decide
  exact ⟨⟨each, nodup⟩, undone _ second, (distinct columns each nodup).1, ⟨marked, other⟩,
    shared _ _ marked other⟩

end Identifier
end Scaffold
