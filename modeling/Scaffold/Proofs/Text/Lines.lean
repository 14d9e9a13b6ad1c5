import Mathlib.Data.List.Basic

/-!
Texts that are joined from parts and cut into them again, with one divider between each part and
the next; and the lines of a text, which are its parts between line breaks.
-/

namespace Scaffold.Text

theorem notMem_intercalate {c : Char} {separator : String} (clean : c ∉ separator.toList)
    {parts : List String} (each : ∀ part ∈ parts, c ∉ part.toList) :
    c ∉ (separator.intercalate parts).toList := by
  induction parts with
  | nil => simp
  | cons first rest inductionHypothesis =>
    obtain ⟨own, later⟩ := List.forall_mem_cons.mp each
    cases rest with
    | nil => rwa [String.intercalate_singleton]
    | cons second rest =>
      rw [String.intercalate_cons_cons, String.toList_append, String.toList_append]
      simp only [List.mem_append, not_or]
      exact ⟨⟨own, clean⟩, inductionHypothesis later⟩

/-- The parts between dividers; one stands behind the last divider, too. -/
def split (divider : Char) (text : String) : List String :=
  (text.toList.splitOn divider).map .ofList

variable {divider : Char}

theorem split_ne_nil (divider : Char) (text : String) : split divider text ≠ [] := by
  simp [split]

theorem split_intercalate {parts : List String} (filled : parts ≠ [])
    (single : ∀ part ∈ parts, divider ∉ part.toList) :
    split divider ((String.singleton divider).intercalate parts) = parts := by
  have whole : ((String.singleton divider).intercalate parts).toList =
      [divider].intercalate (parts.map String.toList) := by
    rw [String.toList_intercalate, String.toList_singleton]
  have cut : List.splitOn divider ([divider].intercalate (parts.map String.toList)) =
      parts.map String.toList := by
    apply List.splitOn_intercalate
    · intro chars among
      obtain ⟨part, listed, rfl⟩ := List.mem_map.mp among
      exact single part listed
    · simpa using filled
  have same : parts.map (String.ofList ∘ String.toList) = parts.map id := by
    apply List.map_congr_left
    intro part _
    exact String.ofList_toList
  rw [split, whole, cut, List.map_map, same, List.map_id]

theorem intercalate_split (divider : Char) (text : String) :
    (String.singleton divider).intercalate (split divider text) = text := by
  have parts : (split divider text).map String.toList = text.toList.splitOn divider := by
    simp [split, Function.comp_def]
  rw [← String.toList_inj, String.toList_intercalate, parts, String.toList_singleton,
    List.intercalate_splitOn]

theorem split_append (divider : Char) (front back : String) :
    split divider (front ++ String.singleton divider ++ back) =
      split divider front ++ split divider back := by
  have apart : (front ++ String.singleton divider ++ back).toList =
      front.toList ++ divider :: back.toList := by simp
  rw [split, apart, List.splitOn_append_cons_self, List.map_append]
  rfl

theorem notMem_of_mem_splitOn {text chars : List Char} (among : chars ∈ text.splitOn divider) :
    divider ∉ chars := by
  induction text generalizing chars with
  | nil => simp_all
  | cons c rest inductionHypothesis =>
    rw [List.splitOn_cons_eq_if_modifyHead] at among
    obtain ⟨first, later, parts⟩ := List.exists_cons_of_ne_nil (List.splitOn_ne_nil divider rest)
    have own : divider ∉ first := inductionHypothesis (by simp [parts])
    by_cases same : c = divider
    · simp only [same, beq_self_eq_true, if_true, List.mem_cons] at among
      rcases among with rfl | among
      · exact List.not_mem_nil
      · exact inductionHypothesis among
    · simp only [parts, beq_iff_eq, same, if_false, List.modifyHead_cons, List.mem_cons] at among
      rcases among with rfl | among
      · simp [own, Ne.symm same]
      · exact inductionHypothesis (by simp [parts, among])

theorem notMem_of_mem_split {text part : String} (among : part ∈ split divider text) :
    divider ∉ part.toList := by
  obtain ⟨chars, listed, rfl⟩ := List.mem_map.mp among
  rw [String.toList_ofList]
  exact notMem_of_mem_splitOn listed

def lines (text : String) : List String :=
  (text.toList.splitOn '\n').map .ofList

theorem lines_intercalate {parts : List String} (filled : parts ≠ [])
    (single : ∀ part ∈ parts, '\n' ∉ part.toList) : lines ("\n".intercalate parts) = parts :=
  split_intercalate filled single

theorem length_lines (text : String) : (lines text).length = text.toList.count '\n' + 1 := by
  unfold lines
  rw [List.length_map]
  induction text.toList with
  | nil => rw [List.splitOn_nil, List.count_nil, List.length_singleton]
  | cons c rest inductionHypothesis =>
    rw [List.splitOn_cons_eq_if_modifyHead]
    by_cases break_ : c = '\n'
    · simp [break_, inductionHypothesis]
    · simp [break_, inductionHypothesis]

end Scaffold.Text
