/-!
Whether one text occurs in another, in one piece.
-/

namespace Scaffold.Text

/-- The part occurs somewhere in the text; the empty part occurs in every text. -/
def occurs (part : List Char) : List Char → Bool
  | [] => part.isEmpty
  | c :: rest => part.isPrefixOf (c :: rest) || occurs part rest

theorem occurs_iff {part text : List Char} : occurs part text = true ↔ part <:+: text := by
  induction text with
  | nil => simp [occurs]
  | cons c rest inductionHypothesis =>
    simp [occurs, inductionHypothesis, List.infix_cons_iff]

theorem occurs_nil (text : List Char) : occurs [] text = true :=
  occurs_iff.mpr List.nil_infix

/-- A part without the item that divides a text stands on one side of it. -/
theorem infix_append_cons_iff {Item : Type} {part front back : List Item} {c : Item}
    (clean : c ∉ part) :
    part <:+: front ++ c :: back ↔ part <:+: front ∨ part <:+: back := by
  constructor
  · intro occurs
    rcases List.infix_append_iff.mp occurs with before | behind | ⟨left, right, rfl, ends, begins⟩
    · exact .inl before
    · rcases List.infix_cons_iff.mp behind with begins | later
      · rcases List.prefix_cons_iff.mp begins with rfl | ⟨rest, rfl, _⟩
        · exact .inr List.nil_infix
        · exact absurd List.mem_cons_self clean
      · exact .inr later
    · rcases List.prefix_cons_iff.mp begins with rfl | ⟨rest, rfl, _⟩
      · rw [List.append_nil]
        exact .inl ends.isInfix
      · exact absurd (List.mem_append_right left List.mem_cons_self) clean
  · rintro (before | behind)
    · exact before.trans (List.prefix_append front _).isInfix
    · exact behind.trans ((List.suffix_cons c back).trans (List.suffix_append front _)).isInfix

end Scaffold.Text
