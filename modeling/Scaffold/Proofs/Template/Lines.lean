import Scaffold.Template

/-!
Templates line by line.  A slot may hold line breaks of its own; the lines of a template are those
that it breaks itself, and each is rendered on its own.
-/

namespace Scaffold

def HasLine (text line : String) : Prop :=
  ∃ before after, text = before ++ "\n" ++ line ++ "\n" ++ after

@[simp]
theorem Piece.fill_literal (bindings : Bindings) (text : String) :
    (Piece.literal text).fill bindings = text := rfl

namespace Template

@[simp]
theorem render_nil (bindings : Bindings) : render bindings [] = "" := by
  simp [render]

@[simp]
theorem render_cons (bindings : Bindings) (piece : Piece) (rest : Template) :
    render bindings (piece :: rest) = piece.fill bindings ++ render bindings rest := by
  simp [render]

@[simp]
theorem render_append (bindings : Bindings) (front back : Template) :
    render bindings (front ++ back) = render bindings front ++ render bindings back := by
  simp [render]

def lines (template : Template) : List Template :=
  template.splitOn (.literal "\n")

theorem render_intercalate (bindings : Bindings) (templates : List Template) :
    render bindings ([Piece.literal "\n"].intercalate templates) =
      "\n".intercalate (templates.map (render bindings)) := by
  induction templates with
  | nil => simp
  | cons first rest inductionHypothesis =>
    cases rest with
    | nil => simp
    | cons second rest =>
      rw [List.intercalate_cons_cons, render_append, render_append, inductionHypothesis]
      simp [String.intercalate_cons_cons]

/-- A text that is rendered is its lines, one below the other. -/
theorem render_eq_intercalate (bindings : Bindings) (template : Template) :
    template.render bindings = "\n".intercalate (template.lines.map (render bindings)) := by
  rw [← render_intercalate]
  exact congrArg (render bindings) (List.intercalate_splitOn _).symm

theorem hasLine_render {template line : Template}
    (whole : Piece.literal "\n" :: (line ++ [.literal "\n"]) <:+: template) (bindings : Bindings) :
    HasLine (template.render bindings) (line.render bindings) := by
  obtain ⟨front, back, rfl⟩ := whole
  refine ⟨render bindings front, render bindings back, ?_⟩
  simp [String.append_assoc]

end Template
end Scaffold
