import Mathlib.Algebra.GroupWithZero.Nat
import Scaffold.Proofs.Template.ExactSplit
import Scaffold.Proofs.Template.Lines

/-!
Templates and the texts they are written as.  Where dollar signs only begin slots, a scan of the
text finds the slots of the template and nothing else, and once they are filled all dollar signs
come from the values.
-/

namespace Scaffold

def Piece.text : Piece → String
  | .literal text => text
  | .slot name => slotText name

def Piece.substitute (valueOf : String → String) : Piece → String
  | .literal text => text
  | .slot name => valueOf name

/-- A dollar sign begins a slot and stands nowhere else. -/
def Piece.IsScannable : Piece → Prop
  | .literal text => '$' ∉ text.toList
  | .slot name => Template.IsSlotName name.toList

instance : (piece : Piece) → Decidable piece.IsScannable
  | .literal _ => inferInstanceAs (Decidable (_ ∉ _))
  | .slot _ => inferInstanceAs (Decidable (Template.IsSlotName _))

namespace Template

def text (template : Template) : String :=
  String.join (template.map Piece.text)

def substitute (valueOf : String → String) (template : Template) : String :=
  String.join (template.map (Piece.substitute valueOf))

variable {template : Template}

@[simp]
theorem slots_literal_cons (text : String) (rest : Template) :
    slots (.literal text :: rest) = slots rest := rfl

@[simp]
theorem slots_slot_cons (name : String) (rest : Template) :
    slots (.slot name :: rest) = name :: slots rest := rfl

theorem toList_text_cons (piece : Piece) (rest : Template) :
    (text (piece :: rest)).toList = piece.text.toList ++ (text rest).toList := by
  simp [text]

theorem toList_text_slot (name : String) :
    (Piece.slot name).text.toList = written name.toList := by
  simp [Piece.text, Piece.slotText, written]

/-- No slot begins without a dollar sign. -/
theorem leadingSlot?_cons_of_ne {c : Char} (other : c ≠ '$') (rest : List Char) :
    leadingSlot? (c :: rest) = none := by
  rw [Option.eq_none_iff_forall_ne_some]
  rintro ⟨name, after⟩ found
  obtain ⟨_, spelled⟩ := leadingSlot?_eq_some_iff.mp found
  exact other (List.cons.inj spelled).1

theorem split_append_of_notMem {front : List Char} (free : '$' ∉ front) (rest : List Char) :
    split (front ++ rest) = ⟨front ++ (split rest).lead, (split rest).slots⟩ := by
  induction front with
  | nil => rfl
  | cons c front inductionHypothesis =>
    obtain ⟨other, free⟩ := List.ne_and_not_mem_of_not_mem_cons free
    have missing := leadingSlot?_cons_of_ne other.symm (front ++ rest)
    rw [List.cons_append, split_cons_of_leadingSlot?_eq_none missing, inductionHypothesis free]
    rfl

def Split.prepend (parts : Split) : Piece → Split
  | .literal text => ⟨text.toList ++ parts.lead, parts.slots⟩
  | .slot name => ⟨[], (name.toList, parts.lead) :: parts.slots⟩

theorem split_text_cons {piece : Piece} (scannable : piece.IsScannable) (rest : Template) :
    split (text (piece :: rest)).toList = (split (text rest).toList).prepend piece := by
  rw [toList_text_cons]
  cases piece with
  | literal literal => exact split_append_of_notMem scannable _
  | slot name =>
    rw [toList_text_slot]
    exact split_written_append scannable _

theorem slots_toTemplate (parts : Split) :
    parts.toTemplate.slots = parts.slots.map fun slot => .ofList slot.1 := by
  obtain ⟨lead, slots⟩ := parts
  unfold Split.toTemplate
  rw [slots_literal_cons]
  induction slots with
  | nil => rfl
  | cons slot slots inductionHypothesis => simpa using inductionHypothesis

theorem slots_ofText_text (scannable : ∀ piece ∈ template, piece.IsScannable) :
    (ofText template.text).slots = template.slots := by
  unfold ofText
  induction template with
  | nil => simp [text, split, Split.toTemplate, slots]
  | cons piece rest inductionHypothesis =>
    rw [List.forall_mem_cons] at scannable
    have later := inductionHypothesis scannable.2
    rw [slots_toTemplate] at later ⊢
    rw [split_text_cons scannable.1]
    cases piece with
    | literal literal => exact later
    | slot name => simp [Split.prepend, later]

theorem render_ofText_text (scannable : ∀ piece ∈ template, piece.IsScannable)
    (bindings : Bindings) : (ofText template.text).render bindings = template.render bindings := by
  unfold ofText
  induction template with
  | nil => simp [text, split, Split.toTemplate]
  | cons piece rest inductionHypothesis =>
    rw [List.forall_mem_cons] at scannable
    rw [split_text_cons scannable.1, render_cons, ← inductionHypothesis scannable.2]
    cases piece with
    | literal literal => simp [Split.prepend, Split.toTemplate, String.append_assoc]
    | slot name => simp [Split.prepend, Split.toTemplate]

theorem render_eq_substitute {bindings : Bindings} {valueOf : String → String}
    (bound : ∀ name ∈ template.slots, bindings.get? name = some (valueOf name)) :
    template.render bindings = template.substitute valueOf := by
  induction template with
  | nil => rfl
  | cons piece rest inductionHypothesis =>
    cases piece with
    | literal literal =>
      rw [slots_literal_cons] at bound
      simp [inductionHypothesis bound, substitute, Piece.substitute]
    | slot name =>
      rw [slots_slot_cons, List.forall_mem_cons] at bound
      simp [inductionHypothesis bound.2, substitute, Piece.substitute, Piece.fill, bound.1]

theorem count_substitute (scannable : ∀ piece ∈ template, piece.IsScannable)
    (valueOf : String → String) :
    (template.substitute valueOf).toList.count '$' =
      (template.slots.map fun name => (valueOf name).toList.count '$').sum := by
  induction template with
  | nil => rfl
  | cons piece rest inductionHypothesis =>
    rw [List.forall_mem_cons] at scannable
    have later := inductionHypothesis scannable.2
    have whole : (substitute valueOf (piece :: rest)).toList =
        (piece.substitute valueOf).toList ++ (substitute valueOf rest).toList := by
      simp [substitute]
    rw [whole, List.count_append, later]
    cases piece with
    | literal literal =>
      have free : literal.toList.count '$' = 0 := List.count_eq_zero_of_not_mem scannable.1
      simp [Piece.substitute, free]
    | slot name => simp [Piece.substitute]

end Template
end Scaffold
