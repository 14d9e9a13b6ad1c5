/-!
Templates: texts with slots, written `$`, then a name in braces, that `render` fills in one pass.
What is filled in is never looked at again, and a slot without a value stays as it is written.
`ofText` finds the slots of a text.
-/

namespace Scaffold

structure Bindings where
  /-- Latest first; only the first entry of a name counts. -/
  entries : List (String × String) := []

namespace Bindings

def set (bindings : Bindings) (name value : String) : Bindings :=
  ⟨(name, value) :: bindings.entries⟩

def get? (bindings : Bindings) (name : String) : Option String :=
  bindings.entries.lookup name

def ofList (entries : List (String × String)) : Bindings :=
  entries.foldl (fun bindings entry => bindings.set entry.1 entry.2) {}

@[simp]
theorem get?_empty (name : String) : ({} : Bindings).get? name = none := rfl

theorem get?_set (bindings : Bindings) (name value other : String) :
    (bindings.set name value).get? other =
      if other = name then some value else bindings.get? other := by
  by_cases same : other = name
  · simp [get?, set, same]
  · simp [get?, set, List.lookup_cons, beq_false_of_ne same, same]

end Bindings

inductive Piece where
  | literal (text : String)
  /-- A place for the value of `name`. -/
  | slot (name : String)
deriving DecidableEq, Repr

instance : Coe String Piece := ⟨.literal⟩

def Piece.slotText (name : String) : String :=
  "$\x7b" ++ name ++ "\x7d"

/-- The piece with its slot filled, if there is a value for it. -/
def Piece.fill (bindings : Bindings) : Piece → String
  | .literal text => text
  | .slot name => (bindings.get? name).getD (slotText name)

abbrev Template := List Piece

namespace Template

def render (bindings : Bindings) (template : Template) : String :=
  String.join (template.map (Piece.fill bindings))

def slots (template : Template) : List String :=
  template.filterMap fun
    | .literal _ => none
    | .slot name => some name

def isNameChar (c : Char) : Bool :=
  c.isAlphanum || c == '_'

/-- Names of slots: ASCII letters, digits and underscores, with no digit in front. -/
def IsSlotName : List Char → Prop
  | [] => False
  | c :: rest => isNameChar c = true ∧ c.isDigit = false ∧ ∀ d ∈ rest, isNameChar d = true

instance : (name : List Char) → Decidable (IsSlotName name)
  | [] => inferInstanceAs (Decidable False)
  | _ :: rest =>
    haveI : Decidable (∀ d ∈ rest, isNameChar d = true) := List.decidableBAll _ rest
    inferInstanceAs (Decidable (_ ∧ _))

/-- The slot at the start of a text: its name, and the text after it. -/
def leadingSlot? : List Char → Option (List Char × List Char)
  | '$' :: '{' :: rest =>
    match rest.dropWhile isNameChar with
    | '}' :: after =>
      if IsSlotName (rest.takeWhile isNameChar) then some (rest.takeWhile isNameChar, after)
      else none
    | _ => none
  | _ => none

theorem eq_append_of_leadingSlot? {text name after : List Char}
    (found : leadingSlot? text = some (name, after)) :
    IsSlotName name ∧ text = '$' :: '{' :: (name ++ '}' :: after) := by
  unfold leadingSlot? at found
  split at found
  next rest =>
    split at found
    next tail closes =>
      split at found
      next named =>
        simp only [Option.some.injEq, Prod.mk.injEq] at found
        obtain ⟨rfl, rfl⟩ := found
        refine ⟨named, ?_⟩
        rw [← closes, List.takeWhile_append_dropWhile]
      next => simp at found
    next => simp at found
  next => simp at found

theorem length_lt_of_leadingSlot? {text name after : List Char}
    (found : leadingSlot? text = some (name, after)) : after.length < text.length := by
  rw [(eq_append_of_leadingSlot? found).2]
  simp only [List.length_cons, List.length_append]
  omega

structure Split where
  /-- The text in front of the first slot. -/
  lead : List Char
  /-- Each slot's name, with the text between it and the next slot. -/
  slots : List (List Char × List Char)
deriving DecidableEq, Repr

def Split.text (parts : Split) : List Char :=
  parts.lead ++ parts.slots.flatMap fun (name, after) => '$' :: '{' :: (name ++ '}' :: after)

def split : List Char → Split
  | [] => ⟨[], []⟩
  | c :: rest =>
    match _found : leadingSlot? (c :: rest) with
    | some (name, after) =>
      let tail := split after
      ⟨[], (name, tail.lead) :: tail.slots⟩
    | none =>
      let tail := split rest
      ⟨c :: tail.lead, tail.slots⟩
termination_by text => text.length
decreasing_by
  · exact length_lt_of_leadingSlot? _found
  · exact Nat.lt_succ_self _

theorem text_split (text : List Char) : (split text).text = text := by
  fun_induction split text with
  | case1 => rfl
  | case2 c rest name after found tail inductionHypothesis =>
    rw [(eq_append_of_leadingSlot? found).2]
    simpa [Split.text, tail] using inductionHypothesis
  | case3 c rest found tail inductionHypothesis =>
    simpa [Split.text, tail] using inductionHypothesis

def Split.toTemplate (parts : Split) : Template :=
  .literal (.ofList parts.lead) ::
    parts.slots.flatMap fun (name, after) => [.slot (.ofList name), .literal (.ofList after)]

def ofText (text : String) : Template :=
  (split text.toList).toTemplate

end Template
end Scaffold
