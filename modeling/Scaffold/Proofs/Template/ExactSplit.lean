import Scaffold.Template

/-!
The one way to take a text apart at its slots.  A split is exact when slots alternate with texts
in which no slot is written.  A slot holds one `$`, in front, so that no two slots share a
character: each text has one exact split, the scan finds it, and filling puts the values between
its texts.
-/

namespace Scaffold

def Bindings.lastValue? (settings : List (String × String)) (name : String) : Option String :=
  (settings.reverse.find? (·.1 = name)).map (·.2)

theorem Bindings.get?_foldl_set (settings : List (String × String)) (bindings : Bindings)
    (name : String) :
    (settings.foldl (fun bindings entry => bindings.set entry.1 entry.2) bindings).get? name =
      (lastValue? settings name).or (bindings.get? name) := by
  induction settings generalizing bindings with
  | nil => rfl
  | cons entry rest inductionHypothesis =>
    rw [List.foldl_cons, inductionHypothesis, get?_set]
    unfold lastValue?
    rw [List.reverse_cons, List.find?_append]
    by_cases same : entry.1 = name
    · cases rest.reverse.find? (·.1 = name) <;> simp [same]
    · cases rest.reverse.find? (·.1 = name) <;> simp [same, Ne.symm same]

theorem Bindings.get?_ofList (settings : List (String × String)) (name : String) :
    (ofList settings).get? name = lastValue? settings name := by
  unfold ofList
  rw [get?_foldl_set, get?_empty, Option.or_none]

namespace Template

def written (name : List Char) : List Char :=
  '$' :: '{' :: (name ++ ['}'])

theorem toList_slotText (name : List Char) :
    (Piece.slotText (.ofList name)).toList = written name := by
  simp [Piece.slotText, written]

def IsPlain (text : List Char) : Prop :=
  ∀ name, IsSlotName name → ¬ written name <:+: text

/-- Slots alternate with plain texts. -/
structure Split.IsExact (parts : Split) : Prop where
  named : ∀ slot ∈ parts.slots, IsSlotName slot.1
  leadPlain : IsPlain parts.lead
  restPlain : ∀ slot ∈ parts.slots, IsPlain slot.2

theorem IsSlotName.isNameChar {name : List Char} (named : IsSlotName name) :
    ∀ c ∈ name, isNameChar c = true := by
  cases name with
  | nil => exact named.elim
  | cons first rest =>
    intro c among
    rcases List.mem_cons.mp among with rfl | among
    · exact named.1
    · exact named.2.2 c among

theorem dollar_notMem_tail_written {name : List Char} (named : IsSlotName name) :
    '$' ∉ '{' :: (name ++ ['}']) := by
  intro among
  have inside : '$' ∈ name := by simpa using among
  have fits := named.isNameChar '$' inside
  exact absurd fits (by decide)

theorem leadingSlot?_written_append {name : List Char} (named : IsSlotName name)
    (after : List Char) : leadingSlot? (written name ++ after) = some (name, after) := by
  have chars := named.isNameChar
  have spelled : written name ++ after = '$' :: '{' :: (name ++ '}' :: after) := by
    simp [written]
  have closes : isNameChar '}' = false := by decide
  have taken : (name ++ '}' :: after).takeWhile isNameChar = name := by
    rw [List.takeWhile_append_of_pos chars, List.takeWhile_cons_of_neg (by simp [closes]),
      List.append_nil]
  have dropped : (name ++ '}' :: after).dropWhile isNameChar = '}' :: after := by
    rw [List.dropWhile_append_of_pos chars, List.dropWhile_cons_of_neg (by simp [closes])]
  rw [spelled]
  simp only [leadingSlot?, taken, dropped, named, if_true]

theorem leadingSlot?_eq_some_iff {text name after : List Char} :
    leadingSlot? text = some (name, after) ↔ IsSlotName name ∧ text = written name ++ after := by
  constructor
  · intro found
    obtain ⟨named, spelled⟩ := eq_append_of_leadingSlot? found
    exact ⟨named, by simp [spelled, written]⟩
  · rintro ⟨named, rfl⟩
    exact leadingSlot?_written_append named after

/-- Whatever starts in a plain text goes on past its end, and there finds no dollar sign. -/
theorem leadingSlot?_plain_append {plain rest : List Char} {c : Char}
    (isPlain : IsPlain (c :: plain)) (next : rest = [] ∨ rest.head? = some '$') :
    leadingSlot? (c :: plain ++ rest) = none := by
  rw [Option.eq_none_iff_forall_not_mem]
  rintro ⟨name, after⟩ found
  obtain ⟨named, spelled⟩ := leadingSlot?_eq_some_iff.mp found
  have slotFront : written name <+: c :: plain ++ rest := ⟨after, spelled.symm⟩
  have plainFront : c :: plain <+: c :: plain ++ rest := List.prefix_append _ _
  rcases List.prefix_or_prefix_of_prefix slotFront plainFront with inside | ⟨more, cut⟩
  · exact isPlain name named inside.isInfix
  · -- The slot ends with `more`, behind the plain text: its next character is where `rest` starts.
    have remains : rest = more ++ after := by
      rw [← cut, List.append_assoc] at spelled
      exact List.append_cancel_left spelled
    cases more with
    | nil =>
      rw [List.append_nil] at cut
      exact isPlain name named (cut ▸ List.infix_rfl)
    | cons d more =>
      have dollar : d = '$' := by
        rcases next with none | first
        · simp [remains] at none
        · simpa [remains] using first
      have later : d ∈ '{' :: (name ++ ['}']) := by
        have tails := (List.cons.inj cut).2
        rw [← tails]
        exact List.mem_append_right plain List.mem_cons_self
      exact dollar_notMem_tail_written named (dollar ▸ later)

theorem text_eq_lead_append (parts : Split) :
    parts.text = parts.lead ++ parts.slots.flatMap fun slot => written slot.1 ++ slot.2 := by
  simp [Split.text, written]

theorem split_written_append {name : List Char} (named : IsSlotName name) (after : List Char) :
    split (written name ++ after) = ⟨[], (name, (split after).lead) :: (split after).slots⟩ := by
  have found := leadingSlot?_written_append named after
  have spelled : written name ++ after = '$' :: '{' :: (name ++ '}' :: after) := by
    simp [written]
  rw [spelled] at found ⊢
  rw [split]
  split
  next found' =>
    rw [found] at found'
    obtain ⟨rfl, rfl⟩ := Prod.mk.inj (Option.some.inj found')
    rfl
  next missing => simp [found] at missing

theorem split_cons_of_leadingSlot?_eq_none {c : Char} {rest : List Char}
    (missing : leadingSlot? (c :: rest) = none) :
    split (c :: rest) = ⟨c :: (split rest).lead, (split rest).slots⟩ := by
  rw [split]
  split
  next found => simp [missing] at found
  next => rfl

theorem IsPlain.tail {c : Char} {text : List Char} (isPlain : IsPlain (c :: text)) :
    IsPlain text := by
  intro name named inside
  apply isPlain name named
  exact List.infix_cons inside

/-- Plain text in front of a slot or of the end goes into the lead. -/
theorem split_plain_append {plain rest : List Char} (isPlain : IsPlain plain)
    (next : rest = [] ∨ rest.head? = some '$') (leadless : (split rest).lead = []) :
    split (plain ++ rest) = ⟨plain, (split rest).slots⟩ := by
  induction plain with
  | nil => rw [List.nil_append, ← leadless]
  | cons c plain inductionHypothesis =>
    have missing : leadingSlot? (c :: (plain ++ rest)) = none :=
      leadingSlot?_plain_append isPlain next
    rw [List.cons_append, split_cons_of_leadingSlot?_eq_none missing,
      inductionHypothesis isPlain.tail]

theorem split_text {parts : Split} (exact : parts.IsExact) : split parts.text = parts := by
  obtain ⟨lead, slots⟩ := parts
  rw [text_eq_lead_append]
  -- Each step takes the text in front of a slot and the slot; the text behind leads what is left.
  induction slots generalizing lead with
  | nil =>
    rw [List.flatMap_nil]
    rw [split_plain_append exact.leadPlain (.inl rfl) (by simp [split])]
    simp [split]
  | cons slot slots inductionHypothesis =>
    obtain ⟨name, after⟩ := slot
    have named : IsSlotName name := exact.named (name, after) List.mem_cons_self
    have later : Split.IsExact ⟨after, slots⟩ := {
      named := fun slot among => exact.named slot (List.mem_cons_of_mem _ among)
      leadPlain := exact.restPlain (name, after) List.mem_cons_self
      restPlain := fun slot among => exact.restPlain slot (List.mem_cons_of_mem _ among) }
    rw [List.flatMap_cons, List.append_assoc]
    have tail := split_written_append named
      (after ++ slots.flatMap fun slot => written slot.1 ++ slot.2)
    rw [inductionHypothesis after later] at tail
    rw [split_plain_append exact.leadPlain (.inr rfl) (by rw [tail]), tail]

theorem isExact_split (text : List Char) : (split text).IsExact := by
  fun_induction split text with
  | case1 =>
    refine ⟨by simp, ?_, by simp⟩
    intro name _ inside
    simp [written] at inside
  | case2 c rest name after found tail inductionHypothesis =>
    have named := (leadingSlot?_eq_some_iff.mp found).1
    refine ⟨?_, ?_, ?_⟩
    · intro slot among
      rcases List.mem_cons.mp among with rfl | among
      · exact named
      · exact inductionHypothesis.named slot among
    · intro name _ inside
      simp [written] at inside
    · intro slot among
      rcases List.mem_cons.mp among with rfl | among
      · exact inductionHypothesis.leadPlain
      · exact inductionHypothesis.restPlain slot among
  | case3 c rest missing tail inductionHypothesis =>
    refine ⟨inductionHypothesis.named, ?_, inductionHypothesis.restPlain⟩
    intro name named inside
    rcases List.infix_cons_iff.mp inside with ⟨more, front⟩ | inside
    · -- A slot at the front of the lead is one at the front of the whole text.
      have whole : c :: rest = written name ++ (more ++ tail.slots.flatMap fun slot =>
          written slot.1 ++ slot.2) := by
        rw [← List.append_assoc, front, List.cons_append, ← text_eq_lead_append, text_split]
      rw [whole, leadingSlot?_written_append named] at missing
      contradiction
    · exact inductionHypothesis.leadPlain name named inside

def inserted (settings : List (String × String)) (name : List Char) : List Char :=
  match Bindings.lastValue? settings (.ofList name) with
  | some value => value.toList
  | none => written name

theorem toList_fill_slot (settings : List (String × String)) (name : List Char) :
    (Piece.fill (.ofList settings) (.slot (.ofList name))).toList = inserted settings name := by
  simp only [Piece.fill, inserted, Bindings.get?_ofList]
  cases Bindings.lastValue? settings (.ofList name) with
  | none => exact toList_slotText name
  | some value => rfl

theorem toList_render (bindings : Bindings) (template : Template) :
    (template.render bindings).toList =
      template.flatMap fun piece => (piece.fill bindings).toList := by
  rw [render, String.toList_join, List.flatMap_map]

theorem toList_render_toTemplate (settings : List (String × String)) (parts : Split) :
    (parts.toTemplate.render (.ofList settings)).toList =
      parts.lead ++ parts.slots.flatMap fun (name, after) => inserted settings name ++ after := by
  rw [toList_render, Split.toTemplate, List.flatMap_cons, List.flatMap_assoc]
  have literal (text : List Char) :
      (Piece.fill (.ofList settings) (.literal (.ofList text))).toList = text :=
    String.toList_ofList
  rw [literal]
  congr 2
  funext ⟨name, after⟩
  rw [List.flatMap_cons, List.flatMap_cons, List.flatMap_nil, toList_fill_slot, literal,
    List.append_nil]

/-- Each text has one exact split, and filling joins its texts with the values last set for the
names between them; a name without a value keeps its slot. -/
theorem exact_split_unique_and_filled (text : String) (settings : List (String × String)) :
    ∃ parts : Split,
      (∀ other : Split, other.text = text.toList ∧ other.IsExact ↔ other = parts) ∧
      ((ofText text).render (.ofList settings)).toList =
        parts.lead ++ parts.slots.flatMap fun (name, after) => inserted settings name ++ after := by
  refine ⟨split text.toList, fun other => ⟨?_, ?_⟩, ?_⟩
  · rintro ⟨spelled, exact⟩
    rw [← spelled, split_text exact]
  · rintro rfl
    exact ⟨text_split text.toList, isExact_split text.toList⟩
  · exact toList_render_toTemplate settings (split text.toList)

end Template
end Scaffold
