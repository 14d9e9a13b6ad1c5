import Mathlib.Data.List.Infix
import Scaffold.Proofs.Text.Escapes
import Scaffold.Text.Occurs

/-!
How often a part occurs in a text, and where a comment ends.  A character that the part does not
hold divides the text: nothing occurs across it.  A comment goes on to the first mark that ends it,
spelled with escapes or without.
-/

namespace Scaffold

namespace Text

/-- The number of places at which the part stands in the text. -/
def occurrences (part text : List Char) : Nat := text.tails.countP part.isPrefixOf

variable {part : List Char}

theorem occurrences_nil (filled : part ≠ []) : occurrences part [] = 0 := by
  simpa [occurrences] using filled

theorem occurrences_cons (part : List Char) (c : Char) (rest : List Char) :
    occurrences part (c :: rest) =
      occurrences part rest + if part <+: c :: rest then 1 else 0 := by
  simp [occurrences, List.countP_cons]

theorem occurrences_eq_zero_iff {text : List Char} :
    occurrences part text = 0 ↔ ¬ part <:+: text := by
  simp [occurrences, List.countP_eq_zero, List.infix_iff_prefix_suffix, imp_not_comm]

theorem prefix_append_cons_iff {front back : List Char} {c : Char} (clean : c ∉ part) :
    part <+: front ++ c :: back ↔ part <+: front := by
  constructor
  · intro starts
    rcases List.prefix_or_prefix_of_prefix starts (List.prefix_append front _) with within | beyond
    · exact within
    · obtain ⟨rest, rfl⟩ := beyond
      rw [List.prefix_append_right_inj] at starts
      rcases List.prefix_cons_iff.mp starts with rfl | ⟨later, rfl, -⟩
      · simp
      · simp at clean
  · intro starts
    exact starts.trans (List.prefix_append front _)

theorem occurrences_append_cons {c : Char} (filled : part ≠ []) (clean : c ∉ part)
    (front back : List Char) :
    occurrences part (front ++ c :: back) = occurrences part front + occurrences part back := by
  induction front with
  | nil =>
    have apart : ¬ part <+: c :: back := by
      rw [← List.nil_append (c :: back), prefix_append_cons_iff clean]
      simpa using filled
    simp [occurrences_nil filled, occurrences_cons, apart]
  | cons d rest inductionHypothesis =>
    have starts : part <+: d :: (rest ++ c :: back) ↔ part <+: d :: rest :=
      @prefix_append_cons_iff part (d :: rest) back c clean
    simp only [List.cons_append, occurrences_cons, inductionHypothesis, starts]
    omega

end Text

namespace Java

def commentEnd : List Char := ['*', '/']

/-- What follows the comment in which the text begins. -/
def afterComment? : List Sign → Option (List Sign)
  | [] => none
  | .unreadable :: _ => none
  | .char '*' :: .char '/' :: rest => some rest
  | _ :: rest => afterComment? rest

/-- What follows the comment with which the text begins. -/
def skipComment? (text : List Char) : Option (List Sign) :=
  match translate text with
  | .char '/' :: .char '*' :: rest => afterComment? rest
  | _ => none

/-- In a comment the text can be read and does not end it. -/
def KeepsComment (text : List Sign) : Prop :=
  .unreadable ∉ text ∧ ¬ commentEnd.map Sign.char <:+: text

theorem keepsComment_nil : KeepsComment [] := by
  simp [KeepsComment, commentEnd]

theorem keepsComment_cons_iff {sign : Sign} {body : List Sign} :
    KeepsComment (sign :: body) ↔ sign ≠ .unreadable ∧
      ¬ (sign = .char '*' ∧ body.head? = some (.char '/')) ∧ KeepsComment body := by
  have starts : commentEnd.map Sign.char <+: sign :: body ↔
      sign = .char '*' ∧ body.head? = some (.char '/') := by
    cases body <;> simp [commentEnd, eq_comm]
  unfold KeepsComment
  rw [List.mem_cons, List.infix_cons_iff, starts, not_or, not_or, eq_comm]
  exact and_and_and_comm.trans and_assoc

theorem keepsComment_append_cons_iff {c : Char} (clean : c ∉ commentEnd) (front back : List Sign) :
    KeepsComment (front ++ .char c :: back) ↔ KeepsComment front ∧ KeepsComment back := by
  have other : Sign.char c ∉ commentEnd.map Sign.char := by simpa using clean
  unfold KeepsComment
  rw [Text.infix_append_cons_iff other, List.mem_append, List.mem_cons, not_or, not_or, not_or]
  constructor
  · rintro ⟨⟨inFront, _, inBack⟩, endsFront, endsBack⟩
    exact ⟨⟨inFront, endsFront⟩, inBack, endsBack⟩
  · rintro ⟨⟨inFront, endsFront⟩, inBack, endsBack⟩
    exact ⟨⟨inFront, by simp, inBack⟩, endsFront, endsBack⟩

/-- Without backslashes only the mark itself ends a comment. -/
theorem keepsComment_translate_iff {text : List Char} (plain : '\\' ∉ text) :
    KeepsComment (translate text) ↔ ¬ commentEnd <:+: text := by
  have injective : Function.Injective Sign.char := fun _ _ same => Sign.char.inj same
  have ends : commentEnd.map Sign.char <:+: text.map Sign.char ↔ commentEnd <:+: text := by
    rw [List.infix_map_iff]
    constructor
    · rintro ⟨part, occurs, same⟩
      rwa [List.map_injective_iff.mpr injective same]
    · intro occurs
      exact ⟨commentEnd, occurs, rfl⟩
  rw [translate_eq_map plain, KeepsComment, ends]
  simp

/-- A text without stars and backslashes has nothing to do with the end of a comment. -/
theorem occurrences_eq_zero_and_keepsComment {text : List Char} (starless : '*' ∉ text)
    (plain : '\\' ∉ text) :
    Text.occurrences commentEnd text = 0 ∧ KeepsComment (translate text) := by
  have none : ¬ commentEnd <:+: text := fun occurs => starless (occurs.subset List.mem_cons_self)
  exact ⟨Text.occurrences_eq_zero_iff.mpr none, (keepsComment_translate_iff plain).mpr none⟩

theorem afterComment?_cons {sign : Sign} {rest : List Sign} (readable : sign ≠ .unreadable)
    (goesOn : ¬ (sign = .char '*' ∧ rest.head? = some (.char '/'))) :
    afterComment? (sign :: rest) = afterComment? rest := by
  rw [afterComment?]
  · exact readable
  · rintro later rfl rfl
    exact goesOn ⟨rfl, rfl⟩

/-- No mark begins in front of another one. -/
theorem head?_append_commentEnd (body rest : List Sign) :
    (body ++ commentEnd.map Sign.char ++ rest).head? = some (.char '/') ↔
      body.head? = some (.char '/') := by
  cases body <;> simp [commentEnd]

/-- A comment ends at the first mark. -/
theorem afterComment?_eq_some_iff {text rest : List Sign} :
    afterComment? text = some rest ↔
      ∃ body, text = body ++ commentEnd.map Sign.char ++ rest ∧ KeepsComment body := by
  constructor
  · intro read
    induction text with
    | nil => simp [afterComment?] at read
    | cons sign text inductionHypothesis =>
      by_cases ends : sign = .char '*' ∧ text.head? = some (.char '/')
      · obtain ⟨rfl, slash⟩ := ends
        obtain ⟨later, rfl⟩ := List.head?_eq_some_iff.mp slash
        obtain rfl : later = rest := Option.some.inj read
        exact ⟨[], rfl, keepsComment_nil⟩
      · have readable : sign ≠ .unreadable := by
          rintro rfl
          simp [afterComment?] at read
        rw [afterComment?_cons readable ends] at read
        obtain ⟨body, rfl, keeps⟩ := inductionHypothesis read
        rw [head?_append_commentEnd] at ends
        exact ⟨sign :: body, rfl, keepsComment_cons_iff.mpr ⟨readable, ends, keeps⟩⟩
  · rintro ⟨body, rfl, keeps⟩
    induction body with
    | nil => rfl
    | cons sign body inductionHypothesis =>
      rw [keepsComment_cons_iff, ← head?_append_commentEnd body rest] at keeps
      obtain ⟨readable, goesOn, keeps⟩ := keeps
      rw [List.cons_append, List.cons_append, afterComment?_cons readable goesOn,
        inductionHypothesis keeps]

theorem afterComment?_append_commentEnd_iff {body : List Sign} :
    afterComment? (body ++ commentEnd.map Sign.char) = some [] ↔ KeepsComment body := by
  rw [afterComment?_eq_some_iff]
  constructor
  · rintro ⟨own, same, keeps⟩
    rw [List.append_nil] at same
    rwa [List.append_cancel_right same]
  · intro keeps
    exact ⟨body, by simp, keeps⟩

end Java

end Scaffold
