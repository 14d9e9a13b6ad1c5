import Mathlib.Data.List.Basic

/-!
Unicode escapes.  They are read before anything else is recognised in a program, comments and quotes
included.  A character that belongs to no escape keeps those before it apart from those behind it.
-/

namespace Scaffold.Java

/-- What a place in a text stands for once Unicode escapes are read. -/
inductive Sign where
  | char (c : Char)
  /-- Half of a pair, which stands for a character together with the other half. -/
  | half (code : Nat)
  /-- An escape without its four digits.  No program may hold one. -/
  | unreadable
deriving DecidableEq

def Sign.char? : Sign → Option Char
  | char c => some c
  | _ => none

def Sign.ofCode (code : Nat) : Sign :=
  if code.isValidChar then char (.ofNat code) else half code

def isHexDigit (c : Char) : Bool :=
  c.isDigit || ('a' ≤ c && c ≤ 'f') || ('A' ≤ c && c ≤ 'F')

def hexCode? (digits : List Char) : Option Nat :=
  if digits.length = 4 ∧ digits.all isHexDigit = true then
    some (digits.foldl
      (fun code c => 16 * code + if c.isDigit then c.toNat - 48 else c.toLower.toNat - 87) 0)
  else none

/-- The text with its Unicode escapes read, which comes before everything else.  A backslash right
behind another begins no escape. -/
def translate : List Char → List Sign
  | [] => []
  | '\\' :: '\\' :: rest => .char '\\' :: .char '\\' :: translate rest
  | '\\' :: 'u' :: rest =>
    match hexCode? ((rest.dropWhile (· = 'u')).take 4) with
    | some code => .ofCode code :: translate ((rest.dropWhile (· = 'u')).drop 4)
    | none => .unreadable :: translate rest
  | c :: rest => .char c :: translate rest
termination_by text => text.length
decreasing_by
  · simp only [List.length_cons]
    omega
  · have shorter := (List.dropWhile_suffix (l := rest) (· = 'u')).length_le
    simp only [List.length_cons, List.length_drop]
    omega
  · simp only [List.length_cons]
    omega
  · simp only [List.length_cons]
    omega

theorem translate_cons {c : Char} (noBackslash : c ≠ '\\') (rest : List Char) :
    translate (c :: rest) = .char c :: translate rest := by
  rw [translate]
  · rintro _ rfl
    contradiction
  · rintro _ rfl
    contradiction

theorem translate_append {text : List Char} (plain : '\\' ∉ text) (rest : List Char) :
    translate (text ++ rest) = text.map .char ++ translate rest := by
  induction text with
  | nil => rfl
  | cons c text inductionHypothesis =>
    obtain ⟨other, plain⟩ := List.ne_and_not_mem_of_not_mem_cons plain
    rw [List.cons_append, translate_cons other.symm, inductionHypothesis plain]
    rfl

theorem translate_eq_map {text : List Char} (plain : '\\' ∉ text) :
    translate text = text.map .char := by
  have whole := translate_append plain []
  rwa [List.append_nil, translate, List.append_nil] at whole

/-- Neither a backslash nor a character of an escape behind one. -/
def isApart (c : Char) : Bool := c != '\\' && c != 'u' && !isHexDigit c

theorem isApart_iff {c : Char} :
    isApart c = true ↔ c ≠ '\\' ∧ c ≠ 'u' ∧ isHexDigit c = false := by
  simp [isApart, and_assoc]

/-- Where a digit is missing, none is taken from behind a character that is apart. -/
theorem hexCode?_take_append {c : Char} (noDigit : isHexDigit c = false) (digits rest : List Char) :
    hexCode? ((digits ++ c :: rest).take 4) = hexCode? (digits.take 4) := by
  by_cases enough : 4 ≤ digits.length
  · rw [List.take_append_of_le_length enough]
  · have among : c ∈ (digits ++ c :: rest).take 4 := by
      obtain ⟨room, left⟩ := Nat.exists_eq_add_of_lt (Nat.lt_of_not_le enough)
      rw [left, Nat.add_assoc, List.take_length_add_append, List.take_succ_cons]
      exact List.mem_append_right digits List.mem_cons_self
    have noCode : ¬ ((digits ++ c :: rest).take 4).all isHexDigit = true := by
      intro all
      have digit := List.all_eq_true.mp all c among
      rw [noDigit] at digit
      contradiction
    have tooFew : (digits.take 4).length ≠ 4 := by
      rw [List.length_take]
      omega
    rw [hexCode?, hexCode?, if_neg fun both => noCode both.2, if_neg fun both => tooFew both.1]

theorem length_le_of_hexCode? {digits : List Char} {code : Nat}
    (spelled : hexCode? (digits.take 4) = some code) : 4 ≤ digits.length := by
  unfold hexCode? at spelled
  split at spelled
  next both =>
    rw [List.length_take] at both
    omega
  next => contradiction

theorem translate_append_cons {c : Char} (apart : isApart c = true) (text rest : List Char) :
    translate (text ++ c :: rest) = translate text ++ .char c :: translate rest := by
  obtain ⟨noBackslash, noU, noDigit⟩ := isApart_iff.mp apart
  have digits_append (digits : List Char) : (digits ++ c :: rest).dropWhile (· = 'u') =
      digits.dropWhile (· = 'u') ++ c :: rest := by
    rw [List.dropWhile_append]
    split
    next none =>
      rw [List.isEmpty_iff.mp none]
      simp [noU]
    next => rfl
  induction text using translate.induct with
  | case1 => rw [List.nil_append, translate_cons noBackslash, translate, List.nil_append]
  | case2 text inductionHypothesis =>
    simp only [List.cons_append, translate, inductionHypothesis]
  | case3 text code spelled inductionHypothesis =>
    have enough := length_le_of_hexCode? spelled
    have spelledToo := (hexCode?_take_append noDigit (text.dropWhile (· = 'u')) rest).trans spelled
    rw [List.cons_append, List.cons_append, translate, digits_append, spelledToo,
      List.drop_append_of_le_length enough, translate, spelled]
    simp only [inductionHypothesis, List.cons_append]
  | case4 text broken inductionHypothesis =>
    have brokenToo := (hexCode?_take_append noDigit (text.dropWhile (· = 'u')) rest).trans broken
    rw [List.cons_append, List.cons_append, translate, digits_append, brokenToo, translate, broken]
    simp only [inductionHypothesis, List.cons_append]
  | case5 other text noPair noEscape inductionHypothesis =>
    rw [List.cons_append, translate, translate, inductionHypothesis, List.cons_append]
    · exact noPair
    · exact noEscape
    · intro later backslash same
      cases text with
      | nil =>
        obtain ⟨rfl, _⟩ := List.cons.inj same
        contradiction
      | cons next text =>
        obtain ⟨rfl, _⟩ := List.cons.inj same
        exact noPair text backslash rfl
    · intro later backslash same
      cases text with
      | nil => exact noU (List.cons.inj same).1
      | cons next text =>
        obtain ⟨rfl, _⟩ := List.cons.inj same
        exact noEscape text backslash rfl

example : translate "\\uu0041\\\\u0041 \\ud83d\\u41".toList =
    [.char 'A', .char '\\', .char '\\', .char 'u', .char '0', .char '0', .char '4', .char '1',
      .char ' ', .half 0xd83d, .unreadable, .char '4', .char '1'] := by decide +kernel

end Scaffold.Java
