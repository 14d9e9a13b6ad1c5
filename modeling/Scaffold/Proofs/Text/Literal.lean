import Scaffold.Proofs.Text.Escapes

/-!
Quoted text as its readers take it: literals and names of SQL statements, and string literals of
Java.  Each reader starts behind the opening quote and gives the text that is meant with what
follows the closing quote.  Text without quotes and escapes is read as it stands.
-/

namespace Scaffold.Sql

/-- What a backslash and a character stand for in a literal.  Before a wildcard of patterns the
backslash stays. -/
def escaped (c : Char) : List Char :=
  match c with
  | '0' => ['\x00']
  | 'b' => ['\x08']
  | 'n' => ['\n']
  | 'r' => ['\r']
  | 't' => ['\t']
  | 'Z' => ['\x1a']
  | '%' => ['\\', '%']
  | '_' => ['\\', '_']
  | other => [other]

/-- Reads up to the closing quote.  A quote written twice stands for one.  Backslashes escape in
literals, unless the server is set otherwise, and never in names. -/
def readQuoted (quote : Char) (escapes : Bool) : List Char → Option (List Char × List Char)
  | [] => none
  | [c] => if c = quote then some ([], []) else none
  | c :: next :: rest =>
    if c = quote ∧ next = quote then
      (readQuoted quote escapes rest).map (Prod.map (quote :: ·) id)
    else if c = quote then some ([], next :: rest)
    else if escapes ∧ c = '\\' then
      (readQuoted quote escapes rest).map (Prod.map (escaped next ++ ·) id)
    else (readQuoted quote escapes (next :: rest)).map (Prod.map (c :: ·) id)

theorem readQuoted_quote {quote : Char} (escapes : Bool) {rest : List Char}
    (single : rest.head? ≠ some quote) :
    readQuoted quote escapes (quote :: rest) = some ([], rest) := by
  cases rest with
  | nil => simp [readQuoted]
  | cons next rest =>
    have other : next ≠ quote := by simpa using single
    simp [readQuoted, other]

theorem readQuoted_cons {quote c : Char} {escapes : Bool} {rest : List Char} (filled : rest ≠ [])
    (noQuote : c ≠ quote) (noBackslash : c ≠ '\\') :
    readQuoted quote escapes (c :: rest) =
      (readQuoted quote escapes rest).map (Prod.map (c :: ·) id) := by
  cases rest with
  | nil => contradiction
  | cons next rest => simp [readQuoted, noQuote, noBackslash]

theorem readQuoted_append {quote : Char} (escapes : Bool) {text rest : List Char}
    (plain : ∀ c ∈ text, c ≠ quote ∧ c ≠ '\\') (single : rest.head? ≠ some quote) :
    readQuoted quote escapes (text ++ quote :: rest) = some (text, rest) := by
  induction text with
  | nil => exact readQuoted_quote escapes single
  | cons c text inductionHypothesis =>
    rw [List.forall_mem_cons] at plain
    rw [List.cons_append, readQuoted_cons (by simp) plain.1.1 plain.1.2,
      inductionHypothesis plain.2]
    rfl

example : readQuoted '\x27' true "it\x27\x27s \\\x27so\\\x27, he said\x27 OR 1".toList =
    some ("it\x27s \x27so\x27, he said".toList, " OR 1".toList) := by decide

end Scaffold.Sql

namespace Scaffold.Java

def marks : List (Char × Char) := [
  ('b', '\x08'), ('s', ' '), ('t', '\t'), ('n', '\n'), ('f', '\x0c'), ('r', '\r'),
  ('"', '"'), ('\x27', '\x27'), ('\\', '\\')]

def octalDigit? (sign : Sign) : Option Nat :=
  sign.char?.bind fun c => if '0' ≤ c ∧ c ≤ '7' then some (c.toNat - 48) else none

/-- The octal digits in front: up to three, or two when the first is above three. -/
def octalDigits (text : List Sign) : List Nat :=
  let digits := (((text.take 3).map octalDigit?).takeWhile Option.isSome).reduceOption
  if digits.head?.all (· ≤ 3) then digits else digits.take 2

/-- What stands behind a backslash: the character that is meant, and the rest. -/
def escape? (text : List Sign) : Option (Char × List Sign) :=
  match (text.head?.bind Sign.char?).bind (List.lookup · marks), octalDigits text with
  | some meant, _ => some (meant, text.drop 1)
  | none, [] => none
  | none, digits =>
    some (.ofNat (digits.foldl (fun code digit => 8 * code + digit) 0), text.drop digits.length)

theorem length_le_of_escape? {text rest : List Sign} {meant : Char}
    (read : escape? text = some (meant, rest)) : rest.length ≤ text.length := by
  unfold escape? at read
  split at read
  next =>
    obtain ⟨_, rfl⟩ := Prod.mk.inj (Option.some.inj read)
    exact (List.drop_suffix _ text).length_le
  next => contradiction
  next =>
    obtain ⟨_, rfl⟩ := Prod.mk.inj (Option.some.inj read)
    exact (List.drop_suffix _ text).length_le

/-- Reads up to the closing quote, which has to stand on the same line. -/
def readString : List Sign → Option (List Char × List Sign)
  | .char c :: rest =>
    if c = '"' then some ([], rest)
    else if c = '\n' ∨ c = '\r' then none
    else if c = '\\' then
      match _read : escape? rest with
      | none => none
      | some (meant, behind) => (readString behind).map (Prod.map (meant :: ·) id)
    else (readString rest).map (Prod.map (c :: ·) id)
  | _ => none
termination_by text => text.length
decreasing_by
  · exact Nat.lt_succ_of_le (length_le_of_escape? _read)
  · exact Nat.lt_succ_self _

theorem readString_append {text : List Char} {rest : List Sign}
    (plain : ∀ c ∈ text, c ≠ '"' ∧ c ≠ '\n' ∧ c ≠ '\r' ∧ c ≠ '\\') :
    readString (text.map .char ++ .char '"' :: rest) = some (text, rest) := by
  induction text with
  | nil => simp [readString]
  | cons c text inductionHypothesis =>
    rw [List.forall_mem_cons] at plain
    obtain ⟨⟨noQuote, noFeed, noReturn, noBackslash⟩, plain⟩ := plain
    have sameLine : ¬ (c = '\n' ∨ c = '\r') := by simp [noFeed, noReturn]
    rw [List.map_cons, List.cons_append, readString, if_neg noQuote, if_neg sameLine,
      if_neg noBackslash, inductionHypothesis plain]
    rfl

def readLiteral (text : List Char) : Option (List Char × List Sign) :=
  readString (translate text)

theorem readLiteral_append {text : List Char}
    (plain : ∀ c ∈ text, c ≠ '"' ∧ c ≠ '\n' ∧ c ≠ '\r' ∧ c ≠ '\\') (rest : List Char) :
    readLiteral (text ++ '"' :: rest) = some (text, translate rest) := by
  have noBackslash : '\\' ∉ text := fun among => (plain '\\' among).2.2.2 rfl
  have quote : translate ('"' :: rest) = .char '"' :: translate rest :=
    translate_cons (by decide) rest
  rw [readLiteral, translate_append noBackslash, quote]
  exact readString_append plain

example : readLiteral "\\u0041\\t\\\\u0041\\7\\1234\\u0022;".toList =
    some ("A\t\\u0041\x07S4".toList, [.char ';']) := by decide +kernel

end Scaffold.Java
