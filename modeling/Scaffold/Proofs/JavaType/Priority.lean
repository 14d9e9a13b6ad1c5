import Scaffold.JavaType
import Scaffold.Proofs.Text.Case

/-!
Which rule decides a column type that is put together from parts.  The words of rules are made of
letters, so none reaches across another character: the rule of the whole is the first of those of
its parts, and more text can only make an earlier rule decide.  What follows the name of a type and
holds no word leaves the Java type as it is.
-/

namespace Scaffold.JavaType

/-- So many rules in front are passed over. -/
theorem le_ruleIndex_iff {sqlType : String} {count : Nat} :
    count ≤ ruleIndex sqlType ↔
      count ≤ rules.length ∧ ∀ rule ∈ rules.take count, rule.accepts sqlType = false := by
  unfold ruleIndex
  induction rules generalizing count with
  | nil => simp
  | cons rule rest inductionHypothesis =>
    cases count with
    | zero => simp
    | succ count =>
      cases accepted : rule.accepts sqlType with
      | true => simp [List.findIdx_cons, accepted]
      | false => simp [List.findIdx_cons, accepted, inductionHypothesis]

theorem ruleIndex_le_length (sqlType : String) : ruleIndex sqlType ≤ rules.length :=
  List.findIdx_le_length

theorem ofSqlType_eq_getD (sqlType : String) :
    ofSqlType sqlType = (rules[ruleIndex sqlType]?.map (·.type)).getD string := by
  unfold ofSqlType
  cases rules[ruleIndex sqlType]? with
  | none => rfl
  | some rule => rfl

theorem ofSqlType_eq_of_ruleIndex_eq {sqlType other : String}
    (same : ruleIndex sqlType = ruleIndex other) : ofSqlType sqlType = ofSqlType other := by
  rw [ofSqlType_eq_getD, ofSqlType_eq_getD, same]

theorem lower_append (front back : String) : lower (front ++ back) = lower front ++ lower back := by
  simp [lower]

theorem lower_push_append (front : String) {c : Char} (noLetter : c.isAlpha = false)
    (back : String) : lower (front.push c ++ back) = lower front ++ c :: lower back := by
  have same : c.toLower = c := by
    apply Char.toLower_eq_of_not_isUpper
    intro capital
    simp [Char.isAlpha, capital] at noLetter
  simp [lower, same]

theorem isLower_of_mem_words {rule : Rule} (known : rule ∈ rules) {word : String}
    (listed : word ∈ rule.words) {c : Char} (among : c ∈ word.toList) : c.isLower = true := by
  have every : rules.all (·.words.all (·.toList.all Char.isLower)) = true := by decide
  simp only [List.all_eq_true] at every
  exact every rule known word listed c among

theorem Rule.accepts_push_append {rule : Rule} (known : rule ∈ rules) (front : String) {c : Char}
    (noLetter : c.isAlpha = false) (back : String) :
    rule.accepts (front.push c ++ back) = (rule.accepts front || rule.accepts back) := by
  have clean {word : String} (listed : word ∈ rule.words) : c ∉ word.toList := by
    intro among
    have small := isLower_of_mem_words known listed among
    simp [Char.isAlpha, small] at noLetter
  rw [Bool.eq_iff_iff, Bool.or_eq_true, accepts_iff, accepts_iff, accepts_iff,
    lower_push_append front noLetter]
  constructor
  · rintro ⟨word, listed, occurs⟩
    rcases (Text.infix_append_cons_iff (clean listed)).mp occurs with before | behind
    · exact .inl ⟨word, listed, before⟩
    · exact .inr ⟨word, listed, behind⟩
  · rintro (⟨word, listed, before⟩ | ⟨word, listed, behind⟩)
    · exact ⟨word, listed, (Text.infix_append_cons_iff (clean listed)).mpr (.inl before)⟩
    · exact ⟨word, listed, (Text.infix_append_cons_iff (clean listed)).mpr (.inr behind)⟩

theorem ruleIndex_push_append (front : String) {c : Char} (noLetter : c.isAlpha = false)
    (back : String) :
    ruleIndex (front.push c ++ back) = min (ruleIndex front) (ruleIndex back) := by
  -- The whole and both of its sides are compared by the rules that they pass over.
  apply eq_of_forall_le_iff
  intro count
  have each : (∀ rule ∈ rules.take count, rule.accepts (front.push c ++ back) = false) ↔
      ∀ rule ∈ rules.take count, rule.accepts front = false ∧ rule.accepts back = false := by
    apply forall₂_congr
    intro rule among
    rw [rule.accepts_push_append (List.mem_of_mem_take among) front noLetter, Bool.or_eq_false_iff]
  rw [le_min_iff, le_ruleIndex_iff, le_ruleIndex_iff, le_ruleIndex_iff, each]
  simp only [forall_and]
  tauto

theorem ruleIndex_le_of_infix {text whole : String} (part : lower text <:+: lower whole) :
    ruleIndex whole ≤ ruleIndex text := by
  apply List.findIdx_le_findIdx
  intro rule _ accepted
  obtain ⟨word, listed, occurs⟩ := Rule.accepts_iff.mp accepted
  exact Rule.accepts_iff.mpr ⟨word, listed, occurs.trans part⟩

theorem ruleIndex_append_le (front text back : String) :
    ruleIndex (front ++ text ++ back) ≤ ruleIndex text := by
  apply ruleIndex_le_of_infix
  rw [lower_append, lower_append]
  exact List.infix_append _ _ _

theorem ruleIndex_eq_of_sameButCase {text other : String} (same : Text.SameButCase text other) :
    ruleIndex text = ruleIndex other := by
  have lowered : lower text = lower other := Text.sameButCase_iff.mp same
  unfold ruleIndex Rule.accepts
  rw [lowered]

theorem ruleIndex_le_of_word {index : Nat} {rule : Rule} (here : rules[index]? = some rule)
    {word text : String} (listed : word ∈ rule.words) (occurs : word.toList <:+: lower text) :
    ruleIndex text ≤ index := by
  by_contra above
  obtain ⟨_, passed⟩ := le_ruleIndex_iff.mp (Nat.lt_of_not_le above)
  have among : rule ∈ rules.take (index + 1) := by
    apply List.mem_of_getElem? (i := index)
    rw [List.getElem?_take_of_lt (Nat.lt_succ_self index), here]
  have accepted : rule.accepts text = true := Rule.accepts_iff.mpr ⟨word, listed, occurs⟩
  rw [passed rule among] at accepted
  contradiction

theorem ruleIndex_empty : ruleIndex "" = rules.length := by decide

def BeginsApart (text : String) : Prop := ∀ c ∈ text.toList.head?, c.isAlpha = false

def EndsApart (text : String) : Prop := ∀ c ∈ text.toList.getLast?, c.isAlpha = false

theorem ruleIndex_append_of_beginsApart (front : String) {back : String}
    (apart : BeginsApart back) :
    ruleIndex (front ++ back) = min (ruleIndex front) (ruleIndex back) := by
  obtain ⟨chars, rfl⟩ : ∃ chars, back = String.ofList chars := ⟨_, String.ofList_toList.symm⟩
  cases chars with
  | nil => simp [ruleIndex_empty, ruleIndex_le_length]
  | cons c rest =>
    have noLetter : c.isAlpha = false := apart c (by simp)
    have moved (before : String) :
        before ++ String.ofList (c :: rest) = before.push c ++ String.ofList rest := by
      simp [← String.toList_inj]
    have own := ruleIndex_push_append "" noLetter (String.ofList rest)
    rw [← moved, String.empty_append, ruleIndex_empty,
      min_eq_right (ruleIndex_le_length _)] at own
    rw [moved, own, ruleIndex_push_append front noLetter]

theorem ruleIndex_append_of_endsApart {front : String} (apart : EndsApart front)
    (back : String) : ruleIndex (front ++ back) = min (ruleIndex front) (ruleIndex back) := by
  obtain ⟨chars, rfl⟩ : ∃ chars, front = String.ofList chars := ⟨_, String.ofList_toList.symm⟩
  rcases List.eq_nil_or_concat chars with rfl | ⟨before, c, rfl⟩
  · simp [ruleIndex_empty, ruleIndex_le_length]
  · have noLetter : c.isAlpha = false := apart c (by simp)
    have moved : String.ofList (before ++ [c]) = (String.ofList before).push c ++ "" := by
      simp
    have own := ruleIndex_push_append (String.ofList before) noLetter ""
    rw [← moved, ruleIndex_empty, min_eq_left (ruleIndex_le_length _)] at own
    rw [List.concat_eq_append, own, moved, String.append_empty, ruleIndex_push_append _ noLetter]

def IsWordless (text : String) : Prop :=
  ∀ rule ∈ rules, ∀ word ∈ rule.words, ¬ word.toList <:+: lower text

theorem isWordless_iff {text : String} : IsWordless text ↔ ruleIndex text = rules.length := by
  have each : IsWordless text ↔ ∀ rule ∈ rules, rule.accepts text = false := by
    apply forall₂_congr
    intro rule _
    rw [← Bool.not_eq_true, Rule.accepts_iff]
    simp only [not_exists, not_and]
  rw [each, ruleIndex, List.findIdx_eq_length]

theorem isWordless_of_noLetter {text : String} (noLetter : ∀ c ∈ text.toList, c.isAlpha = false) :
    IsWordless text := by
  intro rule known word listed occurs
  have filled : word.toList ≠ [] := by
    have every : rules.all (·.words.all (· ≠ "")) = true := by decide
    simp only [List.all_eq_true, decide_eq_true_eq] at every
    simpa using every rule known word listed
  obtain ⟨c, among⟩ := List.exists_mem_of_ne_nil _ filled
  obtain ⟨source, found, rfl⟩ := List.mem_map.mp (occurs.subset among)
  have letter : source.isAlpha = true := by
    have small := isLower_of_mem_words known listed among
    rwa [Char.isLower_toLower_eq_isAlpha] at small
  rw [noLetter source found] at letter
  contradiction

/-- What may follow the name of a type: it is set apart from it and holds no word of a rule. -/
structure IsDecoration (text : String) : Prop where
  apart : BeginsApart text
  wordless : IsWordless text

theorem IsDecoration.ruleIndex_append {text : String} (decorates : IsDecoration text)
    (base : String) : ruleIndex (base ++ text) = ruleIndex base := by
  rw [ruleIndex_append_of_beginsApart base decorates.apart,
    isWordless_iff.mp decorates.wordless, min_eq_left (ruleIndex_le_length base)]

theorem ruleIndex_append_join (base : String) {decorations : List String}
    (each : ∀ text ∈ decorations, IsDecoration text) :
    ruleIndex (base ++ String.join decorations) = ruleIndex base := by
  induction decorations generalizing base with
  | nil => simp
  | cons first rest inductionHypothesis =>
    obtain ⟨own, later⟩ := List.forall_mem_cons.mp each
    rw [String.join_cons, ← String.append_assoc, inductionHypothesis (base ++ first) later,
      own.ruleIndex_append base]

/-- A text that stands apart in another one counts as if it stood alone. -/
theorem ruleIndex_insert {front back : String} (ends : EndsApart front) (begins : BeginsApart back)
    (text : String) :
    ruleIndex (front ++ text ++ back) = min (ruleIndex text) (ruleIndex (front ++ back)) := by
  rw [ruleIndex_append_of_beginsApart _ begins, ruleIndex_append_of_beginsApart _ begins,
    ruleIndex_append_of_endsApart ends, min_comm (ruleIndex front), min_assoc]

inductive IsNumberAttribute : String → Prop where
  | sizes {digits : List Char} : (∀ c ∈ digits, c.isDigit = true ∨ c = ',') →
      IsNumberAttribute ("(" ++ String.ofList digits ++ ")")
  | unsigned : IsNumberAttribute " unsigned"
  | zerofill : IsNumberAttribute " zerofill"

theorem beginsApart_of_head? {text : String} {c : Char} (first : text.toList.head? = some c)
    (noLetter : c.isAlpha = false) : BeginsApart text := by
  intro other same
  rw [first, Option.mem_some_iff] at same
  exact same ▸ noLetter

theorem IsNumberAttribute.isDecoration {text : String} (written : IsNumberAttribute text) :
    IsDecoration text := by
  cases written with
  | sizes each =>
    refine ⟨beginsApart_of_head? (c := '(') (by simp) (by decide), isWordless_of_noLetter ?_⟩
    intro c among
    simp only [String.toList_append, String.toList_ofList, List.mem_append] at among
    rcases among with (opening | inside) | closing
    · rw [List.mem_singleton.mp opening]
      decide
    · rcases each c inside with digit | rfl
      · exact Text.isAlpha_eq_false_of_isDigit digit
      · decide
    · rw [List.mem_singleton.mp closing]
      decide
  | unsigned =>
    exact ⟨beginsApart_of_head? (c := ' ') (by decide) (by decide), isWordless_iff.mpr (by decide)⟩
  | zerofill =>
    exact ⟨beginsApart_of_head? (c := ' ') (by decide) (by decide), isWordless_iff.mpr (by decide)⟩

/-- A character that is no letter parts a text: the first rule of its sides decides.  More text
around, or apart in between, can only make an earlier rule decide, and case makes no difference.
So the attributes of a number type leave its Java type as it is, and a word of a rule brings its
rule to any text. -/
theorem ruleIndex_of_parts :
    (∀ (front back : String) (c : Char), c.isAlpha = false →
      ruleIndex (front.push c ++ back) = min (ruleIndex front) (ruleIndex back)) ∧
    (∀ front text back : String, ruleIndex (front ++ text ++ back) ≤ ruleIndex text) ∧
    (∀ text other : String, Text.SameButCase text other → ruleIndex text = ruleIndex other) ∧
    (∀ (base : String) (decorations : List String), (∀ text ∈ decorations, IsDecoration text) →
      ofSqlType (base ++ String.join decorations) = ofSqlType base) ∧
    (∀ text : String, IsNumberAttribute text → IsDecoration text) ∧
    (∀ (index : Nat) (rule : Rule) (word text : String), rules[index]? = some rule →
      word ∈ rule.words → word.toList <:+: lower text → ruleIndex text ≤ index) ∧
    (∀ front text back : String, EndsApart front → BeginsApart back →
      ruleIndex (front ++ text ++ back) = min (ruleIndex text) (ruleIndex (front ++ back))) ∧
    ∀ text : String, ofSqlType text = (rules[ruleIndex text]?.map (·.type)).getD string := by
  refine ⟨?_, ruleIndex_append_le, ?_, ?_, ?_, ?_, ?_, ofSqlType_eq_getD⟩
  · intro front back c noLetter
    exact ruleIndex_push_append front noLetter back
  · intro text other same
    exact ruleIndex_eq_of_sameButCase same
  · intro base decorations each
    exact ofSqlType_eq_of_ruleIndex_eq (ruleIndex_append_join base each)
  · intro text written
    exact written.isDecoration
  · intro index rule word text here listed occurs
    exact ruleIndex_le_of_word here listed occurs
  · intro front text back ends begins
    exact ruleIndex_insert ends begins text

theorem ruleIndex_of_decimal_and_enum :
    let attributes := ["(10,2)", " unsigned", " zerofill"]
    ((' ').isAlpha = false ∧
      ruleIndex ("date".push ' ' ++ "bit") = min (ruleIndex "date") (ruleIndex "bit")) ∧
    (Text.SameButCase "BigInt" "bigint" ∧ ruleIndex "BigInt" = ruleIndex "bigint") ∧
    (∀ text ∈ attributes, IsNumberAttribute text) ∧
    ofSqlType ("decimal" ++ String.join attributes) = ofSqlType "decimal" ∧
    (EndsApart "enum('" ∧ BeginsApart "','date')") ∧
    ruleIndex ("enum('" ++ "int" ++ "','date')") =
      min (ruleIndex "int") (ruleIndex ("enum('" ++ "','date')")) ∧
    ruleIndex "enum('Int','date')" ≤ 2 := by
  intro attributes
  obtain ⟨parted, _, recased, decorated, decorates, named, inserted, _⟩ := ruleIndex_of_parts
  have alike : Text.SameButCase "BigInt" "bigint" := Text.sameButCase_iff.mpr (by decide)
  have each : ∀ text ∈ attributes, IsNumberAttribute text := by
    have sizes := @IsNumberAttribute.sizes ['1', '0', ',', '2'] (by simp)
    simpa [attributes] using ⟨sizes, .unsigned, .zerofill⟩
  have ends : EndsApart "enum('" := by
    intro c same
    rw [← Option.some.inj same]
    decide
  have begins : BeginsApart "','date')" :=
    beginsApart_of_head? (c := '\x27') (by decide) (by decide)
  refine ⟨⟨by decide, parted _ _ ' ' (by decide)⟩, ⟨alike, recased _ _ alike⟩, each, ?_,
    ⟨ends, begins⟩, inserted _ _ _ ends begins, ?_⟩
  · exact decorated _ _ fun text among => decorates text (each text among)
  · exact named 2 _ "int" _ rfl (by decide) (Text.occurs_iff.mp (by decide))

end Scaffold.JavaType
