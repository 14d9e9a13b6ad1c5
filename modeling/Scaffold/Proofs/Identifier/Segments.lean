import Scaffold.Proofs.Role.Alphabet
import Scaffold.Proofs.Text.Case
import Scaffold.Proofs.Text.Lines

/-!
Camel case by the segments of a name.  Reading a name with an underscore still to be made up for is
reading it afresh and raising the first letter; so each segment but the first one is capitalized,
and nothing else changes but that the underscores are gone.
-/

namespace Scaffold.Identifier

theorem capitalChars_capitalChars (chars : List Char) :
    capitalChars (capitalChars chars) = capitalChars chars := by
  cases chars with
  | nil => rfl
  | cons c rest => simp [capitalChars]

theorem camelChars_append (raised : Bool) (front back : List Char) :
    camelChars raised (front ++ '_' :: back) = camelChars raised front ++ camelChars true back := by
  induction front generalizing raised with
  | nil => simp [camelChars]
  | cons c rest inductionHypothesis =>
    by_cases underscore : c = '_'
    · simp [camelChars, underscore, inductionHypothesis]
    · simp [camelChars, underscore, inductionHypothesis]

theorem camelChars_eq_self {chars : List Char} (clean : '_' ∉ chars) :
    camelChars false chars = chars := by
  induction chars with
  | nil => rfl
  | cons c rest inductionHypothesis =>
    obtain ⟨other, later⟩ := List.ne_and_not_mem_of_not_mem_cons clean
    simp [camelChars, other.symm, inductionHypothesis later]

theorem capitalChars_camelChars_true (chars : List Char) :
    capitalChars (camelChars true chars) = camelChars true chars := by
  induction chars with
  | nil => rfl
  | cons c rest inductionHypothesis =>
    by_cases underscore : c = '_'
    · simp [camelChars, underscore, inductionHypothesis]
    · simp [camelChars, underscore, capitalChars]

/-- What an underscore in front leaves to do is to raise the first letter of what remains. -/
theorem camelChars_true (chars : List Char) :
    camelChars true chars = capitalChars (camelChars false chars) := by
  cases chars with
  | nil => rfl
  | cons c rest =>
    by_cases underscore : c = '_'
    · simp [camelChars, underscore, capitalChars_camelChars_true]
    · simp [camelChars, underscore, capitalChars]

theorem capitalize_capitalize (name : String) : capitalize (capitalize name) = capitalize name := by
  rw [← String.toList_inj]
  simp [capitalChars_capitalChars]

theorem capitalize_append {front back : String} (capital : capitalize back = back) :
    capitalize (front ++ back) = capitalize front ++ back := by
  have chars : capitalChars back.toList = back.toList := by
    rw [← toList_capitalize, capital]
  rw [← String.toList_inj]
  simp [capitalChars_append chars]

theorem capitalize_join (parts : List String) :
    capitalize (String.join (parts.map capitalize)) = String.join (parts.map capitalize) := by
  induction parts with
  | nil => rfl
  | cons first rest inductionHypothesis =>
    rw [List.map_cons, String.join_cons, capitalize_append inductionHypothesis,
      capitalize_capitalize]

theorem camelCase_append (front back : String) :
    camelCase (front ++ "_" ++ back) = camelCase front ++ capitalize (camelCase back) := by
  rw [← String.toList_inj]
  simp [camelChars_append, camelChars_true]

theorem camelCase_eq_self {name : String} (clean : '_' ∉ name.toList) : camelCase name = name := by
  rw [← String.toList_inj, toList_camelCase, camelChars_eq_self clean]

theorem underscore_notMem_camelCase (name : String) : '_' ∉ (camelCase name).toList := by
  intro among
  rw [toList_camelCase] at among
  obtain ⟨source, _, other, raised⟩ := mem_camelChars among
  exact other (raised.eq_of_isAlpha_eq_false (by decide)).symm

theorem IsRaised.sameLetter {source c : Char} (raised : IsRaised source c) :
    Text.SameLetter source c := by
  rcases raised with same | capital
  · exact .inl same
  · exact .inr (.inl capital)

theorem sameButCase_camelCase (name : String) :
    Text.SameButCase (.ofList (name.toList.filter (· ≠ '_'))) (camelCase name) := by
  unfold Text.SameButCase
  rw [String.toList_ofList, toList_camelCase]
  exact (forall₂_camelChars false name.toList).imp fun _ _ => IsRaised.sameLetter

/-- The parts of a name between its underscores; any of them may be empty. -/
def segments (name : String) : List String := Text.split '_' name

theorem intercalate_segments (name : String) : "_".intercalate (segments name) = name :=
  Text.intercalate_split '_' name

theorem segments_append (front back : String) :
    segments (front ++ "_" ++ back) = segments front ++ segments back :=
  Text.split_append '_' front back

theorem camelCase_intercalate {first : String} {rest : List String}
    (clean : ∀ part ∈ first :: rest, '_' ∉ part.toList) :
    camelCase ("_".intercalate (first :: rest)) = first ++ String.join (rest.map capitalize) := by
  induction rest generalizing first with
  | nil =>
    have own : '_' ∉ first.toList := clean first (by simp)
    simp [camelCase_eq_self own]
  | cons second rest inductionHypothesis =>
    obtain ⟨own, later⟩ := List.forall_mem_cons.mp clean
    -- The capital goes to the second segment alone, for those behind it have theirs already.
    rw [String.intercalate_cons_cons, camelCase_append, camelCase_eq_self own,
      inductionHypothesis later,
      capitalize_append (capitalize_join rest), List.map_cons, String.join_cons]

theorem camelCase_of_segments {name first : String} {rest : List String}
    (parts : segments name = first :: rest) :
    camelCase name = first ++ String.join (rest.map capitalize) := by
  have whole : "_".intercalate (first :: rest) = name := parts ▸ intercalate_segments name
  have clean : ∀ part ∈ first :: rest, '_' ∉ part.toList := by
    intro part among
    exact Text.notMem_of_mem_split (parts ▸ among : part ∈ segments name)
  rw [← whole, camelCase_intercalate clean]

theorem exists_segments (name : String) : ∃ first rest, segments name = first :: rest :=
  List.exists_cons_of_ne_nil (Text.split_ne_nil '_' name)

theorem capitalize_camelCase (name : String) :
    capitalize (camelCase name) = String.join ((segments name).map capitalize) := by
  obtain ⟨first, rest, parts⟩ := exists_segments name
  rw [camelCase_of_segments parts, capitalize_append (capitalize_join rest), parts, List.map_cons,
    String.join_cons]

/-- A name in camel case is its first segment with the others behind it, each with a capital.
Its characters are those of the name, without the underscores, up to the case of letters.  The
names of classes are made of the segments of a table's name in the same way. -/
theorem camelCase_joins_segments :
    (∀ name : String, ∃ first rest, segments name = first :: rest ∧
      camelCase name = first ++ String.join (rest.map capitalize)) ∧
    (∀ front back : String,
      camelCase (front ++ "_" ++ back) = camelCase front ++ capitalize (camelCase back)) ∧
    (∀ name : String, '_' ∉ (camelCase name).toList ∧
      camelCase (camelCase name) = camelCase name ∧
      Text.SameButCase (.ofList (name.toList.filter (· ≠ '_'))) (camelCase name)) ∧
    ∀ table : String,
      classStem table = String.join ((segments (dropTablePrefix table)).map capitalize) ∧
      ∀ role : Role, role.className table = capitalize (role.memberName table) := by
  refine ⟨fun name => ?_, camelCase_append, fun name => ⟨?_, ?_, ?_⟩, fun table => ⟨?_, ?_⟩⟩
  · obtain ⟨first, rest, parts⟩ := exists_segments name
    exact ⟨first, rest, parts, camelCase_of_segments parts⟩
  · exact underscore_notMem_camelCase name
  · exact camelCase_eq_self (underscore_notMem_camelCase name)
  · exact sameButCase_camelCase name
  · exact capitalize_camelCase (dropTablePrefix table)
  · intro role
    exact (role.capitalize_memberName table).symm

end Scaffold.Identifier
