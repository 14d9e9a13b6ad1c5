import Scaffold.Proofs.Moment.Text
import Scaffold.Proofs.Role.Alphabet
import Scaffold.Proofs.Text.Comment
import Scaffold.Proofs.Text.Literal
import Scaffold.Source.File

/-!
Where the comment in front of a class ends.  Spaces, line breaks and a tag stand between its values
and the fixed text, so that no mark that ends a comment is made of characters from both.
-/

namespace Scaffold

namespace Javadoc

open Text Java

def values (className : String) (table : Table) (author generatedAt : String) : List String :=
  [className, table.comment, table.name, author, generatedAt]

/-- The fixed text between the values, with `front` before and `back` behind them. -/
def fill (front : List Char) (className : String) (table : Table) (author generatedAt : String)
    (back : List Char) : List Char :=
  front ++ ' ' :: (className.toList ++ ' ' :: (['-'] ++ ' ' :: (table.comment.toList ++
    '\n' :: (" *\n * <p>table_name:".toList ++ ' ' :: (table.name.toList ++
      '<' :: ("/p>\n *\n * @author".toList ++ ' ' :: (author.toList ++
        '\n' :: (" * @date".toList ++ ' ' :: (generatedAt.toList ++ '\n' :: back)))))))))

variable (className : String) (table : Table) (author generatedAt : String)

theorem toList_header :
    (header className table author generatedAt).toList =
      fill "/**\n *".toList className table author generatedAt " */".toList := by
  have opens : "/**\n * ".toList = "/**\n *".toList ++ [' '] := by decide
  have dash : " - ".toList = ' ' :: (['-'] ++ [' ']) := by decide
  have named : "\n *\n * <p>table_name: ".toList =
      '\n' :: (" *\n * <p>table_name:".toList ++ [' ']) := by decide
  have by_ : "</p>\n *\n * @author ".toList = '<' :: ("/p>\n *\n * @author".toList ++ [' ']) := by
    decide
  have date : "\n * @date ".toList = '\n' :: (" * @date".toList ++ [' ']) := by decide
  have closes : "\n */".toList = '\n' :: " */".toList := by decide
  unfold header fill
  simp only [String.toList_append, opens, dash, named, by_, date, closes, List.append_assoc,
    List.cons_append, List.nil_append]

theorem toList_header_eq_comment :
    (header className table author generatedAt).toList =
      '/' :: '*' :: (fill "*\n *".toList className table author generatedAt [] ++
        ' ' :: commentEnd) := by
  have opens : "/**\n *".toList = '/' :: '*' :: "*\n *".toList := by decide
  have closes : " */".toList = ' ' :: commentEnd := by decide
  rw [toList_header, opens, closes]
  unfold fill
  simp only [List.append_assoc, List.cons_append, List.nil_append]

theorem occurrences_fill (front back : List Char) :
    occurrences commentEnd (fill front className table author generatedAt back) =
      occurrences commentEnd front + occurrences commentEnd back +
        ((values className table author generatedAt).map
          fun value => occurrences commentEnd value.toList).sum := by
  have filled : commentEnd ≠ [] := by decide
  have blank : ' ' ∉ commentEnd := by decide
  have tag : '<' ∉ commentEnd := by decide
  have break_ : '\n' ∉ commentEnd := by decide
  have dash : occurrences commentEnd ['-'] = 0 := by decide
  have named : occurrences commentEnd " *\n * <p>table_name:".toList = 0 := by decide
  have by_ : occurrences commentEnd "/p>\n *\n * @author".toList = 0 := by decide
  have date : occurrences commentEnd " * @date".toList = 0 := by decide
  unfold fill values
  simp only [occurrences_append_cons filled blank, occurrences_append_cons filled tag,
    occurrences_append_cons filled break_, dash, named, by_, date, List.map_cons, List.map_nil,
    List.sum_cons, List.sum_nil]
  omega

theorem occurrences_header :
    occurrences commentEnd (header className table author generatedAt).toList =
      1 + ((values className table author generatedAt).map
        fun value => occurrences commentEnd value.toList).sum := by
  have opens : occurrences commentEnd "/**\n *".toList = 0 := by decide
  have closes : occurrences commentEnd " */".toList = 1 := by decide
  rw [toList_header, occurrences_fill, opens, closes, Nat.zero_add]

theorem keepsComment_translate_append_cons_iff {c : Char} (apart : isApart c = true)
    (clean : c ∉ commentEnd) (front back : List Char) :
    KeepsComment (Java.translate (front ++ c :: back)) ↔
      KeepsComment (Java.translate front) ∧ KeepsComment (Java.translate back) := by
  rw [translate_append_cons apart, keepsComment_append_cons_iff clean]

theorem keepsComment_translate_fill_iff :
    KeepsComment (Java.translate (fill "*\n *".toList className table author generatedAt [])) ↔
      ∀ value ∈ values className table author generatedAt,
        KeepsComment (Java.translate value.toList) := by
  have blank (front back : List Char) :=
    @keepsComment_translate_append_cons_iff ' ' (by decide) (by decide) front back
  have tag (front back : List Char) :=
    @keepsComment_translate_append_cons_iff '<' (by decide) (by decide) front back
  have break_ (front back : List Char) :=
    @keepsComment_translate_append_cons_iff '\n' (by decide) (by decide) front back
  have opens : KeepsComment (Java.translate "*\n *".toList) :=
    (keepsComment_translate_iff (by decide)).mpr (by decide)
  have dash : KeepsComment (Java.translate ['-']) :=
    (keepsComment_translate_iff (by decide)).mpr (by decide)
  have named : KeepsComment (Java.translate " *\n * <p>table_name:".toList) :=
    (keepsComment_translate_iff (by decide)).mpr (by decide)
  have by_ : KeepsComment (Java.translate "/p>\n *\n * @author".toList) :=
    (keepsComment_translate_iff (by decide)).mpr (by decide)
  have date : KeepsComment (Java.translate " * @date".toList) :=
    (keepsComment_translate_iff (by decide)).mpr (by decide)
  have nothing : KeepsComment (Java.translate []) :=
    (keepsComment_translate_iff (by decide)).mpr (by decide)
  unfold fill values
  simp only [blank, tag, break_, opens, dash, named, by_, date, nothing, List.forall_mem_cons,
    true_and, and_true, List.not_mem_nil, false_imp_iff, implies_true]

/-- The comment goes on to the end when each value keeps it. -/
theorem skipComment?_header_iff :
    skipComment? (header className table author generatedAt).toList = some [] ↔
      ∀ value ∈ values className table author generatedAt,
        KeepsComment (Java.translate value.toList) := by
  have closes : Java.translate commentEnd = commentEnd.map Sign.char := translate_eq_map (by decide)
  have whole : Java.translate (header className table author generatedAt).toList =
      .char '/' :: .char '*' ::
        (Java.translate (fill "*\n *".toList className table author generatedAt []) ++
          [.char ' '] ++ commentEnd.map Sign.char) := by
    rw [toList_header_eq_comment, translate_cons (by decide), translate_cons (by decide),
      translate_append_cons (by decide), closes, List.append_assoc, List.singleton_append]
  rw [skipComment?, whole]
  simp only
  rw [afterComment?_append_commentEnd_iff, keepsComment_append_cons_iff (by decide),
    keepsComment_translate_fill_iff]
  exact and_iff_left keepsComment_nil

theorem commentEnd_suffix_header :
    commentEnd <:+ (header className table author generatedAt).toList := by
  rw [toList_header_eq_comment]
  refine ⟨'/' :: '*' :: (fill "*\n *".toList className table author generatedAt [] ++ [' ']), ?_⟩
  simp only [List.cons_append, List.append_assoc, List.nil_append]

end Javadoc

namespace Subject

open Text Java

variable {subject : Subject} {moment : Moment}

theorem keepsComment_tableName (named : Table.IsName subject.table.name) :
    occurrences commentEnd subject.table.name.toList = 0 ∧
      KeepsComment (Java.translate subject.table.name.toList) := by
  apply occurrences_eq_zero_and_keepsComment
  · intro among
    exact absurd (named.2 '*' among) (by decide)
  · intro among
    exact absurd (named.2 '\\' among) (by decide)

theorem keepsComment_className (named : Table.IsName subject.table.name) (role : Role) :
    occurrences commentEnd (subject.className role).toList = 0 ∧
      KeepsComment (Java.translate (subject.className role).toList) := by
  apply occurrences_eq_zero_and_keepsComment
  · intro among
    exact absurd (role.isClassChar_of_mem_className named among) (by decide)
  · intro among
    exact absurd (role.isClassChar_of_mem_className named among) (by decide)

theorem keepsComment_momentText (moment : Moment) :
    occurrences commentEnd moment.text.toList = 0 ∧
      KeepsComment (Java.translate moment.text.toList) := by
  apply occurrences_eq_zero_and_keepsComment
  · intro among
    exact absurd (List.all_eq_true.mp moment.all_isTextChar_text '*' among) (by decide)
  · intro among
    exact absurd (List.all_eq_true.mp moment.all_isTextChar_text '\\' among) (by decide)

/-- The table's comment and the author decide alone where the comment ends. -/
theorem javadoc_ends (named : Table.IsName subject.table.name)
    (generated : subject.generatedAt = moment.text) (role : Role) :
    occurrences commentEnd (subject.javadoc role).toList =
        1 + (occurrences commentEnd subject.table.comment.toList +
          occurrences commentEnd subject.settings.author.toList) ∧
      (skipComment? (subject.javadoc role).toList = some [] ↔
        KeepsComment (Java.translate subject.table.comment.toList) ∧
          KeepsComment (Java.translate subject.settings.author.toList)) := by
  obtain ⟨tableCount, tableKeeps⟩ := keepsComment_tableName named
  obtain ⟨classCount, classKeeps⟩ := keepsComment_className named role
  obtain ⟨momentCount, momentKeeps⟩ := keepsComment_momentText moment
  unfold javadoc
  rw [Javadoc.occurrences_header, Javadoc.skipComment?_header_iff, generated]
  simp only [Javadoc.values, List.map_cons, List.map_nil, List.sum_cons, List.sum_nil,
    tableCount, classCount, momentCount, Nat.zero_add, Nat.add_zero, List.forall_mem_cons,
    tableKeeps, classKeeps, momentKeeps, true_and, and_true, List.not_mem_nil, false_imp_iff,
    implies_true]

/-- A header holds the mark that ends it once, and as often as its values do; it is one comment
where each of them keeps it, with its escapes read.  For a table whose name needs no quoting this is
up to the table's comment and the author. -/
theorem javadoc_ends_once :
    (∀ (className : String) (table : Table) (author generatedAt : String),
      let text := (Javadoc.header className table author generatedAt).toList
      let values := [className, table.comment, table.name, author, generatedAt]
      occurrences commentEnd text =
        1 + (values.map fun value => occurrences commentEnd value.toList).sum ∧
      commentEnd <:+ text ∧
      (skipComment? text = some [] ↔
        ∀ value ∈ values, KeepsComment (Java.translate value.toList))) ∧
    (∀ text : List Char, '\\' ∉ text →
      (KeepsComment (Java.translate text) ↔ ¬ commentEnd <:+: text)) ∧
    ∀ (subject : Subject) (moment : Moment) (role : Role), Table.IsName subject.table.name →
      subject.generatedAt = moment.text →
      let text := (subject.javadoc role).toList
      let comment := subject.table.comment.toList
      let author := subject.settings.author.toList
      occurrences commentEnd text =
        1 + (occurrences commentEnd comment + occurrences commentEnd author) ∧
      (skipComment? text = some [] ↔
        KeepsComment (Java.translate comment) ∧ KeepsComment (Java.translate author)) := by
  refine ⟨?_, fun text plain => keepsComment_translate_iff plain, ?_⟩
  · intro className table author generatedAt text values
    exact ⟨Javadoc.occurrences_header className table author generatedAt,
      Javadoc.commentEnd_suffix_header className table author generatedAt,
      Javadoc.skipComment?_header_iff className table author generatedAt⟩
  · intro subject moment role named generated
    exact javadoc_ends named generated role

/-- An escape ends the comment where no value holds the mark itself. -/
theorem javadoc_ends_at_escape :
    let table : Table := { name := "tb_order", comment := "x \\u002a/ class X \x7b\x7d /* y" }
    let text := (Javadoc.header "OrderPo" table "me" "2024-01-02 03:04:05").toList
    let values := ["OrderPo", table.comment, table.name, "me", "2024-01-02 03:04:05"]
    ¬ (skipComment? text = some [] ↔ ∀ value ∈ values, ¬ commentEnd <:+: value.toList) := by
  intro table text values same
  have markless : (values.all fun value => !occurs commentEnd value.toList) = true := by decide
  have closed : skipComment? text = some [] := by
    apply same.mpr
    intro value among occursHere
    have none := List.all_eq_true.mp markless value among
    rw [occurs_iff.mpr occursHere] at none
    contradiction
  have ends : commentEnd.map Sign.char <:+: Java.translate table.comment.toList :=
    ⟨"x ".toList.map .char, " class X \x7b\x7d /* y".toList.map .char, by decide +kernel⟩
  have keeps := (Javadoc.skipComment?_header_iff _ _ _ _).mp closed table.comment (by decide)
  exact keeps.2 ends

theorem javadoc_ends_early :
    let subject : Subject := {
      table := { name := "tb_order", comment := "/* open */ orders *" }
      fields := []
      settings := { author := "/me" }
      generatedAt := Moment.text ⟨2016, 12, 31, 23, 59, 59, 1000000000⟩ }
    Table.IsName subject.table.name ∧
      occurrences commentEnd (subject.javadoc .po).toList = 2 ∧
      skipComment? (subject.javadoc .po).toList ≠ some [] := by
  intro subject
  have named : Table.IsName subject.table.name := by decide
  have comment : occurrences commentEnd subject.table.comment.toList = 1 := by decide
  have author : occurrences commentEnd subject.settings.author.toList = 0 := by decide
  have plain : '\\' ∉ subject.table.comment.toList := by decide
  have mark : commentEnd <:+: subject.table.comment.toList :=
    ⟨"/* open ".toList, " orders *".toList, by decide⟩
  obtain ⟨-, keeps_iff, ofSubject⟩ := javadoc_ends_once
  obtain ⟨counted, ends⟩ := ofSubject subject _ .po named rfl
  refine ⟨named, ?_, ?_⟩
  · rw [counted, comment, author]
  · intro closed
    exact (keeps_iff _ plain).mp (ends.mp closed).1 mark

end Subject

end Scaffold
