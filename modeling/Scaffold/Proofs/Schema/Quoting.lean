import Scaffold.Proofs.Source.Values
import Scaffold.Proofs.Template.Lines
import Scaffold.Proofs.Text.Literal
import Scaffold.Schema

/-!
Where table names are quoted: in the statements sent to a server and in the annotation that ties a
row's class to its table.  Nothing is escaped there.  A name that is not refused holds no quote and
no backslash, so that each reader gives the name back and stops at the quote behind it.
-/

namespace Scaffold

theorem Table.IsName.ne_of_mem {name : String} (named : IsName name) {c mark : Char}
    (among : c ∈ name.toList) (special : ¬ (mark.isAlphanum = true ∨ mark = '_' ∨ mark = '$')) :
    c ≠ mark := by
  rintro rfl
  apply special
  exact named.2 c among

/-- Characters outside of quotes that neither quote anything nor begin a comment. -/
def Sql.isWordChar (c : Char) : Bool :=
  c.isAlpha || c == ' ' || c == '='

/-- The statement is made of words up to a quoted text, which ends it and is read as the name. -/
def Sql.EndsQuoted (quote : Char) (escapes : Bool) (statement name : String) : Prop :=
  ∃ front body, statement.toList = front ++ quote :: body ∧
    front.all isWordChar = true ∧ readQuoted quote escapes body = some (name.toList, [])

theorem Sql.endsQuoted_of_isName {statement name : String} (named : Table.IsName name)
    {quote : Char} (special : ¬ (quote.isAlphanum = true ∨ quote = '_' ∨ quote = '$'))
    {front : List Char} (words : front.all isWordChar = true)
    (spelled : statement.toList = front ++ quote :: (name.toList ++ [quote])) (escapes : Bool) :
    EndsQuoted quote escapes statement name := by
  refine ⟨front, name.toList ++ [quote], spelled, words, ?_⟩
  apply readQuoted_append escapes
  · intro c among
    exact ⟨named.ne_of_mem among special, named.ne_of_mem among (by decide)⟩
  · simp

namespace Schema

theorem endsQuoted_statusStatement {name : String} (named : Table.IsName name) (escapes : Bool) :
    Sql.EndsQuoted '\x27' escapes (statusStatement name) name := by
  have words : "SHOW TABLE STATUS WHERE Name = ".toList.all Sql.isWordChar = true := by decide
  apply Sql.endsQuoted_of_isName named (by decide) words
  unfold statusStatement
  simp

theorem endsQuoted_columnsStatement {name : String} (named : Table.IsName name) :
    Sql.EndsQuoted '\x60' false (columnsStatement name) name := by
  have words : "SHOW FULL COLUMNS FROM ".toList.all Sql.isWordChar = true := by decide
  apply Sql.endsQuoted_of_isName named (by decide) words
  unfold columnsStatement
  simp

/-- Over every connection this one statement is sent, and what is answered is what the reply to it
tells. -/
def Sends {Found Reply : Type} (ask : Connection → Answer Found)
    (reply : Connection → String → Except DatabaseError Reply)
    (tells : Except DatabaseError Reply → Except Error Found) (statement : String) : Prop :=
  ∀ connection : Connection, ask connection =
    { result := tells (reply connection statement), events := [.statementSent statement] }

namespace Reader

variable {name : String}

theorem sends_status (named : Table.IsName name) :
    Sends (fun connection => (ofConnection connection).status name) Connection.firstRow?
      (tableOfReply name) (statusStatement name) := by
  intro connection
  simp only [ofConnection, named, if_true]

theorem sends_columns (named : Table.IsName name) :
    Sends (fun connection => (ofConnection connection).columns name) Connection.rows
      columnsOfReply (columnsStatement name) := by
  intro connection
  simp only [ofConnection, named, if_true]

theorem ofConnection_of_not_isName (unnamed : ¬ Table.IsName name) (connection : Connection) :
    (ofConnection connection).status name = ⟨.error (.invalidTableName name), []⟩ ∧
      (ofConnection connection).columns name = ⟨.error (.invalidTableName name), []⟩ := by
  simp only [ofConnection, unnamed, if_false, and_self]

end Reader
end Schema

theorem Java.readLiteral_of_isName {name : String} (named : Table.IsName name) (rest : List Char) :
    readLiteral (name.toList ++ '"' :: rest) = some (name.toList, translate rest) := by
  apply readLiteral_append
  intro c among
  refine ⟨?_, ?_, ?_, ?_⟩
  all_goals exact named.ne_of_mem among (by decide)

def Skeleton.tableAnnotation : Template :=
  [.literal "@TableName(\"", .slot "tableName", .literal "\")"]

/-- The file of the row's class has the annotation where its skeleton has it, and the literal in it
is read as the name. -/
def Subject.AnnotatesTable (subject : Subject) (name : String) : Prop :=
  ∃ front back body, front ++ Skeleton.tableAnnotation ++ back = Skeleton.ofRole .po ∧
    (subject.contents .po).toList =
      (front.render (subject.bindings .po) ++ "@TableName(\"").toList ++ body ∧
    Java.readLiteral body =
      some (name.toList, Java.translate (")" ++ back.render (subject.bindings .po)).toList)

theorem Subject.annotatesTable {subject : Subject} (named : Table.IsName subject.table.name) :
    subject.AnnotatesTable subject.table.name := by
  have inside : Skeleton.tableAnnotation <:+: Skeleton.ofRole .po := by decide
  obtain ⟨front, back, whole⟩ := inside
  have filled : (Piece.slot "tableName").fill (subject.bindings .po) = subject.table.name := by
    apply fill_of_mem_ownValues
    simp [ownValues]
  refine ⟨front, back, _, whole, ?_, Java.readLiteral_of_isName named _⟩
  rw [contents, ← whole]
  simp [Skeleton.tableAnnotation, filled]

/-- A name is refused before anything is sent, or stands in the statements and in the annotation
such that each is read as having that name. -/
theorem Schema.Reader.ofConnection_refuses_or_quotes (name : String) :
    (¬ Table.IsName name → ∀ connection,
      (ofConnection connection).status name = ⟨.error (.invalidTableName name), []⟩ ∧
      (ofConnection connection).columns name = ⟨.error (.invalidTableName name), []⟩) ∧
    (Table.IsName name →
      let status := "SHOW TABLE STATUS WHERE Name = '" ++ name ++ "'"
      let columns := "SHOW FULL COLUMNS FROM `" ++ name ++ "`"
      Sends (fun connection => (ofConnection connection).status name) Connection.firstRow?
        (tableOfReply name) status ∧
      Sends (fun connection => (ofConnection connection).columns name) Connection.rows
        columnsOfReply columns ∧
      (∀ escapes, Sql.EndsQuoted '\x27' escapes status name) ∧
      Sql.EndsQuoted '\x60' false columns name ∧
      ∀ subject : Subject, subject.table.name = name → subject.AnnotatesTable name) ∧
    (∀ config : Config, config.check = .ok () → config.settings.table = name →
      Table.IsName name) := by
  refine ⟨ofConnection_of_not_isName, ?_, ?_⟩
  · intro named status columns
    refine ⟨sends_status named, sends_columns named, endsQuoted_statusStatement named,
      endsQuoted_columnsStatement named, ?_⟩
    rintro subject rfl
    exact Subject.annotatesTable named
  · rintro config accepted rfl
    exact ((Config.check_eq_ok_iff config).mp accepted).1

end Scaffold
