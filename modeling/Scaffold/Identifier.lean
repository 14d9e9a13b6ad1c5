/-!
Identifiers of generated classes and members, derived from table and column names.  Underscored
words become camel case (`camelCase`), a class name starts with a capital (`capitalize`), and a
table loses one of the usual prefixes first (`dropTablePrefix`).  Only ASCII letters change case.
-/

namespace Scaffold.Identifier

/-- Prefixes that mark tables, in the order in which they are tried. -/
def tablePrefixes : List String := ["tb_", "t_", "r_"]

def after? (front name : List Char) : Option (List Char) :=
  if front <+: name then some (name.drop front.length) else none

theorem after?_eq_some_iff {front name rest : List Char} :
    after? front name = some rest ↔ name = front ++ rest := by
  unfold after?
  split
  next starts =>
    obtain ⟨tail, rfl⟩ := starts
    simp [eq_comm]
  next other =>
    simp only [reduceCtorEq, false_iff]
    rintro rfl
    exact other (List.prefix_append front rest)

/-- The name without its first matching prefix, or the name itself. -/
def dropTablePrefix (name : String) : String :=
  match tablePrefixes.findSome? fun front => after? front.toList name.toList with
  | some rest => .ofList rest
  | none => name

/-- Underscores are dropped; with `raised`, a small letter in front becomes a capital, as does one
right after an underscore. -/
def camelChars : (raised : Bool) → List Char → List Char
  | _, [] => []
  | raised, c :: rest =>
    if c = '_' then camelChars true rest
    else (if raised then c.toUpper else c) :: camelChars false rest

/-- `user_role_id` becomes `userRoleId`. -/
def camelCase (name : String) : String :=
  .ofList (camelChars false name.toList)

@[simp]
theorem toList_camelCase (name : String) :
    (camelCase name).toList = camelChars false name.toList := by
  simp [camelCase]

def capitalChars : List Char → List Char
  | [] => []
  | c :: rest => c.toUpper :: rest

theorem capitalChars_append {front back : List Char} (capital : capitalChars back = back) :
    capitalChars (front ++ back) = capitalChars front ++ back := by
  cases front with
  | nil => exact capital
  | cons c rest => rfl

/-- `userRole` becomes `UserRole`. -/
def capitalize (name : String) : String :=
  .ofList (capitalChars name.toList)

@[simp]
theorem toList_capitalize (name : String) :
    (capitalize name).toList = capitalChars name.toList := by
  simp [capitalize]

/-- The member name stem of a table: `tb_order_item` gives `orderItem`. -/
def memberStem (table : String) : String :=
  camelCase (dropTablePrefix table)

/-- The class name stem of a table: `tb_order_item` gives `OrderItem`. -/
def classStem (table : String) : String :=
  capitalize (memberStem table)

end Scaffold.Identifier
