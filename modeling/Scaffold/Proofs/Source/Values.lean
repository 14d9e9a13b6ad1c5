import Mathlib.Data.List.Nodup
import Scaffold.Proofs.Template.ExactSplit
import Scaffold.Source.File

/-!
The values for the slots of a role's file.  No two of them go by the same name, so that each is
found under its own.
-/

namespace Scaffold

/-- Where no name is given twice, each has the value it was given. -/
theorem Bindings.get?_ofList_of_mem {entries : List (String × String)}
    (distinct : (entries.map Prod.fst).Nodup) {name value : String}
    (among : (name, value) ∈ entries) : (ofList entries).get? name = some value := by
  rw [get?_ofList]
  unfold lastValue?
  cases found : entries.reverse.find? (·.1 = name) with
  | none =>
    have missing := List.find?_eq_none.mp found (name, value) (List.mem_reverse.mpr among)
    simp at missing
  | some entry =>
    have same : entry.1 = name := by simpa using List.find?_some found
    have present := List.mem_reverse.mp (List.mem_of_find?_eq_some found)
    obtain rfl := List.inj_on_of_nodup_map distinct present among same
    rfl

namespace Subject

def ownNames : List String := ["package", "basePackage", "className", "tableName", "javadoc"]

def companionNames (companion : Role) : List String :=
  [companion.slotStem ++ "Import", companion.slotStem ++ "ClassName",
    companion.slotStem ++ "MemberName"]

def fieldNames : List String := ["imports", "fields"]

def names (role : Role) : List String :=
  ownNames ++ role.companions.flatMap companionNames ++ if role.HasFields then fieldNames else []

theorem nodup_names (role : Role) : (names role).Nodup := by
  cases role <;> decide

theorem map_fst_values (subject : Subject) (role : Role) :
    (subject.values role).map Prod.fst = names role := by
  cases role <;> rfl

variable {subject : Subject} {role : Role} {name value : String}

theorem get?_of_mem_values (among : (name, value) ∈ subject.values role) :
    (subject.bindings role).get? name = some value := by
  have distinct : ((subject.values role).map Prod.fst).Nodup := by
    rw [map_fst_values]
    exact nodup_names role
  exact Bindings.get?_ofList_of_mem distinct among

theorem fill_of_mem_values (among : (name, value) ∈ subject.values role) :
    (Piece.slot name).fill (subject.bindings role) = value := by
  rw [Piece.fill, get?_of_mem_values among, Option.getD_some]

theorem fill_of_mem_ownValues (own : (name, value) ∈ subject.ownValues role) :
    (Piece.slot name).fill (subject.bindings role) = value := by
  apply fill_of_mem_values
  exact List.mem_append_left _ (List.mem_append_left _ own)

theorem fill_of_mem_companionValues {companion : Role} (used : companion ∈ role.companions)
    (listed : (name, value) ∈ subject.companionValues companion) :
    (Piece.slot name).fill (subject.bindings role) = value := by
  have among := List.mem_flatMap.mpr ⟨companion, used, listed⟩
  apply fill_of_mem_values
  exact List.mem_append_left _ (List.mem_append_right _ among)

end Subject
end Scaffold
