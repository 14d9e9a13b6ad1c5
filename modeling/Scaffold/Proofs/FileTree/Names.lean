import Scaffold.Layout
import Scaffold.Proofs.FileTree.Growth

/-!
The names in a path that was put together.  A relative part adds its names to those of the base, so
that the path of a generated file ends in the role's layers and the file's own name, and leads there
from wherever its base leads.
-/

namespace Scaffold

namespace Path

/-- A single name that leads down, to a directory or a file. -/
def IsOrdinary (name : String) : Prop :=
  name ≠ "" ∧ '/' ∉ name.toList ∧ name ≠ "." ∧ name ≠ ".."

instance (name : String) : Decidable (IsOrdinary name) :=
  inferInstanceAs (Decidable (_ ∧ _))

theorem IsOrdinary.relative {name : String} (ordinary : IsOrdinary name) : ¬ IsAbsolute name := by
  intro absolute
  apply ordinary.2.1
  exact List.mem_of_head? absolute

theorem IsOrdinary.isIdle_eq_false {name : String} (ordinary : IsOrdinary name) :
    isIdle name.toList = false := by
  obtain ⟨filled, _, noDot, _⟩ := ordinary
  have named : name.toList ≠ ['.'] := fun same => noDot (String.toList_inj.mp same)
  simp [isIdle, filled, named]

theorem isOrdinary_of_length {name : String} (long : 2 < name.length) (clean : '/' ∉ name.toList) :
    IsOrdinary name := by
  refine ⟨?_, clean, ?_, ?_⟩
  all_goals
    rintro rfl
    exact absurd long (by decide)

theorem push_of_isAbsolute {base part : String} (absolute : IsAbsolute part) :
    push base part = part := if_pos absolute

theorem isAbsolute_append {base : String} (filled : base ≠ "") (rest : String) :
    IsAbsolute (base ++ rest) ↔ IsAbsolute base := by
  unfold IsAbsolute
  rw [String.toList_append]
  cases spelled : base.toList with
  | nil => exact absurd (String.toList_eq_nil_iff.mp spelled) filled
  | cons c chars => rfl

theorem isAbsolute_push {base part : String} (relative : ¬ IsAbsolute part) :
    IsAbsolute (push base part) ↔ IsAbsolute base := by
  by_cases empty : base = ""
  · subst empty
    have none : ¬ IsAbsolute "" := by decide
    have whole : push "" part = part := by simp [push]
    rw [whole]
    exact iff_of_false relative none
  · unfold push
    rw [if_neg relative]
    split
    · exact isAbsolute_append empty part
    · rw [String.append_assoc]
      exact isAbsolute_append empty _

theorem EndsInSlash.exists_eq_append {path : String} (ends : EndsInSlash path) :
    ∃ front, path = front ++ "/" := by
  obtain ⟨front, spelled⟩ := List.getLast?_eq_some_iff.mp ends
  refine ⟨.ofList front, ?_⟩
  rw [← String.toList_inj, spelled]
  simp

theorem not_endsInSlash_append {front part : String} (filled : part ≠ "")
    (clean : '/' ∉ part.toList) : ¬ EndsInSlash (front ++ part) := by
  intro slash
  have nonempty : part.toList ≠ [] := by simpa using filled
  rw [EndsInSlash, String.toList_append, List.getLast?_append,
    List.getLast?_eq_some_getLast nonempty, Option.some_or, Option.some_inj] at slash
  exact clean (slash ▸ List.getLast_mem nonempty)

/-- What is pushed stands at the end, alone or behind a slash. -/
theorem push_eq_or (base part : String) :
    push base part = part ∨ ∃ front, push base part = front ++ "/" ++ part := by
  unfold push
  split
  next => exact .inl rfl
  next =>
    split
    next ends =>
      rcases ends with rfl | slash
      · exact .inl String.empty_append
      · obtain ⟨front, rfl⟩ := slash.exists_eq_append
        exact .inr ⟨front, rfl⟩
    next => exact .inr ⟨base, rfl⟩

theorem isAbsolute_extend {base : String} {parts : List String}
    (relative : ∀ part ∈ parts, ¬ IsAbsolute part) :
    IsAbsolute (extend base parts) ↔ IsAbsolute base := by
  unfold extend
  induction parts generalizing base with
  | nil => exact Iff.rfl
  | cons part parts inductionHypothesis =>
    rw [List.foldl_cons,
      inductionHypothesis fun other among => relative other (List.mem_cons_of_mem _ among)]
    exact isAbsolute_push (relative part List.mem_cons_self)

end Path

namespace FileTree

open Scaffold.Path

theorem names_append_slash (base part : String) :
    names (base ++ "/" ++ part) = names base ++ names part := by
  have spelled : (base ++ "/" ++ part).toList = base.toList ++ '/' :: part.toList := by simp
  unfold names segments
  rw [spelled, List.splitOn_append_cons_self, List.filter_append, List.map_append]

theorem names_push {base part : String} (relative : ¬ IsAbsolute part) :
    names (push base part) = names base ++ names part := by
  unfold push
  rw [if_neg relative]
  split
  next ends =>
    rcases ends with rfl | slash
    · simp [names, segments]
    · obtain ⟨front, rfl⟩ := slash.exists_eq_append
      have nothing : names "" = [] := by simp [names, segments]
      have bare := names_append_slash front ""
      rw [String.append_empty, nothing, List.append_nil] at bare
      rw [names_append_slash, bare]
  next => exact names_append_slash base part

theorem names_of_isOrdinary {name : String} (ordinary : IsOrdinary name) : names name = [name] := by
  have filled : name.toList ≠ [] := by simpa using ordinary.1
  unfold names segments
  rw [List.splitOn_eq_singleton ordinary.2.1]
  simp [filled]

theorem names_push_of_isOrdinary {base name : String} (ordinary : IsOrdinary name) :
    names (push base name) = names base ++ [name] := by
  rw [names_push ordinary.relative, names_of_isOrdinary ordinary]

theorem names_extend {base : String} {parts : List String}
    (ordinary : ∀ part ∈ parts, IsOrdinary part) :
    names (extend base parts) = names base ++ parts := by
  unfold extend
  induction parts generalizing base with
  | nil => rw [List.foldl_nil, List.append_nil]
  | cons part parts inductionHypothesis =>
    rw [List.foldl_cons,
      inductionHypothesis fun other among => ordinary other (List.mem_cons_of_mem _ among),
      names_push_of_isOrdinary (ordinary part List.mem_cons_self), List.append_assoc]
    rfl

theorem start_eq_of_isAbsolute_iff {tree : FileTree} {first second : String}
    (same : IsAbsolute first ↔ IsAbsolute second) : tree.start first = tree.start second := by
  unfold start
  by_cases absolute : IsAbsolute second
  · rw [if_pos absolute, if_pos (same.mpr absolute)]
  · have neither : ¬ IsAbsolute first := by
      intro other
      exact absolute (same.mp other)
    rw [if_neg absolute, if_neg neither]

theorem walk_append_eq_bind (tree : FileTree) (location : Location) (front back : List String) :
    tree.walk location (front ++ back) =
      (tree.walk location front).bind fun between => tree.walk between back := by
  induction front generalizing location with
  | nil => rfl
  | cons name front inductionHypothesis =>
    rw [List.cons_append, walk, walk]
    split
    next => rfl
    next => rfl
    next =>
      split
      next => exact inductionHypothesis location
      next =>
        split
        next => exact inductionHypothesis location.dropLast
        next =>
          split
          next => rfl
          next => exact inductionHypothesis (location ++ [name])

theorem walk_append {tree : FileTree} {location found : Location} {front back : List String} :
    tree.walk location (front ++ back) = .ok found ↔
      ∃ between, tree.walk location front = .ok between ∧ tree.walk between back = .ok found := by
  rw [walk_append_eq_bind]
  cases tree.walk location front with
  | error cause => simp [Except.bind]
  | ok between => simp [Except.bind]

/-- Ordinary names lead straight down. -/
theorem eq_append_of_walk {tree : FileTree} {location found : Location} {names : List String}
    (ordinary : ∀ name ∈ names, IsOrdinary name) (walked : tree.walk location names = .ok found) :
    found = location ++ names := by
  induction names generalizing location with
  | nil =>
    obtain rfl := Except.ok.inj walked
    rw [List.append_nil]
  | cons name rest inductionHypothesis =>
    obtain ⟨_, _, noDot, noDots⟩ := ordinary name List.mem_cons_self
    have later : ∀ other ∈ rest, IsOrdinary other := by
      intro other among
      exact ordinary other (List.mem_cons_of_mem _ among)
    cases stands : tree.get? location with
    | none => simp [walk, stands] at walked
    | some node =>
      cases node with
      | file contents => simp [walk, stands] at walked
      | directory =>
        simp only [walk, stands, noDot, noDots, if_false] at walked
        split at walked
        next => contradiction
        next => rw [inductionHypothesis later walked, List.append_assoc, List.singleton_append]

end FileTree

theorem Role.layers_ne_nil (role : Role) : role.layers ≠ [] := by
  cases role <;> decide

namespace Layout

open Scaffold.Path

theorem isOrdinary_of_mem_layers {role : Role} {layer : String} (among : layer ∈ role.layers) :
    IsOrdinary layer := by
  revert layer
  cases role <;> decide

theorem relative_of_mem_layers {role : Role} {layer : String} (among : layer ∈ role.layers) :
    ¬ IsAbsolute layer :=
  (isOrdinary_of_mem_layers among).relative

variable {outputRoot domain className : String} {role : Role}

theorem isAbsolute_filePath (ordinary : IsOrdinary (className ++ ".java")) :
    IsAbsolute (filePath domain role className) ↔ IsAbsolute domain := by
  unfold filePath
  rw [isAbsolute_push ordinary.relative]
  exact isAbsolute_extend fun layer => relative_of_mem_layers

theorem names_filePath (ordinary : IsOrdinary (className ++ ".java")) :
    FileTree.names (filePath domain role className) =
      FileTree.names domain ++ (role.layers ++ [className ++ ".java"]) := by
  unfold filePath
  rw [FileTree.names_push_of_isOrdinary ordinary,
    FileTree.names_extend fun layer => isOrdinary_of_mem_layers, List.append_assoc]

theorem names_push_filePath (ordinary : IsOrdinary (className ++ ".java")) :
    FileTree.names (push outputRoot (filePath domain role className)) =
      FileTree.names (push outputRoot domain) ++ (role.layers ++ [className ++ ".java"]) := by
  have absolute_iff : IsAbsolute (filePath domain role className) ↔ IsAbsolute domain :=
    isAbsolute_filePath ordinary
  by_cases absolute : IsAbsolute domain
  · rw [push_of_isAbsolute absolute, push_of_isAbsolute (absolute_iff.mpr absolute),
      names_filePath ordinary]
  · have relative : ¬ IsAbsolute (filePath domain role className) := by
      intro other
      exact absolute (absolute_iff.mp other)
    rw [FileTree.names_push absolute, FileTree.names_push relative, names_filePath ordinary,
      List.append_assoc]

theorem isAbsolute_push_filePath (ordinary : IsOrdinary (className ++ ".java")) :
    IsAbsolute (push outputRoot (filePath domain role className)) ↔
      IsAbsolute (push outputRoot domain) := by
  have absolute_iff : IsAbsolute (filePath domain role className) ↔ IsAbsolute domain :=
    isAbsolute_filePath ordinary
  by_cases absolute : IsAbsolute domain
  · rw [push_of_isAbsolute absolute, push_of_isAbsolute (absolute_iff.mpr absolute)]
    exact absolute_iff
  · have relative : ¬ IsAbsolute (filePath domain role className) := by
      intro other
      exact absolute (absolute_iff.mp other)
    rw [isAbsolute_push absolute, isAbsolute_push relative]

/-- A generated file goes to its layers and its name, below the place of the domain. -/
theorem locate_push_filePath {tree : FileTree} {location : Location}
    (ordinary : IsOrdinary (className ++ ".java"))
    (found : tree.locate (push outputRoot (filePath domain role className)) = .ok location) :
    ∃ base, tree.walk (tree.start (push outputRoot domain))
        (FileTree.names (push outputRoot domain)) = .ok base ∧
      location = base ++ (role.layers ++ [className ++ ".java"]) := by
  obtain ⟨_, _, walked⟩ := FileTree.locateNames_eq_ok_iff.mp found
  rw [names_push_filePath ordinary,
    FileTree.start_eq_of_isAbsolute_iff (isAbsolute_push_filePath ordinary)] at walked
  obtain ⟨base, toBase, below⟩ := FileTree.walk_append.mp walked
  refine ⟨base, toBase, FileTree.eq_append_of_walk ?_ below⟩
  intro name among
  rcases List.mem_append.mp among with layer | own
  · exact isOrdinary_of_mem_layers layer
  · obtain rfl := List.mem_singleton.mp own
    exact ordinary

end Layout
end Scaffold
