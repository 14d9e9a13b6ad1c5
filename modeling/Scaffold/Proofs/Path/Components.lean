import Mathlib.Data.List.Basic
import Scaffold.Proofs.FileTree.Names

/-!
Paths as steps from where they set out.  Slashes side by side leave no step, nor do dots behind the
first name, so that one path lies within another when its steps go on from those of the other and
none of the further ones leads up.
-/

namespace Scaffold.Path

inductive Component where
  | root
  | here
  | up
  | down (name : String)
deriving DecidableEq, Repr

/-- Where a path sets out: at the root, or at a dot that is written in front. -/
def origin (path : String) : List Component :=
  if IsAbsolute path then [.root]
  else if (FileTree.names path).head? = some "." then [.here]
  else []

def stepOf? (name : String) : Option Component :=
  if name = "." then none else if name = ".." then some .up else some (.down name)

def components (path : String) : List Component :=
  origin path ++ (FileTree.names path).filterMap stepOf?

/-- The path goes on from the root directory without going up. -/
def IsWithin (root path : String) : Prop :=
  ∃ further, components path = components root ++ further ∧ Component.up ∉ further

/-- The path goes on from the root directory by at least one step. -/
def IsBelow (root path : String) : Prop :=
  ∃ further, components path = components root ++ further ∧ further ≠ [] ∧ Component.up ∉ further

theorem stepOf?_of_isOrdinary {name : String} (ordinary : IsOrdinary name) :
    stepOf? name = some (.down name) := by
  obtain ⟨_, _, noDot, noDots⟩ := ordinary
  rw [stepOf?, if_neg noDot, if_neg noDots]

theorem filterMap_stepOf?_of_isOrdinary {names : List String}
    (ordinary : ∀ name ∈ names, IsOrdinary name) :
    names.filterMap stepOf? = names.map .down := by
  apply List.filterMap_eq_map_iff_forall_eq_some.mpr
  intro name among
  exact stepOf?_of_isOrdinary (ordinary name among)

theorem up_mem_filterMap_stepOf?_iff {names : List String} :
    Component.up ∈ names.filterMap stepOf? ↔ ".." ∈ names := by
  rw [List.mem_filterMap]
  constructor
  · rintro ⟨name, among, step⟩
    unfold stepOf? at step
    split at step
    next => contradiction
    next =>
      split at step
      next dots => exact dots ▸ among
      next => simp at step
  · intro among
    exact ⟨"..", among, by decide⟩

theorem up_notMem_map_down (names : List String) : Component.up ∉ names.map .down := by
  intro among
  obtain ⟨name, _, step⟩ := List.mem_map.mp among
  contradiction

theorem up_notMem_origin (path : String) : Component.up ∉ origin path := by
  unfold origin
  split
  next => decide
  next => split <;> decide

theorem components_of_names {first second : String} {further : List String}
    (absolute : IsAbsolute first ↔ IsAbsolute second)
    (goesOn : FileTree.names first = FileTree.names second ++ further)
    (ordinary : ∀ name ∈ further, IsOrdinary name) :
    components first = components second ++ further.map .down := by
  have same : origin first = origin second := by
    unfold origin
    by_cases rooted : IsAbsolute second
    · rw [if_pos rooted, if_pos (absolute.mpr rooted)]
    · have unrooted : ¬ IsAbsolute first := fun other => rooted (absolute.mp other)
      rw [if_neg rooted, if_neg unrooted, goesOn]
      cases FileTree.names second with
      | cons name names => rfl
      | nil =>
        -- The first name is then one of the further ones, and no dot.
        have noDot : further.head? ≠ some "." := by
          intro dot
          exact (ordinary "." (List.mem_of_head? dot)).2.2.1 rfl
        rw [List.nil_append, if_neg noDot]
        rfl
  unfold components
  rw [same, goesOn, List.filterMap_append, filterMap_stepOf?_of_isOrdinary ordinary,
    List.append_assoc]

theorem names_ne_nil {path : String} (filled : path ≠ "") (relative : ¬ IsAbsolute path) :
    FileTree.names path ≠ [] := by
  cases spelled : path.toList with
  | nil => exact absurd (String.toList_eq_nil_iff.mp spelled) filled
  | cons c chars =>
    have noSlash : c ≠ '/' := by
      rintro rfl
      apply relative
      simp [IsAbsolute, spelled]
    obtain ⟨piece, pieces, cut⟩ := List.exists_cons_of_ne_nil (List.splitOn_ne_nil '/' chars)
    have first : segments (c :: chars) = (c :: piece) :: pieces := by
      simp [segments, List.splitOn_cons_eq_if_modifyHead, noSlash, cut]
    intro none
    simp [FileTree.names, spelled, first] at none

theorem components_push {base part : String} (filled : base ≠ "") (relative : ¬ IsAbsolute part) :
    components (push base part) =
      components base ++ (FileTree.names part).filterMap stepOf? := by
  have same : origin (push base part) = origin base := by
    unfold origin
    by_cases rooted : IsAbsolute base
    · rw [if_pos rooted, if_pos ((isAbsolute_push relative).mpr rooted)]
    · have unrooted : ¬ IsAbsolute (push base part) :=
        fun other => rooted ((isAbsolute_push relative).mp other)
      obtain ⟨name, names, spelled⟩ := List.exists_cons_of_ne_nil (names_ne_nil filled rooted)
      rw [if_neg rooted, if_neg unrooted, FileTree.names_push relative, spelled]
      rfl
  unfold components
  rw [same, FileTree.names_push relative, List.filterMap_append, List.append_assoc]

/-- A relative path stays within any directory exactly when none of its names leads up. -/
theorem isWithin_push_iff {root path : String} (relative : ¬ IsAbsolute path) :
    IsWithin root (push root path) ↔ ".." ∉ FileTree.names path := by
  rw [← up_mem_filterMap_stepOf?_iff]
  by_cases filled : root = ""
  · subst filled
    have whole : push "" path = path := by simp [push]
    have nothing : components "" = [] := by decide
    rw [IsWithin, whole, nothing]
    constructor
    · rintro ⟨further, spelled, stays⟩ up
      apply stays
      rw [← List.nil_append further, ← spelled]
      exact List.mem_append_right _ up
    · intro stays
      refine ⟨components path, rfl, ?_⟩
      intro up
      rcases List.mem_append.mp up with first | later
      · exact up_notMem_origin path first
      · exact stays later
  · rw [IsWithin, components_push filled relative]
    constructor
    · rintro ⟨further, spelled, stays⟩
      exact List.append_cancel_left spelled ▸ stays
    · intro stays
      exact ⟨_, rfl, stays⟩

end Scaffold.Path
