import Scaffold.Proofs.FileTree.Names
import Scaffold.Proofs.FileTree.Save

/-!
What stands above a path.  The path goes on from the one above it with a slash in between, so that
its names begin with those of the other and lead through a directory there.  Names lead to the same
place in every tree in which they lead anywhere.
-/

namespace Scaffold

namespace Path

theorem join_append {front back : List (List Char)} (before : front ≠ []) (behind : back ≠ []) :
    join (front ++ back) = join front ++ '/' :: join back := by
  unfold join
  induction front with
  | nil => contradiction
  | cons piece rest inductionHypothesis =>
    have filled : rest ++ back ≠ [] := by simp [behind]
    rw [List.cons_append, List.intercalate_cons_of_ne_nil filled]
    by_cases last : rest = []
    · simp [last]
    · rw [inductionHypothesis last, List.intercalate_cons_of_ne_nil last]
      simp only [List.append_assoc]

/-- The pieces of what is kept of a path end before its last one. -/
theorem exists_eq_settle_dropLast_append {pieces : List (List Char)} (busy : settle pieces ≠ []) :
    ∃ back, back ≠ [] ∧ pieces = settle (settle pieces).dropLast ++ back := by
  obtain ⟨idle, whole⟩ := settle_isPrefix pieces
  obtain ⟨cut, front⟩ := settle_isPrefix (settle pieces).dropLast
  refine ⟨cut ++ (settle pieces).getLast busy :: idle, by simp, ?_⟩
  rw [← List.append_assoc, front, ← List.singleton_append, ← List.append_assoc,
    List.dropLast_concat_getLast, whole]

theorem anchor_cases (path : List Char) :
    (anchor path).1 = [] ∨ (anchor path).1 = ['/'] ∨
      (anchor path).1 = ['.'] ∧ ((anchor path).2 = [] ∨ ∃ tail, (anchor path).2 = '/' :: tail) := by
  unfold anchor
  split <;> simp

/-- The path goes on from its parent behind a slash; below the root that slash is the parent. -/
theorem eq_append_of_parent? {path parent : String} (above : parent? path = some parent) :
    parent = "" ∨ (∃ rest, path = parent ++ "/" ++ rest) ∨
      parent = "/" ∧ ∃ rest, path = "/" ++ rest := by
  have whole := anchor_append path.toList
  have shapes := anchor_cases path.toList
  unfold parent? at above
  generalize anchor path.toList = parts at above whole shapes
  obtain ⟨front, tail⟩ := parts
  dsimp only at above whole shapes
  split at above
  next =>
    split at above
    next => exact .inl (Option.some.inj above).symm
    next => contradiction
  next busy =>
    obtain rfl := Option.some.inj above
    obtain ⟨back, behind, pieces⟩ := exists_eq_settle_dropLast_append busy
    have rest := join_segments tail
    generalize settle (settle (segments tail)).dropLast = kept at pieces ⊢
    by_cases none : kept = []
    · subst none
      rcases shapes with rfl | rfl | ⟨rfl, rfl | ⟨more, rfl⟩⟩
      · simp [join]
      · refine .inr (.inr ⟨by simp [join], .ofList tail, ?_⟩)
        rw [← String.toList_inj, ← whole]
        simp
      · exact absurd (by simp [segments, settle, isIdle]) busy
      · refine .inr (.inl ⟨.ofList more, ?_⟩)
        rw [← String.toList_inj, ← whole]
        simp [join]
    · rw [pieces, join_append none behind] at rest
      refine .inr (.inl ⟨.ofList (join back), ?_⟩)
      rw [← String.toList_inj, ← whole, ← rest]
      simp

theorem exists_eq_append_of_parent? {path parent : String} (above : parent? path = some parent) :
    ∃ rest, path = parent ++ rest := by
  rcases eq_append_of_parent? above with rfl | ⟨rest, rfl⟩ | ⟨rfl, rest, rfl⟩
  · exact ⟨path, String.empty_append.symm⟩
  · exact ⟨"/" ++ rest, String.append_assoc⟩
  · exact ⟨rest, rfl⟩

theorem isAbsolute_of_parent? {path parent : String} (above : parent? path = some parent)
    (filled : parent ≠ "") : IsAbsolute path ↔ IsAbsolute parent := by
  obtain ⟨rest, rfl⟩ := exists_eq_append_of_parent? above
  exact isAbsolute_append filled rest

theorem not_isAbove_empty (above : String) : ¬ IsAbove above "" := by
  have none : parent? "" = none := by decide
  intro isAbove
  cases isAbove with
  | parent isParent => simp [none] at isParent
  | further isParent => simp [none] at isParent

theorem settle_eq_self {pieces : List (List Char)} (busy : ∀ piece ∈ pieces, isIdle piece = false) :
    settle pieces = pieces := by
  induction pieces with
  | nil => rfl
  | cons piece rest inductionHypothesis =>
    obtain ⟨own, later⟩ := List.forall_mem_cons.mp busy
    unfold settle
    rw [inductionHypothesis later]
    cases rest with
    | nil => simp [own]
    | cons second rest => rfl

theorem anchor_append_of_isIdle_eq_false {first : List Char} (clean : '/' ∉ first)
    (busy : isIdle first = false) (tail : List Char)
    (apart : tail = [] ∨ ∃ rest, tail = '/' :: rest) :
    anchor (first ++ tail) = ([], first ++ tail) := by
  cases first with
  | nil => simp [isIdle] at busy
  | cons c first =>
    obtain ⟨noSlash, clean⟩ := List.ne_and_not_mem_of_not_mem_cons clean
    cases first with
    | nil =>
      have noDot : c ≠ '.' := by simpa [isIdle] using busy
      rcases apart with rfl | ⟨rest, rfl⟩
      all_goals
        unfold anchor
        split <;> simp_all
    | cons d first =>
      have secondSlash := (List.ne_and_not_mem_of_not_mem_cons clean).1
      rw [List.cons_append, List.cons_append]
      unfold anchor
      split <;> simp_all

theorem parent?_intercalate {names : List String} {last : String}
    (clean : ∀ name ∈ names ++ [last], '/' ∉ name.toList)
    (busy : ∀ name ∈ names ++ [last], isIdle name.toList = false) :
    parent? ("/".intercalate (names ++ [last])) = some ("/".intercalate names) := by
  have text : ("/".intercalate (names ++ [last])).toList =
      join ((names ++ [last]).map String.toList) := String.toList_intercalate
  have pieces : segments (join ((names ++ [last]).map String.toList)) =
      (names ++ [last]).map String.toList := by
    apply List.splitOn_intercalate
    · intro piece among
      obtain ⟨name, listed, rfl⟩ := List.mem_map.mp among
      exact clean name listed
    · simp
  have settled {some : List String} (part : some ⊆ names ++ [last]) :
      settle (some.map String.toList) = some.map String.toList := by
    apply settle_eq_self
    intro piece among
    obtain ⟨name, listed, rfl⟩ := List.mem_map.mp among
    exact busy name (part listed)
  obtain ⟨first, rest, begins⟩ : ∃ first rest, names ++ [last] = first :: rest :=
    List.exists_cons_of_ne_nil (by simp)
  have unanchored : anchor (join ((names ++ [last]).map String.toList)) =
      ([], join ((names ++ [last]).map String.toList)) := by
    have among : first ∈ names ++ [last] := begins ▸ List.mem_cons_self
    have start := anchor_append_of_isIdle_eq_false (clean first among) (busy first among)
    rw [begins, List.map_cons]
    by_cases single : rest.map String.toList = []
    · simpa [single, join] using start [] (.inl rfl)
    · rw [← List.singleton_append, join_append (List.cons_ne_nil _ _) single]
      simpa [join] using start _ (.inr ⟨_, rfl⟩)
  have kept : settle (((names ++ [last]).map String.toList).dropLast) =
      names.map String.toList := by
    rw [List.map_append, List.map_singleton, List.dropLast_concat]
    exact settled (List.subset_append_left names [last])
  unfold parent?
  rw [text, unanchored]
  dsimp only
  rw [pieces, settled (List.Subset.refl _)]
  split
  next none => simp at none
  next =>
    rw [kept, List.nil_append]
    apply congrArg some
    rw [← String.toList_inj, String.toList_ofList, String.toList_intercalate]
    rfl

end Path

namespace FileTree

theorem names_of_parent? {path parent : String} (above : Path.parent? path = some parent)
    (filled : parent ≠ "") : ∃ further, names path = names parent ++ further := by
  rcases Path.eq_append_of_parent? above with empty | ⟨rest, rfl⟩ | ⟨rfl, rest, rfl⟩
  · contradiction
  · exact ⟨names rest, names_append_slash parent rest⟩
  · have nothing : names "/" = [] := by decide
    rw [nothing]
    exact ⟨_, (List.nil_append _).symm⟩

/-- Names that lead to a directory set out from one. -/
theorem get?_eq_directory_of_walk {tree : FileTree} {location found : Location}
    {names : List String} (walked : tree.walk location names = .ok found)
    (stands : tree.get? found = some .directory) : tree.get? location = some .directory := by
  cases names with
  | nil =>
    obtain rfl := Except.ok.inj walked
    exact stands
  | cons name rest =>
    unfold walk at walked
    split at walked
    next => contradiction
    next => contradiction
    next here => exact here

theorem isDirectory_iff {tree : FileTree} {path : String} :
    tree.IsDirectory path ↔
      ∃ location, tree.locate path = .ok location ∧ tree.get? location = some .directory := by
  unfold IsDirectory
  cases tree.locate path <;> simp [Except.toOption]

theorem isDirectory_of_parent? {tree : FileTree} {path parent : String}
    (above : Path.parent? path = some parent) (filled : parent ≠ "")
    (stands : tree.IsDirectory path) : tree.IsDirectory parent := by
  obtain ⟨location, leads, here⟩ := isDirectory_iff.mp stands
  obtain ⟨⟨clean, _, short⟩, begins, walked⟩ := locateNames_eq_ok_iff.mp leads
  obtain ⟨rest, spelled⟩ := Path.exists_eq_append_of_parent? above
  obtain ⟨further, goesOn⟩ := names_of_parent? above filled
  rw [start_eq_of_isAbsolute_iff (Path.isAbsolute_of_parent? above filled)] at begins walked
  rw [goesOn] at walked
  obtain ⟨between, toParent, onwards⟩ := walk_append.mp walked
  apply isDirectory_iff.mpr
  refine ⟨between, ?_, get?_eq_directory_of_walk onwards here⟩
  apply locateNames_eq_ok_iff.mpr
  refine ⟨⟨?_, filled, ?_⟩, begins, toParent⟩
  · intro nul
    apply clean
    rw [spelled, String.toList_append]
    exact List.mem_append_left _ nul
  · rw [spelled, String.utf8ByteSize_append] at short
    omega

/-- Where a path leads to a directory, so do those above it. -/
theorem isDirectory_of_isAbove {tree : FileTree} {above path : String}
    (isAbove : Path.IsAbove above path) (filled : above ≠ "") (stands : tree.IsDirectory path) :
    tree.IsDirectory above := by
  induction isAbove with
  | parent isParent => exact isDirectory_of_parent? isParent filled stands
  | @further between path isParent higher inductionHypothesis =>
    apply inductionHypothesis
    apply isDirectory_of_parent? isParent _ stands
    rintro rfl
    exact Path.not_isAbove_empty above higher

theorem Accepts.isDirectory_of_isAbove {tree : FileTree} {above path : String}
    {location : Location} (accepts : tree.Accepts path location)
    (isAbove : Path.IsAbove above path) (filled : above ≠ "") : tree.IsDirectory above := by
  cases isAbove with
  | parent isParent => exact (accepts.parent above isParent).resolve_left filled
  | @further between path isParent higher =>
    rcases accepts.parent between isParent with rfl | stands
    · exact absurd higher (Path.not_isAbove_empty above)
    · exact FileTree.isDirectory_of_isAbove higher filled stands

/-- A file can be written in a directory that is there. -/
theorem accepts_of_isDirectory {tree : FileTree} {dir name : String} {location : Location}
    (leads : tree.locate dir = .ok location) (stands : tree.get? location = some .directory)
    (ordinary : Path.IsOrdinary name) (clean : '\x00' ∉ name.toList)
    (short : name.utf8ByteSize ≤ maxNameBytes)
    (fits : (dir ++ "/" ++ name).utf8ByteSize ≤ maxPathBytes)
    (parent : Path.parent? (dir ++ "/" ++ name) = some dir)
    (free : tree.get? (location ++ [name]) ≠ some .directory) :
    tree.Accepts (dir ++ "/" ++ name) (location ++ [name]) := by
  obtain ⟨⟨dirClean, filled, _⟩, begins, walked⟩ := locateNames_eq_ok_iff.mp leads
  obtain ⟨nonempty, noSlash, noDot, noDots⟩ := ordinary
  refine ⟨?_, ?_, ?_, free⟩
  · intro above isParent
    obtain rfl := Option.some.inj (parent.symm.trans isParent)
    exact .inr (isDirectory_iff.mpr ⟨location, leads, stands⟩)
  · exact Path.not_endsInSlash_append nonempty noSlash
  · have start : tree.start (dir ++ "/" ++ name) = tree.start dir := by
      apply start_eq_of_isAbsolute_iff
      rw [String.append_assoc]
      exact Path.isAbsolute_append filled _
    have step : tree.walk location [name] = .ok (location ++ [name]) := by
      have fitting : ¬ maxNameBytes < name.utf8ByteSize := Nat.not_lt.mpr short
      simp only [walk, stands, noDot, noDots, fitting, if_false]
    apply locateNames_eq_ok_iff.mpr
    rw [start, names_append_slash, names_of_isOrdinary ⟨nonempty, noSlash, noDot, noDots⟩]
    refine ⟨⟨?_, ?_, fits⟩, begins, walk_append.mpr ⟨location, walked, step⟩⟩
    · simp [dirClean, clean]
    · simp [filled]

/-- Names lead from a location to the same place in all trees in which they lead anywhere. -/
theorem walk_unique {first second : FileTree} {location found other : Location}
    {names : List String} (walked : first.walk location names = .ok found)
    (walkedToo : second.walk location names = .ok other) : found = other := by
  induction names generalizing location with
  | nil => exact Except.ok.inj (walked.symm.trans walkedToo)
  | cons name rest inductionHypothesis =>
    unfold walk at walked walkedToo
    split at walked
    next => contradiction
    next => contradiction
    next =>
      split at walkedToo
      next => contradiction
      next => contradiction
      next =>
        split at walked
        next dot =>
          rw [if_pos dot] at walkedToo
          exact inductionHypothesis walked walkedToo
        next named =>
          rw [if_neg named] at walkedToo
          split at walked
          next up =>
            rw [if_pos up] at walkedToo
            exact inductionHypothesis walked walkedToo
          next down =>
            rw [if_neg down] at walkedToo
            split at walked
            next => contradiction
            next short =>
              rw [if_neg short] at walkedToo
              exact inductionHypothesis walked walkedToo

theorem locate_unique {first second : FileTree} {path : String} {location other : Location}
    (same : second.workingDir = first.workingDir) (leads : first.locate path = .ok location)
    (leadsToo : second.locate path = .ok other) : location = other := by
  obtain ⟨_, _, walked⟩ := locateNames_eq_ok_iff.mp leads
  obtain ⟨_, _, walkedToo⟩ := locateNames_eq_ok_iff.mp leadsToo
  have start : second.start path = first.start path := by rw [FileTree.start, FileTree.start, same]
  rw [start] at walkedToo
  exact walk_unique walked walkedToo

end FileTree
end Scaffold
