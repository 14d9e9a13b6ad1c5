import Mathlib.Data.List.Induction
import Mathlib.Data.List.Infix
import Scaffold.Proofs.FileTree.Above
import Scaffold.Proofs.Text.Lines

/-!
Saving a file under a plain path.  Where a file stands in the way of a directory, or a directory in
that of the file, nothing is done at all; otherwise the directories that are missing are made, from
the first one down, and the file is written.
-/

namespace Scaffold.FileTree

/-- A name that leads down and that the system takes. -/
def LeadsDown (name : String) : Prop :=
  Path.IsOrdinary name ∧ name.utf8ByteSize ≤ maxNameBytes

instance (name : String) : Decidable (LeadsDown name) :=
  inferInstanceAs (Decidable (_ ∧ _))

/-- The names of a relative path that leads straight down. -/
structure IsPlain (names : List String) : Prop where
  down : ∀ name ∈ names, LeadsDown name
  clean : ∀ name ∈ names, '\x00' ∉ name.toList
  fits : ("/".intercalate names).utf8ByteSize ≤ maxPathBytes

theorem IsPlain.front {front back : List String} (plain : IsPlain (front ++ back)) :
    IsPlain front where
  down name among := plain.down name (List.mem_append_left back among)
  clean name among := plain.clean name (List.mem_append_left back among)
  fits := by
    have whole := plain.fits
    by_cases filled : front = []
    · rw [filled]
      decide
    · by_cases last : back = []
      · rwa [last, List.append_nil] at whole
      · rw [String.intercalate_append_of_ne_nil filled last, String.utf8ByteSize_append,
          String.utf8ByteSize_append] at whole
        omega

section Paths

variable {names : List String}

theorem names_intercalate (ordinary : ∀ name ∈ names, Path.IsOrdinary name) :
    FileTree.names ("/".intercalate names) = names := by
  induction names with
  | nil => simp [FileTree.names, Path.segments]
  | cons name rest inductionHypothesis =>
    obtain ⟨own, later⟩ := List.forall_mem_cons.mp ordinary
    by_cases last : rest = []
    · rw [last, String.intercalate_singleton, names_of_isOrdinary own]
    · rw [String.intercalate_cons_of_ne_nil last, names_append_slash, names_of_isOrdinary own,
        inductionHypothesis later, List.singleton_append]

theorem not_isAbsolute_intercalate (ordinary : ∀ name ∈ names, Path.IsOrdinary name) :
    ¬ Path.IsAbsolute ("/".intercalate names) := by
  cases names with
  | nil => decide
  | cons name rest =>
    have own := ordinary name List.mem_cons_self
    by_cases last : rest = []
    · rw [last, String.intercalate_singleton]
      exact own.relative
    · rw [String.intercalate_cons_of_ne_nil last, String.append_assoc,
        Path.isAbsolute_append own.1]
      exact own.relative

theorem IsPlain.ordinary (plain : IsPlain names) (name : String) (among : name ∈ names) :
    Path.IsOrdinary name :=
  (plain.down name among).1

theorem IsPlain.intercalate_ne_empty (plain : IsPlain names) (filled : names ≠ []) :
    "/".intercalate names ≠ "" := by
  intro empty
  have spelled := names_intercalate plain.ordinary
  rw [empty] at spelled
  exact filled (spelled.symm.trans (by decide))

theorem IsPlain.not_endsInSlash {dirs : List String} {name : String}
    (plain : IsPlain (dirs ++ [name])) : ¬ Path.EndsInSlash ("/".intercalate (dirs ++ [name])) := by
  have own := plain.ordinary name (by simp)
  by_cases alone : dirs = []
  · rw [alone, List.nil_append, String.intercalate_singleton]
    intro slash
    exact own.2.1 (List.mem_of_getLast? slash)
  · rw [String.intercalate_append_of_ne_nil alone (List.cons_ne_nil name []),
      String.intercalate_singleton]
    exact Path.not_endsInSlash_append own.1 own.2.1

theorem IsPlain.locate_eq {tree : FileTree} (ready : tree.WellFormed) (plain : IsPlain names)
    (filled : names ≠ []) :
    tree.locate ("/".intercalate names) = tree.walk tree.workingDir names := by
  have clean : '\x00' ∉ ("/".intercalate names).toList :=
    Text.notMem_intercalate (by decide) plain.clean
  rw [locate, locateNames_eq_walk ready clean (plain.intercalate_ne_empty filled) plain.fits,
    names_intercalate plain.ordinary, start, if_neg (not_isAbsolute_intercalate plain.ordinary)]

theorem IsPlain.parent?_eq {dirs : List String} {name : String} (plain : IsPlain (dirs ++ [name])) :
    Path.parent? ("/".intercalate (dirs ++ [name])) = some ("/".intercalate dirs) := by
  apply Path.parent?_intercalate
  · intro other among
    exact (plain.down other among).1.2.1
  · intro other among
    exact (plain.down other among).1.isIdle_eq_false

end Paths

section Walks

variable {tree : FileTree} {location : Location} {names dirs : List String} {name : String}

/-- Above a node stand directories. -/
theorem get?_eq_directory_of_isSome_append {back : List String} (below : back ≠ [])
    (stands : (tree.get? (location ++ back)).isSome) : tree.get? location = some .directory := by
  induction back generalizing location with
  | nil => contradiction
  | cons first rest inductionHypothesis =>
    cases rest with
    | nil => exact get?_eq_directory_of_isSome stands
    | cons second rest =>
      rw [List.append_cons] at stands
      have inner := inductionHypothesis (List.cons_ne_nil _ _) stands
      exact get?_eq_directory_of_isSome (by rw [inner]; rfl)

theorem walk_cons_of_leadsDown (down : LeadsDown name) (rest : List String)
    (stands : tree.get? location = some .directory) :
    tree.walk location (name :: rest) = tree.walk (location ++ [name]) rest := by
  obtain ⟨⟨_, _, noDot, noDots⟩, short⟩ := down
  have fits : ¬ maxNameBytes < name.utf8ByteSize := Nat.not_lt.mpr short
  simp only [walk, stands, noDot, noDots, fits, if_false]

theorem walk_of_isDirectory (down : ∀ name ∈ names, LeadsDown name)
    (stands : tree.get? (location ++ names) = some .directory) :
    tree.walk location names = .ok (location ++ names) := by
  induction names generalizing location with
  | nil => rw [walk, List.append_nil]
  | cons name rest inductionHypothesis =>
    obtain ⟨own, later⟩ := List.forall_mem_cons.mp down
    have here : tree.get? location = some .directory :=
      get?_eq_directory_of_isSome_append (List.cons_ne_nil name rest) (by rw [stands]; rfl)
    rw [List.append_cons] at stands ⊢
    rw [walk_cons_of_leadsDown own rest here, inductionHypothesis later stands]

theorem walk_append_of_isDirectory (down : ∀ name ∈ dirs, LeadsDown name)
    (stands : tree.get? (location ++ dirs) = some .directory) (back : List String) :
    tree.walk location (dirs ++ back) = tree.walk (location ++ dirs) back := by
  rw [walk_append_eq_bind, walk_of_isDirectory down stands]
  rfl

theorem walk_concat (down : ∀ other ∈ dirs ++ [name], LeadsDown other)
    (stands : tree.get? (location ++ dirs) = some .directory) :
    tree.walk location (dirs ++ [name]) = .ok (location ++ dirs ++ [name]) := by
  obtain ⟨before, own⟩ := List.forall_mem_append.mp down
  rw [walk_append_of_isDirectory before stands,
    walk_cons_of_leadsDown (own name (List.mem_singleton_self name)) [] stands, walk]

/-- Names do not lead past the first one that is not the name of a directory. -/
theorem walk_eq_error {back : List String}
    (down : ∀ other ∈ dirs ++ [name] ++ back, LeadsDown other)
    (stands : tree.get? (location ++ dirs) = some .directory)
    (ends : tree.get? (location ++ dirs ++ [name]) ≠ some .directory) (more : back ≠ []) :
    tree.walk location (dirs ++ [name] ++ back) =
      .error (if (tree.get? (location ++ dirs ++ [name])).isSome then .notDirectory
        else .noEntry) := by
  obtain ⟨toName, _⟩ := List.forall_mem_append.mp down
  obtain ⟨second, rest, rfl⟩ := List.exists_cons_of_ne_nil more
  rw [walk_append_eq_bind, walk_concat toName stands]
  show tree.walk _ (second :: rest) = _
  rw [walk]
  cases found : tree.get? (location ++ dirs ++ [name]) with
  | none => rfl
  | some node =>
    cases node with
    | directory => contradiction
    | file held => rfl

/-- On a way that does not lead to a directory, one is the last. -/
theorem exists_last_directory (here : tree.get? location = some .directory)
    (ends : tree.get? (location ++ names) ≠ some .directory) :
    ∃ dirs name back, names = dirs ++ [name] ++ back ∧
      tree.get? (location ++ dirs) = some .directory ∧
      tree.get? (location ++ dirs ++ [name]) ≠ some .directory := by
  induction names generalizing location with
  | nil =>
    rw [List.append_nil] at ends
    contradiction
  | cons first rest inductionHypothesis =>
    by_cases stands : tree.get? (location ++ [first]) = some .directory
    · rw [List.append_cons] at ends
      obtain ⟨dirs, name, back, rfl, last, beyond⟩ := inductionHypothesis stands ends
      rw [← List.append_cons] at last beyond
      exact ⟨first :: dirs, name, back, rfl, last, beyond⟩
    · rw [← List.append_nil location] at here stands
      exact ⟨[], first, rest, rfl, here, stands⟩

end Walks

/-- A file stands where a directory of the way should be. -/
def IsBlocked (tree : FileTree) (dirs : List String) : Prop :=
  ∃ front, front <+: dirs ∧ ∃ held, tree.get? (tree.workingDir ++ front) = some (.file held)

theorem exists_file_iff {node? : Option Node} :
    (∃ held, node? = some (.file held)) ↔ node? ≠ none ∧ node? ≠ some .directory := by
  cases node? with
  | none => simp
  | some node => cases node <;> simp

instance (tree : FileTree) (dirs : List String) : Decidable (tree.IsBlocked dirs) :=
  decidable_of_iff
    (∃ front ∈ dirs.inits, tree.get? (tree.workingDir ++ front) ≠ none ∧
      tree.get? (tree.workingDir ++ front) ≠ some .directory)
    (by simp only [IsBlocked, List.mem_inits, exists_file_iff])

theorem IsBlocked.mono {tree : FileTree} {front dirs : List String} (blocked : tree.IsBlocked front)
    (isFront : front <+: dirs) : tree.IsBlocked dirs := by
  obtain ⟨further, isFurther, held, stands⟩ := blocked
  exact ⟨further, isFurther.trans isFront, held, stands⟩

theorem get?_eq_none_of_not_isBlocked {tree : FileTree} {front dirs : List String}
    (clear : ¬ tree.IsBlocked dirs) (isFront : front <+: dirs)
    (free : tree.get? (tree.workingDir ++ front) ≠ some .directory) :
    tree.get? (tree.workingDir ++ front) = none := by
  by_contra stands
  exact clear ⟨front, isFront, exists_file_iff.mpr ⟨stands, free⟩⟩

/-- All directories on the way are there, and nothing else is different. -/
structure Opened (dirs : List String) (before after : FileTree) : Prop where
  workingDir_eq : after.workingDir = before.workingDir
  directory (front : List String) : front <+: dirs →
    after.get? (before.workingDir ++ front) = some .directory
  elsewhere (location : Location) :
    (∀ front, front <+: dirs → location ≠ before.workingDir ++ front) →
    after.get? location = before.get? location

section Making

variable {tree made : FileTree} {dirs : List String} {name : String}

theorem Opened.self (stands : tree.get? (tree.workingDir ++ dirs) = some .directory) :
    Opened dirs tree tree where
  workingDir_eq := rfl
  directory front isFront := by
    obtain ⟨back, rfl⟩ := isFront
    by_cases whole : back = []
    · rwa [whole, List.append_nil] at stands
    · rw [← List.append_assoc] at stands
      exact get?_eq_directory_of_isSome_append whole (by rw [stands]; rfl)
  elsewhere _ _ := rfl

/-- What stands below the way is as it was. -/
theorem Opened.get?_concat (opened : Opened dirs tree made) (name : String) :
    made.get? (tree.workingDir ++ dirs ++ [name]) =
      tree.get? (tree.workingDir ++ dirs ++ [name]) := by
  apply opened.elsewhere
  intro front isFront same
  rw [List.append_assoc, List.append_cancel_left_eq] at same
  have shorter := isFront.length_le
  rw [← same, List.length_append, List.length_singleton] at shorter
  omega

theorem Opened.locate_eq (opened : Opened dirs tree made) (plain : IsPlain (dirs ++ [name])) :
    made.locate ("/".intercalate (dirs ++ [name])) = .ok (tree.workingDir ++ dirs ++ [name]) := by
  have stands := opened.directory dirs List.prefix_rfl
  have begins : made.WellFormed := by
    rw [WellFormed, opened.workingDir_eq]
    simpa using opened.directory [] List.nil_prefix
  rw [plain.locate_eq begins (by simp), opened.workingDir_eq]
  exact walk_concat plain.down stands

theorem Opened.exists_makeDir (opened : Opened dirs tree made) (plain : IsPlain (dirs ++ [name]))
    (free : tree.get? (tree.workingDir ++ dirs ++ [name]) = none) :
    ∃ after, made.makeDir ("/".intercalate (dirs ++ [name])) = .ok after ∧
      Opened (dirs ++ [name]) tree after := by
  have freeStill : made.get? (tree.workingDir ++ dirs ++ [name]) = none :=
    (opened.get?_concat name).trans free
  have noDirectory : made.get? (tree.workingDir ++ dirs ++ [name]) ≠ some .directory := by
    rw [freeStill]
    exact nofun
  have changed := get?_put (opened.directory dirs List.prefix_rfl) noDirectory .directory
  refine ⟨_, makeDir_eq_ok_iff.mpr ⟨_, opened.locate_eq plain, freeStill, rfl⟩, ?_, ?_, ?_⟩
  · exact opened.workingDir_eq
  · intro front isFront
    rw [changed]
    rcases List.prefix_concat_iff.mp isFront with rfl | shorter
    · rw [← List.append_assoc, if_pos rfl]
    · split
      next => rfl
      next => exact opened.directory front shorter
  · intro location apart
    have other : location ≠ tree.workingDir ++ dirs ++ [name] := by
      rw [List.append_assoc]
      exact apart _ List.prefix_rfl
    rw [changed, if_neg other]
    apply opened.elsewhere
    intro front isFront
    exact apart front (isFront.trans (List.prefix_append dirs [name]))

theorem createDirs_of_locate_eq_error {path : String} {cause : IoError} (busy : path ≠ "")
    (lost : tree.locate path = .error cause) (other : cause ≠ .noEntry) :
    tree.createDirs path = (tree, .error cause) := by
  have tried : tree.makeDir path = .error cause := by rw [makeDir, lost]
  have absent : ¬ tree.IsDirectory path := by simp [isDirectory_iff, lost]
  rw [createDirs, if_neg busy]
  simp only [tried, other, absent, if_false]

theorem createDirs_of_isFile {path held : String} {location : Location} (busy : path ≠ "")
    (leads : tree.locate path = .ok location) (stands : tree.get? location = some (.file held)) :
    tree.createDirs path = (tree, .error .alreadyExists) := by
  have tried : tree.makeDir path = .error .alreadyExists := by simp [makeDir, leads, stands]
  have absent : ¬ tree.IsDirectory path := by simp [isDirectory_iff, leads, stands]
  have other : IoError.alreadyExists ≠ IoError.noEntry := by decide
  rw [createDirs, if_neg busy]
  simp only [tried, other, absent, if_false]

theorem createDirs_of_isDirectory (ready : tree.WellFormed) (plain : IsPlain dirs)
    (stands : tree.get? (tree.workingDir ++ dirs) = some .directory) :
    tree.createDirs ("/".intercalate dirs) = (tree, .ok ()) := by
  apply createDirs_eq_self
  by_cases none : dirs = []
  · rw [none]
    exact .inl rfl
  · have leads := plain.locate_eq ready none
    rw [walk_of_isDirectory plain.down stands] at leads
    exact .inr (isDirectory_iff.mpr ⟨_, leads, stands⟩)

theorem createDirs_of_makeDir_eq_ok {path : String} (busy : path ≠ "")
    (tried : tree.makeDir path = .ok made) : tree.createDirs path = (made, .ok ()) := by
  rw [createDirs, if_neg busy]
  simp only [tried]

theorem createDirs_of_parent? {path parent : String} {after : FileTree} (busy : path ≠ "")
    (tried : tree.makeDir path = .error .noEntry) (above : Path.parent? path = some parent)
    (ready : tree.createDirs parent = (made, .ok ())) (again : made.makeDir path = .ok after) :
    tree.createDirs path = (after, .ok ()) := by
  rw [createDirs, if_neg busy]
  simp only [tried, if_true]
  split
  next none => simp [above] at none
  next parent' above' =>
    obtain rfl := Option.some.inj (above.symm.trans above')
    simp only [ready, retryDir, again]

/-- A file on the way is met before anything is made. -/
theorem createDirs_of_isBlocked (ready : tree.WellFormed) (plain : IsPlain dirs)
    (blocked : tree.IsBlocked dirs) :
    tree.createDirs ("/".intercalate dirs) =
      (tree, .error (if (tree.get? (tree.workingDir ++ dirs)).isSome then .alreadyExists
        else .notDirectory)) := by
  obtain ⟨front, ⟨back, rfl⟩, held, stands⟩ := blocked
  rcases List.eq_nil_or_concat front with rfl | ⟨init, name, rfl⟩
  · rw [List.append_nil, ready] at stands
    cases stands
  rw [List.concat_eq_append] at plain stands ⊢
  rw [← List.append_assoc] at stands
  have busy : "/".intercalate (init ++ [name] ++ back) ≠ "" :=
    plain.intercalate_ne_empty (by simp)
  have above : tree.get? (tree.workingDir ++ init) = some .directory := by
    apply get?_eq_directory_of_isSome
    rw [stands]
    rfl
  have noDirectory : tree.get? (tree.workingDir ++ init ++ [name]) ≠ some .directory := by
    rw [stands]
    exact nofun
  -- Where the file ends the way, it is there already; else it is no directory to go on from.
  by_cases last : back = []
  · rw [last, List.append_nil] at plain busy ⊢
    rw [createDirs_of_isFile busy ((Opened.self above).locate_eq plain) stands, ← List.append_assoc,
      stands]
    rfl
  · have nothing : tree.get? (tree.workingDir ++ (init ++ [name] ++ back)) = none := by
      rw [← Option.not_isSome_iff_eq_none]
      intro there
      rw [← List.append_assoc, ← List.append_assoc] at there
      exact noDirectory (get?_eq_directory_of_isSome_append last there)
    have lost : tree.locate ("/".intercalate (init ++ [name] ++ back)) = .error .notDirectory := by
      rw [plain.locate_eq ready (by simp), walk_eq_error plain.down above noDirectory last, stands]
      rfl
    rw [createDirs_of_locate_eq_error busy lost (by decide), nothing]
    rfl

/-- Where no file is on the way, nothing is found behind a directory that is missing. -/
theorem locate_eq_noEntry (ready : tree.WellFormed) (plain : IsPlain (dirs ++ [name]))
    (clear : ¬ tree.IsBlocked dirs)
    (missing : tree.get? (tree.workingDir ++ dirs) ≠ some .directory) :
    tree.locate ("/".intercalate (dirs ++ [name])) = .error .noEntry := by
  obtain ⟨front, next, back, rfl, last, beyond⟩ := exists_last_directory ready missing
  have nothing : tree.get? (tree.workingDir ++ front ++ [next]) = none := by
    rw [List.append_assoc] at beyond ⊢
    exact get?_eq_none_of_not_isBlocked clear (List.prefix_append _ back) beyond
  rw [plain.locate_eq ready (by simp)]
  rw [List.append_assoc (front ++ [next])] at plain ⊢
  rw [walk_eq_error plain.down last beyond (by simp), nothing]
  rfl

/-- Where no file is on the way, the directories that are missing are made. -/
theorem exists_createDirs (ready : tree.WellFormed) (plain : IsPlain dirs)
    (clear : ¬ tree.IsBlocked dirs) :
    ∃ made, tree.createDirs ("/".intercalate dirs) = (made, .ok ()) ∧ Opened dirs tree made := by
  -- The deepest directory is tried first, so that the way is taken apart from its end.
  induction dirs using List.reverseRecOn with
  | nil =>
    have here : tree.get? (tree.workingDir ++ []) = some .directory := by rwa [List.append_nil]
    exact ⟨tree, createDirs_of_isDirectory ready plain here, .self here⟩
  | append_singleton dirs name inductionHypothesis =>
    by_cases stands : tree.get? (tree.workingDir ++ (dirs ++ [name])) = some .directory
    · exact ⟨tree, createDirs_of_isDirectory ready plain stands, .self stands⟩
    have free := get?_eq_none_of_not_isBlocked clear List.prefix_rfl stands
    rw [← List.append_assoc] at free
    have busy := plain.intercalate_ne_empty (List.concat_ne_nil name dirs)
    by_cases there : tree.get? (tree.workingDir ++ dirs) = some .directory
    · obtain ⟨after, made, opened⟩ := (Opened.self there).exists_makeDir plain free
      exact ⟨after, createDirs_of_makeDir_eq_ok busy made, opened⟩
    · have clearAbove : ¬ tree.IsBlocked dirs :=
        fun blocked => clear (blocked.mono (List.prefix_append dirs [name]))
      have tried : tree.makeDir ("/".intercalate (dirs ++ [name])) = .error .noEntry := by
        rw [makeDir, locate_eq_noEntry ready plain clearAbove there]
      obtain ⟨made, done, opened⟩ := inductionHypothesis plain.front clearAbove
      obtain ⟨after, again, openedToo⟩ := opened.exists_makeDir plain free
      exact ⟨after, createDirs_of_parent? busy tried plain.parent?_eq done again, openedToo⟩

end Making

/-- A file is there, in a directory, and nothing else is different. -/
structure Saved (dirs : List String) (name contents : String) (before after : FileTree) : Prop where
  workingDir_eq : after.workingDir = before.workingDir
  directory (front : List String) : front <+: dirs →
    after.get? (before.workingDir ++ front) = some .directory
  file : after.get? (before.workingDir ++ dirs ++ [name]) = some (.file contents)
  elsewhere (location : Location) : location ≠ before.workingDir ++ dirs ++ [name] →
    (∀ front, front <+: dirs → location ≠ before.workingDir ++ front) →
    after.get? location = before.get? location

section Saving

variable {tree : FileTree} {dirs : List String} {name : String}

theorem save_of_isBlocked (ready : tree.WellFormed) (plain : IsPlain (dirs ++ [name]))
    (blocked : tree.IsBlocked dirs) (contents : String) :
    tree.save ("/".intercalate (dirs ++ [name])) contents =
      (tree, .error (.filesystem ("/".intercalate dirs)
        (if (tree.get? (tree.workingDir ++ dirs)).isSome then .alreadyExists
          else .notDirectory))) := by
  have failed := createDirs_of_isBlocked ready plain.front blocked
  simp only [save, plain.parent?_eq, Option.elim_some, Option.getD_some, failed]

theorem save_of_isDirectory (ready : tree.WellFormed) (plain : IsPlain (dirs ++ [name]))
    (stands : tree.get? (tree.workingDir ++ dirs ++ [name]) = some .directory) (contents : String) :
    tree.save ("/".intercalate (dirs ++ [name])) contents =
      (tree, .error (.filesystem ("/".intercalate (dirs ++ [name])) .isDirectory)) := by
  have above : tree.get? (tree.workingDir ++ dirs) = some .directory := by
    apply get?_eq_directory_of_isSome
    rw [stands]
    rfl
  have done := createDirs_of_isDirectory ready plain.front above
  have refused : tree.writeFile ("/".intercalate (dirs ++ [name])) contents =
      .error .isDirectory := by
    rw [writeFile, if_neg plain.not_endsInSlash, (Opened.self above).locate_eq plain]
    exact if_pos stands
  simp only [save, plain.parent?_eq, Option.elim_some, done, refused]

theorem exists_save (ready : tree.WellFormed) (plain : IsPlain (dirs ++ [name]))
    (clear : ¬ tree.IsBlocked dirs)
    (free : tree.get? (tree.workingDir ++ dirs ++ [name]) ≠ some .directory) (contents : String) :
    ∃ after, tree.save ("/".intercalate (dirs ++ [name])) contents = (after, .ok ()) ∧
      Saved dirs name contents tree after := by
  obtain ⟨made, done, opened⟩ := exists_createDirs ready plain.front clear
  rw [← opened.get?_concat] at free
  have changed := get?_put (opened.directory dirs List.prefix_rfl) free (.file contents)
  have wrote : made.writeFile ("/".intercalate (dirs ++ [name])) contents =
      .ok (made.put (tree.workingDir ++ dirs ++ [name]) (.file contents)) :=
    writeFile_eq_ok_iff.mpr ⟨plain.not_endsInSlash, _, opened.locate_eq plain, free, rfl⟩
  have result : tree.save ("/".intercalate (dirs ++ [name])) contents =
      (made.put (tree.workingDir ++ dirs ++ [name]) (.file contents), .ok ()) := by
    simp only [save, plain.parent?_eq, Option.elim_some, done, wrote]
  refine ⟨_, result, opened.workingDir_eq, ?_, ?_, ?_⟩
  · intro front isFront
    have stands := opened.directory front isFront
    rw [changed, if_neg]
    · exact stands
    · intro same
      rw [same] at stands
      contradiction
  · rw [changed, if_pos rfl]
  · intro location other apart
    rw [changed, if_neg other]
    exact opened.elsewhere location apart

/-- Saving under a plain path is done unless a file stands in the way of its directories or a
directory in the file's place, and then nothing is done.  The error names the directory for the file
where that cannot be made, and else the path. -/
theorem save_all_or_nothing (ready : tree.WellFormed) (plain : IsPlain (dirs ++ [name]))
    (contents : String) :
    let path := "/".intercalate (dirs ++ [name])
    let place := tree.workingDir ++ dirs ++ [name]
    ((tree.save path contents).2 = .ok () ↔
      ¬ tree.IsBlocked dirs ∧ tree.get? place ≠ some .directory) ∧
    ((tree.save path contents).2 = .ok () →
      Saved dirs name contents tree (tree.save path contents).1) ∧
    ∀ error, (tree.save path contents).2 = .error error →
      (tree.save path contents).1 = tree ∧
        error = if tree.IsBlocked dirs then
            .filesystem ("/".intercalate dirs)
              (if (tree.get? (tree.workingDir ++ dirs)).isSome then .alreadyExists
                else .notDirectory)
          else .filesystem path .isDirectory := by
  dsimp only
  by_cases blocked : tree.IsBlocked dirs
  · rw [save_of_isBlocked ready plain blocked contents]
    refine ⟨iff_of_false nofun fun other => other.1 blocked, nofun, ?_⟩
    rintro error ⟨⟩
    rw [if_pos blocked]
    exact ⟨rfl, rfl⟩
  by_cases stands : tree.get? (tree.workingDir ++ dirs ++ [name]) = some .directory
  · rw [save_of_isDirectory ready plain stands contents]
    refine ⟨iff_of_false nofun fun other => other.2 stands, nofun, ?_⟩
    rintro error ⟨⟩
    rw [if_neg blocked]
    exact ⟨rfl, rfl⟩
  · obtain ⟨after, done, saved⟩ := exists_save ready plain blocked stands contents
    rw [done]
    exact ⟨iff_of_true rfl ⟨blocked, stands⟩, fun _ => saved, nofun⟩

/-- A file in the place of a directory keeps the rest of the way from being made, and elsewhere the
directories are made. -/
theorem save_all_or_nothing_below_file :
    let shop : FileTree :=
      ⟨.folder "work" (.folder "shop" (.file "order" "kept" .empty) .empty) .empty, ["work"]⟩
    shop.WellFormed ∧ IsPlain ["shop", "order", "domain", "Order.java"] ∧
      IsPlain ["shop", "item", "domain", "Item.java"] ∧
      (shop.save "shop/order/domain/Order.java" "new").1 = shop ∧
      (shop.save "shop/order/domain/Order.java" "new").2 =
        .error (.filesystem "shop/order/domain" .notDirectory) ∧
      (shop.save "shop/item/domain/Item.java" "new").2 = .ok () ∧
      Saved ["shop", "item", "domain"] "Item.java" "new" shop
        (shop.save "shop/item/domain/Item.java" "new").1 := by
  intro shop
  have ready : shop.WellFormed := by
    unfold WellFormed
    decide
  have orderPlain : IsPlain ["shop", "order", "domain", "Order.java"] := by
    constructor <;> decide
  have itemPlain : IsPlain ["shop", "item", "domain", "Item.java"] := by
    constructor <;> decide
  have order := @save_all_or_nothing shop ["shop", "order", "domain"] "Order.java" ready orderPlain
    "new"
  have item := @save_all_or_nothing shop ["shop", "item", "domain"] "Item.java" ready itemPlain
    "new"
  have orderPath : "/".intercalate (["shop", "order", "domain"] ++ ["Order.java"]) =
      "shop/order/domain/Order.java" := by decide
  have itemPath : "/".intercalate (["shop", "item", "domain"] ++ ["Item.java"]) =
      "shop/item/domain/Item.java" := by decide
  have blocked : shop.IsBlocked ["shop", "order", "domain"] := by decide
  simp only [orderPath, blocked, not_true_eq_false, false_and, iff_false] at order
  simp only [itemPath] at item
  obtain ⟨notDone, _, failed⟩ := order
  obtain ⟨done_iff, saved, _⟩ := item
  have done := done_iff.mpr (by decide)
  cases result : (shop.save "shop/order/domain/Order.java" "new").2 with
  | ok => exact absurd result notDone
  | error error =>
    obtain ⟨unchanged, rfl⟩ := failed error result
    exact ⟨ready, orderPlain, itemPlain, unchanged, by decide, done, saved done⟩

end Saving

end Scaffold.FileTree
