import Scaffold.Proofs.FileTree.Save
import Scaffold.Run

/-!
What saving a list of files leaves behind.  Files are saved in order up to the first that fails:
what was saved before it stands where the paths lead, the last file at a location winning, and
nothing else has changed but for directories above the files that were tried.
-/

namespace Scaffold.SourceFile

open FileTree

/-- What stands in a tree after files were saved, and more were tried. -/
structure Stored (outputRoot : String) (saved tried : List SourceFile) (before after : FileTree) :
    Prop where
  keeps : Keeps before after
  /-- Each file's path leads to a place for a file, whose directory is there. -/
  accepts (file : SourceFile) : file ∈ saved →
    ∃ location, after.Accepts (file.target outputRoot) location
  /-- The last of the files that go to a location stands there. -/
  written (earlier : List SourceFile) (file : SourceFile) (later : List SourceFile)
    (location : Location) : saved = earlier ++ file :: later →
    after.locate (file.target outputRoot) = .ok location →
    (∀ other ∈ later, after.locate (other.target outputRoot) ≠ .ok location) →
    after.get? location = some (.file file.contents)
  /-- Where none of the files goes, the files are those that were there before. -/
  others (location : Location) :
    (∀ file ∈ saved, after.locate (file.target outputRoot) ≠ .ok location) →
    ∀ contents, after.get? location = some (.file contents) ↔
      before.get? location = some (.file contents)
  /-- A new directory stands where nothing stood, and above a file that was tried. -/
  added (location : Location) : after.get? location = some .directory →
    before.get? location = some .directory ∨ before.get? location = none ∧
      ∃ file ∈ tried, ∃ path, Path.IsAbove path (file.target outputRoot) ∧
        after.locate path = .ok location

namespace Stored

variable {outputRoot : String} {saved tried : List SourceFile} {before after : FileTree}

theorem of_grows {file : SourceFile} (among : file ∈ tried)
    (grows : Grows (Path.IsAbove · (file.target outputRoot)) before after) :
    Stored outputRoot [] tried before after where
  keeps := grows.keeps
  accepts _ none := by simp at none
  written earlier file later _ split := by simp at split
  others location _ contents := grows.get?_file_iff location contents
  added location stands := by
    rcases grows.get?_or location with same | ⟨none, _, path, above, leads⟩
    · exact .inl (same ▸ stands)
    · exact .inr ⟨none, file, among, path, above, leads⟩

theorem refl (outputRoot : String) (tree : FileTree) : Stored outputRoot [] [] tree tree where
  keeps := .refl tree
  accepts _ none := by simp at none
  written earlier file later _ split := by simp at split
  others _ _ _ := Iff.rfl
  added _ stands := .inl stands

theorem cons {file : SourceFile} {tree : FileTree}
    (savedFirst : tree.save (file.target outputRoot) file.contents = (before, .ok ()))
    (rest : Stored outputRoot saved tried before after) :
    Stored outputRoot (file :: saved) (file :: tried) tree after := by
  obtain ⟨made, own, grows, accepts, rfl⟩ := save_eq_ok savedFirst
  have changed := accepts.get?_put (.file file.contents)
  have kept : Keeps made after := (accepts.keeps_put _).trans rest.keeps
  have ownFile : (made.put own (.file file.contents)).get? own = some (.file file.contents) :=
    (changed own).trans (if_pos rfl)
  -- Later files only add directories where nothing stands, and here stands this file.
  have free : after.get? own ≠ some .directory := by
    intro stands
    rcases rest.added own stands with stands | ⟨none, _⟩
    · simp [ownFile] at stands
    · simp [ownFile] at none
  have acceptsAfter := accepts.of_keeps kept free
  refine ⟨grows.keeps.trans kept, ?_, ?_, ?_, ?_⟩
  · intro other among
    rcases List.mem_cons.mp among with rfl | among
    · exact ⟨own, acceptsAfter⟩
    · exact rest.accepts other among
  · intro earlier other later location split leads last
    -- The last file at a location is this one, or it is the last there among the rest.
    rcases List.cons_eq_append_iff.mp split with ⟨rfl, same⟩ | ⟨earlier, rfl, rest'⟩
    · obtain ⟨rfl, rfl⟩ := List.cons.inj same
      obtain rfl : own = location := Except.ok.inj (acceptsAfter.leads.symm.trans leads)
      exact (rest.others own last other.contents).mpr ownFile
    · exact rest.written earlier other later location rest' leads last
  · intro location elsewhere contents
    have apart : location ≠ own := by
      rintro rfl
      exact elsewhere file List.mem_cons_self acceptsAfter.leads
    have restElsewhere : ∀ other ∈ saved,
        after.locate (other.target outputRoot) ≠ .ok location := by
      intro other among
      exact elsewhere other (List.mem_cons_of_mem _ among)
    rw [rest.others location restElsewhere, changed, if_neg apart]
    exact grows.get?_file_iff location contents
  · intro location stands
    have added : made.get? location = some .directory → tree.get? location = some .directory ∨
        tree.get? location = none ∧ ∃ other ∈ file :: tried, ∃ path,
          Path.IsAbove path (other.target outputRoot) ∧ after.locate path = .ok location := by
      intro stands
      rcases grows.get?_or location with same | ⟨none, _, path, above, leads⟩
      · exact .inl (same ▸ stands)
      · exact .inr ⟨none, file, List.mem_cons_self, path, above, kept.locate leads⟩
    rcases rest.added location stands with stands | ⟨none, other, among, path, above, leads⟩
    · rw [changed] at stands
      split at stands
      next => simp at stands
      next => exact added stands
    · rw [changed] at none
      split at none
      next => simp at none
      next =>
        refine .inr ⟨?_, other, List.mem_cons_of_mem _ among, path, above, leads⟩
        rcases grows.get?_or location with same | ⟨none, _⟩
        · exact same ▸ none
        · exact none

end Stored

section Steps

variable {outputRoot : String} {file : SourceFile} {tree after : FileTree}

theorem saveAll_cons_of_error {error : Error}
    (failed : tree.save (file.target outputRoot) file.contents = (after, .error error))
    (rest : List SourceFile) :
    saveAll outputRoot (file :: rest) tree = { result := .error error, tree := after } := by
  unfold saveAll
  simp only [failed]

theorem saveAll_cons_of_ok
    (saved : tree.save (file.target outputRoot) file.contents = (after, .ok ()))
    (rest : List SourceFile) :
    saveAll outputRoot (file :: rest) tree =
      { result := (saveAll outputRoot rest after).result.map (file.target outputRoot :: ·)
        tree := (saveAll outputRoot rest after).tree
        events := .fileWritten file.className (file.target outputRoot) ::
          (saveAll outputRoot rest after).events } := by
  rw [saveAll.eq_def]
  simp only [saved]

end Steps

/-- The tree in which all of these files have been tried, one after the other. -/
def treeAfter (outputRoot : String) (files : List SourceFile) (tree : FileTree) : FileTree :=
  files.foldl (fun tree file => (tree.save (file.target outputRoot) file.contents).1) tree

/-- What comes of saving the file at `index`, where those before it have been tried. -/
def attempt? (outputRoot : String) (files : List SourceFile) (tree : FileTree) (index : Nat) :
    Option (Except Error Unit) :=
  files[index]?.map fun file => ((treeAfter outputRoot (files.take index) tree).save
    (file.target outputRoot) file.contents).2

/-- The file at `index` is the first that fails; where none does, `index` is their number. -/
structure IsFirstFailure (outputRoot : String) (files : List SourceFile) (tree : FileTree)
    (index : Nat) : Prop where
  earlier (before : Nat) : before < index →
    attempt? outputRoot files tree before = some (.ok ())
  fails : index = files.length ∨
    ∃ error, attempt? outputRoot files tree index = some (.error error)

section FirstFailure

variable {outputRoot : String} {files : List SourceFile} {tree : FileTree} {index : Nat}

theorem attempt?_cons_zero {file : SourceFile} {after : FileTree} {result : Except Error Unit}
    (tried : tree.save (file.target outputRoot) file.contents = (after, result))
    (rest : List SourceFile) : attempt? outputRoot (file :: rest) tree 0 = some result := by
  simp [attempt?, treeAfter, tried]

theorem attempt?_cons_succ {file : SourceFile} {after : FileTree} {result : Except Error Unit}
    (tried : tree.save (file.target outputRoot) file.contents = (after, result))
    (rest : List SourceFile) (index : Nat) :
    attempt? outputRoot (file :: rest) tree (index + 1) = attempt? outputRoot rest after index := by
  simp [attempt?, treeAfter, tried]

theorem isFirstFailure_nil_iff : IsFirstFailure outputRoot [] tree index ↔ index = 0 := by
  constructor
  · rintro ⟨_, whole | ⟨error, failed⟩⟩
    · exact whole
    · simp [attempt?] at failed
  · rintro rfl
    exact ⟨by simp, .inl rfl⟩

theorem isFirstFailure_cons_of_error {file : SourceFile} {after : FileTree} {error : Error}
    (failed : tree.save (file.target outputRoot) file.contents = (after, .error error))
    (rest : List SourceFile) : IsFirstFailure outputRoot (file :: rest) tree index ↔ index = 0 := by
  have first := attempt?_cons_zero failed rest
  constructor
  · rintro ⟨earlier, _⟩
    cases index with
    | zero => rfl
    | succ index =>
      have passed := earlier 0 (Nat.succ_pos index)
      rw [first] at passed
      simp at passed
  · rintro rfl
    exact ⟨by simp, .inr ⟨error, first⟩⟩

theorem isFirstFailure_cons_of_ok {file : SourceFile} {after : FileTree}
    (saved : tree.save (file.target outputRoot) file.contents = (after, .ok ()))
    (rest : List SourceFile) :
    IsFirstFailure outputRoot (file :: rest) tree index ↔
      ∃ later, index = later + 1 ∧ IsFirstFailure outputRoot rest after later := by
  have first := attempt?_cons_zero saved rest
  have next := attempt?_cons_succ saved rest
  constructor
  · rintro ⟨earlier, fails⟩
    cases index with
    | zero =>
      rcases fails with whole | ⟨error, failed⟩
      · simp at whole
      · rw [first] at failed
        simp at failed
    | succ later =>
      refine ⟨later, rfl, ?_, ?_⟩
      · intro before less
        rw [← next]
        exact earlier (before + 1) (Nat.succ_lt_succ less)
      · rw [next] at fails
        exact fails.imp_left Nat.succ.inj
  · rintro ⟨later, rfl, earlier, fails⟩
    refine ⟨?_, ?_⟩
    · intro before less
      cases before with
      | zero => exact first
      | succ before =>
        rw [next]
        exact earlier before (Nat.lt_of_succ_lt_succ less)
    · rw [next]
      exact fails.imp_left (congrArg Nat.succ)

theorem exists_isFirstFailure (outputRoot : String) (files : List SourceFile) (tree : FileTree) :
    ∃ index, IsFirstFailure outputRoot files tree index := by
  induction files generalizing tree with
  | nil => exact ⟨0, isFirstFailure_nil_iff.mpr rfl⟩
  | cons file rest inductionHypothesis =>
    rcases tried : tree.save (file.target outputRoot) file.contents with ⟨after, error | _⟩
    · exact ⟨0, (isFirstFailure_cons_of_error tried rest).mpr rfl⟩
    · obtain ⟨later, first⟩ := inductionHypothesis after
      exact ⟨later + 1, (isFirstFailure_cons_of_ok tried rest).mpr ⟨later, rfl, first⟩⟩

theorem result_saveAll_eq_ok_iff (first : IsFirstFailure outputRoot files tree index) :
    (saveAll outputRoot files tree).result = .ok (files.map (·.target outputRoot)) ↔
      index = files.length := by
  induction files generalizing tree index with
  | nil => exact iff_of_true rfl (isFirstFailure_nil_iff.mp first)
  | cons file rest inductionHypothesis =>
    rcases tried : tree.save (file.target outputRoot) file.contents with ⟨after, error | _⟩
    · obtain rfl := (isFirstFailure_cons_of_error tried rest).mp first
      simp [saveAll_cons_of_error tried]
    · obtain ⟨later, rfl, firstLater⟩ := (isFirstFailure_cons_of_ok tried rest).mp first
      rw [saveAll_cons_of_ok tried, List.length_cons, Nat.add_right_cancel_iff,
        ← inductionHypothesis firstLater]
      cases (saveAll outputRoot rest after).result with
      | error error => simp [Except.map]
      | ok paths => simp [Except.map]

/-- The error is that of the first file that fails, and it names a path. -/
theorem result_saveAll_eq_error {error : Error}
    (first : IsFirstFailure outputRoot files tree index)
    (failed : attempt? outputRoot files tree index = some (.error error)) :
    (saveAll outputRoot files tree).result = .error error ∧
      ∃ path cause, error = .filesystem path cause := by
  induction files generalizing tree index with
  | nil => simp [attempt?] at failed
  | cons file rest inductionHypothesis =>
    rcases tried : tree.save (file.target outputRoot) file.contents with ⟨after, cause | _⟩
    · obtain rfl := (isFirstFailure_cons_of_error tried rest).mp first
      rw [attempt?_cons_zero tried] at failed
      obtain rfl := Except.error.inj (Option.some.inj failed)
      rw [saveAll_cons_of_error tried]
      exact ⟨rfl, (save_eq_error tried).2⟩
    · obtain ⟨later, rfl, firstLater⟩ := (isFirstFailure_cons_of_ok tried rest).mp first
      rw [attempt?_cons_succ tried] at failed
      obtain ⟨result, named⟩ := inductionHypothesis firstLater failed
      rw [saveAll_cons_of_ok tried, result]
      exact ⟨rfl, named⟩

theorem eq_length_of_ok {paths : List String} (first : IsFirstFailure outputRoot files tree index)
    (done : (saveAll outputRoot files tree).result = .ok paths) : index = files.length := by
  rcases first.fails with whole | ⟨error, failed⟩
  · exact whole
  · rw [(result_saveAll_eq_error first failed).1] at done
    contradiction

theorem saved_of_map_eq_ok {saving : Saving} {files result : List SourceFile}
    (done : (saving.result.map fun _ => files) = .ok result) :
    result = files ∧ ∃ paths, saving.result = .ok paths := by
  cases outcome : saving.result with
  | error error =>
    rw [outcome] at done
    contradiction
  | ok paths =>
    rw [outcome] at done
    exact ⟨(Except.ok.inj done).symm, paths, rfl⟩

theorem tree_saveAll (first : IsFirstFailure outputRoot files tree index) :
    (saveAll outputRoot files tree).tree =
      treeAfter outputRoot (files.take (index + 1)) tree := by
  induction files generalizing tree index with
  | nil => rfl
  | cons file rest inductionHypothesis =>
    rcases tried : tree.save (file.target outputRoot) file.contents with ⟨after, error | _⟩
    · obtain rfl := (isFirstFailure_cons_of_error tried rest).mp first
      rw [saveAll_cons_of_error tried]
      simp [treeAfter, tried]
    · obtain ⟨later, rfl, firstLater⟩ := (isFirstFailure_cons_of_ok tried rest).mp first
      rw [saveAll_cons_of_ok tried, inductionHypothesis firstLater]
      simp [treeAfter, tried]

theorem events_saveAll (first : IsFirstFailure outputRoot files tree index) :
    (saveAll outputRoot files tree).events =
      (files.take index).map fun file => .fileWritten file.className (file.target outputRoot) := by
  induction files generalizing tree index with
  | nil =>
    rw [List.take_nil]
    rfl
  | cons file rest inductionHypothesis =>
    rcases tried : tree.save (file.target outputRoot) file.contents with ⟨after, error | _⟩
    · obtain rfl := (isFirstFailure_cons_of_error tried rest).mp first
      rw [saveAll_cons_of_error tried]
      rfl
    · obtain ⟨later, rfl, firstLater⟩ := (isFirstFailure_cons_of_ok tried rest).mp first
      rw [saveAll_cons_of_ok tried, inductionHypothesis firstLater]
      rfl

theorem stored_saveAll (first : IsFirstFailure outputRoot files tree index) :
    Stored outputRoot (files.take index) (files.take (index + 1)) tree
      (saveAll outputRoot files tree).tree := by
  induction files generalizing tree index with
  | nil =>
    rw [List.take_nil, List.take_nil]
    exact .refl outputRoot tree
  | cons file rest inductionHypothesis =>
    rcases tried : tree.save (file.target outputRoot) file.contents with ⟨after, error | _⟩
    · obtain rfl := (isFirstFailure_cons_of_error tried rest).mp first
      rw [saveAll_cons_of_error tried]
      exact .of_grows List.mem_cons_self (save_eq_error tried).1
    · obtain ⟨later, rfl, firstLater⟩ := (isFirstFailure_cons_of_ok tried rest).mp first
      rw [saveAll_cons_of_ok tried]
      exact .cons tried (inductionHypothesis firstLater)

end FirstFailure

/-- The first file that fails ends the saving: the files before it stand where their paths lead, the
error is its own, the files before it are reported, and nothing is done for those behind it. -/
theorem saveAll_stops_at_first_failure (outputRoot : String) (files : List SourceFile)
    (tree : FileTree) :
    ∃ index, IsFirstFailure outputRoot files tree index ∧
      ((saveAll outputRoot files tree).result = .ok (files.map (·.target outputRoot)) ↔
        index = files.length) ∧
      (∀ error, attempt? outputRoot files tree index = some (.error error) →
        (saveAll outputRoot files tree).result = .error error ∧
          ∃ path cause, error = .filesystem path cause) ∧
      (saveAll outputRoot files tree).tree =
        treeAfter outputRoot (files.take (index + 1)) tree ∧
      Stored outputRoot (files.take index) (files.take (index + 1)) tree
        (saveAll outputRoot files tree).tree ∧
      (saveAll outputRoot files tree).events.map (fun event => (event.level, event.message)) =
        (files.take index).map fun file =>
          (.info, file.className ++ ": " ++ file.target outputRoot) := by
  obtain ⟨index, first⟩ := exists_isFirstFailure outputRoot files tree
  refine ⟨index, first, result_saveAll_eq_ok_iff first, fun error => result_saveAll_eq_error first,
    tree_saveAll first, stored_saveAll first, ?_⟩
  rw [events_saveAll first, List.map_map]
  rfl

end Scaffold.SourceFile
