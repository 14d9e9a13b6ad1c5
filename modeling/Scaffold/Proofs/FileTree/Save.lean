import Scaffold.Proofs.FileTree.Growth

/-!
What saving a file does to a tree.  A save that ends well has added directories above the file and
written it; one that fails has added directories and written nothing.  Where the directory is there
already, a file is written and nothing else happens.
-/

namespace Scaffold.FileTree

theorem writeFile_eq_ok_iff {tree after : FileTree} {path contents : String} :
    tree.writeFile path contents = .ok after ↔ ¬ Path.EndsInSlash path ∧
      ∃ location, tree.locate path = .ok location ∧ tree.get? location ≠ some .directory ∧
        after = tree.put location (.file contents) := by
  unfold writeFile
  by_cases slash : Path.EndsInSlash path
  · simp only [slash, if_true, not_true_eq_false, false_and, iff_false]
    intro written
    split at written <;> contradiction
  · simp only [slash, if_false, not_false_eq_true, true_and]
    cases tree.locate path with
    | error cause => simp
    | ok location =>
      by_cases stands : tree.get? location = some .directory
      · simp [stands]
      · simp only [stands, if_false, Except.ok.injEq]
        constructor
        · rintro rfl
          exact ⟨location, rfl, stands, rfl⟩
        · rintro ⟨_, rfl, _, rfl⟩
          rfl

/-- A file can be written at the location to which the path leads: the directory for it is there,
and it is no directory itself. -/
structure Accepts (tree : FileTree) (path : String) (location : Location) : Prop where
  parent (above : String) : Path.parent? path = some above → above = "" ∨ tree.IsDirectory above
  noSlash : ¬ Path.EndsInSlash path
  leads : tree.locate path = .ok location
  free : tree.get? location ≠ some .directory

theorem accepts_iff {tree : FileTree} {path : String} {location : Location} :
    tree.Accepts path location ↔
      (∀ above ∈ Path.parent? path, above = "" ∨ tree.IsDirectory above) ∧
        ¬ Path.EndsInSlash path ∧ (tree.locate path).toOption = some location ∧
        tree.get? location ≠ some .directory := by
  have leads_iff : (tree.locate path).toOption = some location ↔
      tree.locate path = .ok location := by
    cases tree.locate path <;> simp [Except.toOption]
  rw [leads_iff]
  constructor
  · rintro ⟨parent, noSlash, leads, free⟩
    exact ⟨parent, noSlash, leads, free⟩
  · rintro ⟨parent, noSlash, leads, free⟩
    exact ⟨parent, noSlash, leads, free⟩

instance (tree : FileTree) (path : String) (location : Location) :
    Decidable (tree.Accepts path location) :=
  decidable_of_iff _ accepts_iff.symm

theorem Accepts.of_keeps {before after : FileTree} {path : String} {location : Location}
    (accepts : before.Accepts path location) (keeps : Keeps before after)
    (free : after.get? location ≠ some .directory) : after.Accepts path location where
  parent above isAbove := (accepts.parent above isAbove).imp_right keeps.isDirectory
  noSlash := accepts.noSlash
  leads := keeps.locate accepts.leads
  free := free

theorem Accepts.get?_put {tree : FileTree} {path : String} {location : Location}
    (accepts : tree.Accepts path location) (node : Node) (other : Location) :
    (tree.put location node).get? other = if other = location then some node else tree.get? other :=
  get?_put_of_locateNames accepts.leads accepts.free node other

theorem Accepts.keeps_put {tree : FileTree} {path : String} {location : Location}
    (accepts : tree.Accepts path location) (node : Node) : Keeps tree (tree.put location node) where
  workingDir_eq := rfl
  directory {other} stands := by
    rw [accepts.get?_put, if_neg]
    · exact stands
    · rintro rfl
      exact accepts.free stands

theorem createDirs_eq_self {tree : FileTree} {path : String}
    (there : path = "" ∨ tree.IsDirectory path) : tree.createDirs path = (tree, .ok ()) := by
  rw [createDirs]
  rcases there with empty | there
  · rw [if_pos empty]
  · split
    next => rfl
    next =>
      have tried : tree.makeDir path = .error .alreadyExists := by
        have stands := there
        unfold IsDirectory at stands
        unfold makeDir
        cases leads : tree.locate path with
        | error cause => simp [leads, Except.toOption] at stands
        | ok location =>
          have here : tree.get? location = some .directory := by
            simpa [leads, Except.toOption] using stands
          simp [here]
      have other : IoError.alreadyExists ≠ IoError.noEntry := by decide
      simp only [tried, other, if_false]

/-- The directory for a file is made by adding directories that stand above it. -/
theorem grows_createDirs_parent (tree : FileTree) (path : String) :
    Grows (Path.IsAbove · path) tree ((Path.parent? path).elim (tree, .ok ()) tree.createDirs).1 ∧
      (((Path.parent? path).elim (tree, .ok ()) tree.createDirs).2 = .ok () →
        ∀ above, Path.parent? path = some above → above = "" ∨
          ((Path.parent? path).elim (tree, .ok ()) tree.createDirs).1.IsDirectory above) := by
  cases isAbove : Path.parent? path with
  | none => exact ⟨.refl _ tree, by simp⟩
  | some above =>
    obtain ⟨grows, there⟩ := grows_createDirs tree above
    refine ⟨grows.mono ?_, ?_⟩
    · rintro named (rfl | higher)
      · exact .parent isAbove
      · exact .further isAbove higher
    · intro done other same
      obtain rfl := Option.some.inj same
      exact there done

/-- What a save that ends well has done. -/
theorem save_eq_ok {tree after : FileTree} {path contents : String}
    (saved : tree.save path contents = (after, .ok ())) :
    ∃ made location, Grows (Path.IsAbove · path) tree made ∧ made.Accepts path location ∧
      after = made.put location (.file contents) := by
  obtain ⟨grows, there⟩ := grows_createDirs_parent tree path
  unfold save at saved
  split at saved
  next => simp at saved
  next made ready =>
    rw [ready] at grows there
    split at saved
    next written wrote =>
      obtain ⟨rfl, _⟩ := Prod.mk.inj saved
      obtain ⟨noSlash, location, leads, free, rfl⟩ := writeFile_eq_ok_iff.mp wrote
      exact ⟨made, location, grows, ⟨there rfl, noSlash, leads, free⟩, rfl⟩
    next => simp at saved

/-- What a save that fails has done, and the error that it gives. -/
theorem save_eq_error {tree after : FileTree} {path contents : String} {error : Error}
    (failed : tree.save path contents = (after, .error error)) :
    Grows (Path.IsAbove · path) tree after ∧ ∃ named cause, error = .filesystem named cause := by
  obtain ⟨grows, _⟩ := grows_createDirs_parent tree path
  unfold save at failed
  split at failed
  next made cause ready =>
    obtain ⟨rfl, same⟩ := Prod.mk.inj failed
    rw [ready] at grows
    exact ⟨grows, _, cause, (Except.error.inj same).symm⟩
  next made ready =>
    rw [ready] at grows
    split at failed
    next => simp at failed
    next cause refused =>
      obtain ⟨rfl, same⟩ := Prod.mk.inj failed
      exact ⟨grows, _, cause, (Except.error.inj same).symm⟩

theorem Accepts.save_eq {tree : FileTree} {path : String} {location : Location}
    (accepts : tree.Accepts path location) (contents : String) :
    tree.save path contents = (tree.put location (.file contents), .ok ()) := by
  have ready : (Path.parent? path).elim (tree, .ok ()) tree.createDirs = (tree, .ok ()) := by
    cases isAbove : Path.parent? path with
    | none => rfl
    | some above => exact createDirs_eq_self (accepts.parent above isAbove)
  have wrote : tree.writeFile path contents = .ok (tree.put location (.file contents)) :=
    writeFile_eq_ok_iff.mpr ⟨accepts.noSlash, location, accepts.leads, accepts.free, rfl⟩
  simp only [save, ready, wrote]

end Scaffold.FileTree
