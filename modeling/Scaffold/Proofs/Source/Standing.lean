import Scaffold.Proofs.Layout.Distinct
import Scaffold.Proofs.Saving

/-!
The files of a table once they are saved.  They go to seven locations, whatever the table is called,
so that none is written over another: each stands where its path leads, and all other files are
those that were there before.
-/

namespace Scaffold

namespace FileTree

structure Same (first second : FileTree) : Prop where
  workingDir_eq : second.workingDir = first.workingDir
  get?_eq (location : Location) : second.get? location = first.get? location

theorem Same.refl (tree : FileTree) : Same tree tree := ⟨rfl, fun _ => rfl⟩

theorem Same.trans {first second third : FileTree} (before : Same first second)
    (after : Same second third) : Same first third where
  workingDir_eq := after.workingDir_eq.trans before.workingDir_eq
  get?_eq location := (after.get?_eq location).trans (before.get?_eq location)

theorem Same.keeps {first second : FileTree} (same : Same first second) : Keeps first second where
  workingDir_eq := same.workingDir_eq
  directory stands := (same.get?_eq _).trans stands

def read? (tree : FileTree) (path : String) : Option String :=
  match (tree.locate path).toOption.bind tree.get? with
  | some (.file contents) => some contents
  | _ => none

theorem read?_eq_some {tree : FileTree} {path contents : String} {location : Location}
    (leads : tree.locate path = .ok location)
    (stands : tree.get? location = some (.file contents)) : tree.read? path = some contents := by
  simp [read?, leads, stands, Except.toOption]

theorem Accepts.same_put {tree : FileTree} {path contents : String} {location : Location}
    (accepts : tree.Accepts path location)
    (stands : tree.get? location = some (.file contents)) :
    Same tree (tree.put location (.file contents)) where
  workingDir_eq := rfl
  get?_eq other := by
    rw [accepts.get?_put]
    split
    next here => rw [here, stands]
    next => rfl

end FileTree

namespace SourceFile

open FileTree

theorem result_saveAll_of_accepts {outputRoot : String} {files : List SourceFile} {tree : FileTree}
    (accepts : ∀ file ∈ files, ∃ location, tree.Accepts (file.target outputRoot) location) :
    (saveAll outputRoot files tree).result = .ok (files.map (·.target outputRoot)) := by
  induction files generalizing tree with
  | nil => rfl
  | cons file rest inductionHypothesis =>
    obtain ⟨own, takes⟩ := accepts file List.mem_cons_self
    have later : ∀ other ∈ rest, ∃ location,
        (tree.put own (.file file.contents)).Accepts (other.target outputRoot) location := by
      intro other among
      obtain ⟨location, takesOther⟩ := accepts other (List.mem_cons_of_mem _ among)
      refine ⟨location, takesOther.of_keeps (takes.keeps_put _) ?_⟩
      rw [takes.get?_put]
      split
      next => simp
      next => exact takesOther.free
    rw [saveAll_cons_of_ok (takes.save_eq file.contents), inductionHypothesis later]
    rfl

theorem same_saveAll {outputRoot : String} {files : List SourceFile} {tree : FileTree}
    (stand : ∀ file ∈ files, ∃ location, tree.Accepts (file.target outputRoot) location ∧
      tree.get? location = some (.file file.contents)) :
    Same tree (saveAll outputRoot files tree).tree := by
  induction files generalizing tree with
  | nil => exact .refl tree
  | cons file rest inductionHypothesis =>
    obtain ⟨own, takes, stands⟩ := stand file List.mem_cons_self
    have same := takes.same_put stands
    have later : ∀ other ∈ rest, ∃ location,
        (tree.put own (.file file.contents)).Accepts (other.target outputRoot) location ∧
          (tree.put own (.file file.contents)).get? location = some (.file other.contents) := by
      intro other among
      obtain ⟨location, takesOther, otherStands⟩ := stand other (List.mem_cons_of_mem _ among)
      have stillStands := (same.get?_eq location).trans otherStands
      exact ⟨location, takesOther.of_keeps same.keeps (by simp [stillStands]), stillStands⟩
    rw [saveAll_cons_of_ok (takes.save_eq file.contents)]
    exact same.trans (inductionHypothesis later)

/-- Files that go to locations of their own all stand there in the end. -/
theorem Stored.get?_eq_file {outputRoot : String} {files tried : List SourceFile}
    {before after : FileTree} (stored : Stored outputRoot files tried before after)
    (distinct : files.Nodup)
    (apart : ∀ file ∈ files, ∀ other ∈ files, ∀ location,
      after.locate (file.target outputRoot) = .ok location →
      after.locate (other.target outputRoot) = .ok location → other = file)
    {file : SourceFile} (among : file ∈ files) {location : Location}
    (leads : after.locate (file.target outputRoot) = .ok location) :
    after.get? location = some (.file file.contents) := by
  obtain ⟨earlier, later, split⟩ := List.append_of_mem among
  refine stored.written earlier file later location split leads ?_
  intro other behind leadsToo
  have otherAmong : other ∈ files := by
    rw [split]
    exact List.mem_append_right earlier (List.mem_cons_of_mem file behind)
  obtain rfl := apart file among other otherAmong location leads leadsToo
  rw [split, List.nodup_append] at distinct
  exact (List.nodup_cons.mp distinct.2.1).1 behind

/-- Each file stands where its path leads, at a location of its own, and all other files are those
that were there before. -/
structure Standing (outputRoot : String) (files : List SourceFile) (before after : FileTree) :
    Prop where
  read (file : SourceFile) : file ∈ files →
    after.read? (file.target outputRoot) = some file.contents
  apart : (files.map fun file => (after.locate (file.target outputRoot)).toOption).Nodup
  others (location : Location) :
    (∀ file ∈ files, after.locate (file.target outputRoot) ≠ .ok location) →
    ∀ contents, after.get? location = some (.file contents) ↔
      before.get? location = some (.file contents)

theorem stored_of_ok {outputRoot : String} {files : List SourceFile} {tree : FileTree}
    {paths : List String} (done : (saveAll outputRoot files tree).result = .ok paths) :
    Stored outputRoot files files tree (saveAll outputRoot files tree).tree := by
  obtain ⟨index, first⟩ := exists_isFirstFailure outputRoot files tree
  have stored := stored_saveAll first
  rw [eq_length_of_ok first done, List.take_length,
    List.take_of_length_le (Nat.le_succ _)] at stored
  exact stored

end SourceFile

namespace Subject

open FileTree

variable {subject : Subject} {outputRoot : String} {tree : FileTree}

theorem files_nodup (subject : Subject) : subject.files.Nodup := by
  have roles : Role.all.Nodup := by decide
  apply List.pairwise_map.mpr
  apply roles.imp
  intro first second different same
  apply different
  exact congrArg SourceFile.role same

theorem eq_of_locate (subject : Subject) :
    ∀ file ∈ subject.files, ∀ other ∈ subject.files, ∀ location,
      tree.locate (file.target outputRoot) = .ok location →
      tree.locate (other.target outputRoot) = .ok location → other = file := by
  intro file among other otherAmong location leads leadsToo
  obtain ⟨role, _, rfl⟩ := List.mem_map.mp among
  obtain ⟨otherRole, _, rfl⟩ := List.mem_map.mp otherAmong
  rw [target_file] at leads leadsToo
  rw [Layout.role_eq_of_locate leads leadsToo]

/-- Once all files of a table are saved, each stands at a location that takes it again. -/
theorem exists_accepts_and_stands (subject : Subject) {paths : List String}
    (done : (SourceFile.saveAll outputRoot subject.files tree).result = .ok paths) :
    ∀ file ∈ subject.files, ∃ location,
      (SourceFile.saveAll outputRoot subject.files tree).tree.Accepts (file.target outputRoot)
          location ∧
        (SourceFile.saveAll outputRoot subject.files tree).tree.get? location =
          some (.file file.contents) := by
  intro file among
  have stored := SourceFile.stored_of_ok done
  obtain ⟨location, accepts⟩ := stored.accepts file among
  exact ⟨location, accepts,
    stored.get?_eq_file subject.files_nodup subject.eq_of_locate among accepts.leads⟩

theorem standing_of_saved (subject : Subject) {paths : List String}
    (done : (SourceFile.saveAll outputRoot subject.files tree).result = .ok paths) :
    SourceFile.Standing outputRoot subject.files tree
      (SourceFile.saveAll outputRoot subject.files tree).tree := by
  have stand := subject.exists_accepts_and_stands done
  refine ⟨?_, ?_, (SourceFile.stored_of_ok done).others⟩
  · intro file among
    obtain ⟨location, accepts, stands⟩ := stand file among
    exact read?_eq_some accepts.leads stands
  · apply List.pairwise_map.mpr
    apply subject.files_nodup.imp_of_mem
    intro file other among otherAmong different same
    obtain ⟨location, accepts, _⟩ := stand file among
    obtain ⟨otherLocation, otherAccepts, _⟩ := stand other otherAmong
    rw [accepts.leads, otherAccepts.leads] at same
    obtain rfl : location = otherLocation := Option.some.inj same
    exact different (subject.eq_of_locate other otherAmong file among location
      otherAccepts.leads accepts.leads)

end Subject

end Scaffold
