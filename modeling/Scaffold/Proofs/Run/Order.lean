import Scaffold.Proofs.Run.Repeat

/-!
Runs in either order.  Files that go to locations of their own can be saved in any order: the
trees in which all of them have been saved are the same.  So it is for the files of two tables
whose class names begin differently, which have no location in common.
-/

namespace Scaffold

namespace FileTree

theorem workingDir_save (tree : FileTree) (path contents : String) :
    (tree.save path contents).1.workingDir = tree.workingDir := by
  rcases tried : tree.save path contents with ⟨after, error | _⟩
  · exact (save_eq_error tried).1.workingDir_eq
  · obtain ⟨made, location, grows, _, rfl⟩ := save_eq_ok tried
    exact grows.workingDir_eq

end FileTree

namespace SourceFile

open FileTree

theorem saveAll_append_of_ok {outputRoot : String} {front : List SourceFile} {tree : FileTree}
    {paths : List String} (done : (saveAll outputRoot front tree).result = .ok paths)
    (back : List SourceFile) :
    (saveAll outputRoot (front ++ back) tree).tree =
        (saveAll outputRoot back (saveAll outputRoot front tree).tree).tree ∧
      (saveAll outputRoot (front ++ back) tree).result =
        (saveAll outputRoot back (saveAll outputRoot front tree).tree).result.map (paths ++ ·) := by
  induction front generalizing tree paths with
  | nil =>
    obtain rfl := Except.ok.inj done
    refine ⟨rfl, ?_⟩
    show (saveAll outputRoot back tree).result = (saveAll outputRoot back tree).result.map _
    cases (saveAll outputRoot back tree).result <;> rfl
  | cons file rest inductionHypothesis =>
    rcases tried : tree.save (file.target outputRoot) file.contents with ⟨after, error | _⟩
    · rw [saveAll_cons_of_error tried] at done
      contradiction
    · rw [saveAll_cons_of_ok tried] at done ⊢
      rw [List.cons_append, saveAll_cons_of_ok tried]
      cases others : (saveAll outputRoot rest after).result with
      | error error =>
        rw [others] at done
        contradiction
      | ok morePaths =>
        rw [others] at done
        obtain rfl := Except.ok.inj done
        obtain ⟨trees, results⟩ := inductionHypothesis others
        refine ⟨trees, ?_⟩
        rw [results]
        cases (saveAll outputRoot back (saveAll outputRoot rest after).tree).result <;> rfl

/-- The files are different ones, and in no tree do two of them go to the same location. -/
structure Apart (outputRoot : String) (files : List SourceFile) : Prop where
  nodup : files.Nodup
  eq_of_locate (tree : FileTree) : ∀ file ∈ files, ∀ other ∈ files, ∀ location,
    tree.locate (file.target outputRoot) = .ok location →
    tree.locate (other.target outputRoot) = .ok location → other = file

section Permuted

variable {outputRoot : String} {files others : List SourceFile} {tree first second : FileTree}

theorem Apart.perm (apart : Apart outputRoot files) (perm : files.Perm others) :
    Apart outputRoot others where
  nodup := perm.nodup_iff.mp apart.nodup
  eq_of_locate tree file among other otherAmong :=
    apart.eq_of_locate tree file (perm.mem_iff.mpr among) other (perm.mem_iff.mpr otherAmong)

/-- What stands after the files were saved in one order stands there after any other. -/
theorem Stored.get?_eq_of_perm (apart : Apart outputRoot files) (perm : files.Perm others)
    (stored : Stored outputRoot files files tree first)
    (permuted : Stored outputRoot others others tree second) {location : Location} {node : Node}
    (stands : first.get? location = some node) : second.get? location = some node := by
  have workingDir : second.workingDir = first.workingDir :=
    permuted.keeps.workingDir_eq.trans stored.keeps.workingDir_eq.symm
  cases node with
  | directory =>
    rcases stored.added location stands with before | ⟨_, file, among, path, above, leads⟩
    · exact permuted.keeps.directory before
    · obtain ⟨place, accepts⟩ := permuted.accepts file (perm.mem_iff.mp among)
      have filled : path ≠ "" := (locateNames_eq_ok_iff.mp leads).1.2.1
      obtain ⟨other, leadsToo, here⟩ :=
        isDirectory_iff.mp (accepts.isDirectory_of_isAbove above filled)
      rwa [locate_unique workingDir leads leadsToo]
  | file contents =>
    by_cases written : ∃ file ∈ files, first.locate (file.target outputRoot) = .ok location
    · obtain ⟨file, among, leads⟩ := written
      have own := stored.get?_eq_file apart.nodup (apart.eq_of_locate first) among leads
      obtain ⟨other, accepts⟩ := permuted.accepts file (perm.mem_iff.mp among)
      obtain rfl := locate_unique workingDir leads accepts.leads
      rw [← stands, own]
      exact permuted.get?_eq_file (apart.perm perm).nodup ((apart.perm perm).eq_of_locate second)
        (perm.mem_iff.mp among) accepts.leads
    · have elsewhere : ∀ file ∈ files, first.locate (file.target outputRoot) ≠ .ok location := by
        intro file among leads
        exact written ⟨file, among, leads⟩
      apply (permuted.others location _ contents).mpr
      · exact (stored.others location elsewhere contents).mp stands
      · intro file among leads
        obtain ⟨other, accepts⟩ := stored.accepts file (perm.mem_iff.mpr among)
        obtain rfl := locate_unique workingDir accepts.leads leads
        exact elsewhere file (perm.mem_iff.mpr among) accepts.leads

theorem Stored.same_of_perm (apart : Apart outputRoot files) (perm : files.Perm others)
    (stored : Stored outputRoot files files tree first)
    (permuted : Stored outputRoot others others tree second) : Same first second where
  workingDir_eq := permuted.keeps.workingDir_eq.trans stored.keeps.workingDir_eq.symm
  get?_eq location := by
    apply Option.ext
    intro node
    constructor
    · exact permuted.get?_eq_of_perm (apart.perm perm) perm.symm stored
    · exact stored.get?_eq_of_perm apart perm permuted

end Permuted

/-- A location at which a file is written when the files are saved in order. -/
inductive Written (outputRoot : String) : List SourceFile → FileTree → Location → Prop
  | here {file : SourceFile} {rest : List SourceFile} {tree after : FileTree}
      {location : Location} :
      tree.save (file.target outputRoot) file.contents = (after, .ok ()) →
      after.locate (file.target outputRoot) = .ok location →
      Written outputRoot (file :: rest) tree location
  | later {file : SourceFile} {rest : List SourceFile} {tree after : FileTree}
      {location : Location} :
      tree.save (file.target outputRoot) file.contents = (after, .ok ()) →
      Written outputRoot rest after location → Written outputRoot (file :: rest) tree location

section Written

variable {outputRoot : String} {files : List SourceFile} {tree : FileTree} {location : Location}

theorem Written.exists_locate (written : Written outputRoot files tree location) :
    ∃ file ∈ files, ∃ later : FileTree, later.workingDir = tree.workingDir ∧
      later.locate (file.target outputRoot) = .ok location := by
  induction written with
  | @here file rest tree after location saved leads =>
    refine ⟨file, List.mem_cons_self, after, ?_, leads⟩
    have kept := workingDir_save tree (file.target outputRoot) file.contents
    rwa [saved] at kept
  | @later first rest tree after location saved _ inductionHypothesis =>
    obtain ⟨file, among, later, workingDir, leads⟩ := inductionHypothesis
    refine ⟨file, List.mem_cons_of_mem _ among, later, workingDir.trans ?_, leads⟩
    have kept := workingDir_save tree (first.target outputRoot) first.contents
    rwa [saved] at kept

/-- At all other locations the files stay as they were. -/
theorem get?_saveAll_file_iff (unwritten : ¬ Written outputRoot files tree location)
    (contents : String) :
    (saveAll outputRoot files tree).tree.get? location = some (.file contents) ↔
      tree.get? location = some (.file contents) := by
  induction files generalizing tree with
  | nil => exact Iff.rfl
  | cons file rest inductionHypothesis =>
    rcases tried : tree.save (file.target outputRoot) file.contents with ⟨after, error | _⟩
    · rw [saveAll_cons_of_error tried]
      exact (save_eq_error tried).1.get?_file_iff location contents
    · rw [saveAll_cons_of_ok tried,
        inductionHypothesis (fun written => unwritten (.later tried written))]
      obtain ⟨made, own, grows, accepts, rfl⟩ := save_eq_ok tried
      have apart : location ≠ own := by
        rintro rfl
        exact unwritten (.here tried ((accepts.keeps_put _).locate accepts.leads))
      rw [accepts.get?_put, if_neg apart]
      exact grows.get?_file_iff location contents

end Written

end SourceFile

namespace Subject

variable {first second : Subject} {outputRoot : String}

theorem eq_of_locate_target (named : Table.IsName first.table.name)
    (namedToo : Table.IsName second.table.name)
    (domain : second.settings.domain = first.settings.domain) {tree later : FileTree}
    (workingDir : later.workingDir = tree.workingDir) {role other : Role} {location : Location}
    (leads : tree.locate ((first.file role).target outputRoot) = .ok location)
    (leadsToo : later.locate ((second.file other).target outputRoot) = .ok location) :
    Identifier.classStem first.table.name = Identifier.classStem second.table.name := by
  rw [target_file] at leads leadsToo
  rw [domain] at leadsToo
  exact (Layout.eq_of_locate_filePath named namedToo workingDir leads leadsToo).2

theorem className_file (subject : Subject) (role : Role) :
    (subject.file role).className = subject.className role := by
  simp only [file]

theorem stem_eq_of_file_eq {role other : Role} (same : first.file role = second.file other) :
    Identifier.classStem first.table.name = Identifier.classStem second.table.name := by
  have roles : role = other := congrArg SourceFile.role same
  have names := congrArg SourceFile.className same
  rw [className_file, className_file, ← roles] at names
  exact (String.append_left_inj role.suffix).mp names

theorem apart_append (named : Table.IsName first.table.name)
    (namedToo : Table.IsName second.table.name)
    (domain : second.settings.domain = first.settings.domain)
    (different : Identifier.classStem first.table.name ≠ Identifier.classStem second.table.name) :
    SourceFile.Apart outputRoot (first.files ++ second.files) := by
  refine ⟨List.nodup_append.mpr ⟨first.files_nodup, second.files_nodup, ?_⟩, ?_⟩
  · intro file among other otherAmong same
    obtain ⟨role, _, rfl⟩ := List.mem_map.mp among
    obtain ⟨otherRole, _, rfl⟩ := List.mem_map.mp otherAmong
    exact different (stem_eq_of_file_eq same)
  · intro tree file among other otherAmong location leads leadsToo
    rcases List.mem_append.mp among with ours | theirs
    · rcases List.mem_append.mp otherAmong with oursToo | theirsToo
      · exact first.eq_of_locate file ours other oursToo location leads leadsToo
      · obtain ⟨role, _, rfl⟩ := List.mem_map.mp ours
        obtain ⟨otherRole, _, rfl⟩ := List.mem_map.mp theirsToo
        exact absurd (eq_of_locate_target named namedToo domain rfl leads leadsToo) different
    · rcases List.mem_append.mp otherAmong with oursToo | theirsToo
      · obtain ⟨role, _, rfl⟩ := List.mem_map.mp theirs
        obtain ⟨otherRole, _, rfl⟩ := List.mem_map.mp oursToo
        exact absurd (eq_of_locate_target named namedToo domain rfl leadsToo leads) different
      · exact second.eq_of_locate file theirs other theirsToo location leads leadsToo

end Subject

/-- All that a run starts from but for the tree. -/
structure Job where
  reader : Schema.Reader
  settings : Settings
  moment : Moment

namespace Job

open FileTree

def run (job : Job) (tree : FileTree) : Run :=
  Run.generate job.reader job.settings job.moment tree

def Succeeds (job : Job) (tree : FileTree) : Prop :=
  ∃ files, (job.run tree).result = .ok files

/-- What the files of the job are about, unless the reader fails. -/
def subject? (job : Job) : Option Subject :=
  match (job.reader.status job.settings.table).result,
      (job.reader.columns job.settings.table).result with
  | .ok table, .ok columns =>
    some ⟨table, columns.map Field.ofColumn, job.settings, job.moment.text⟩
  | _, _ => none

def Writes (job : Job) (tree : FileTree) (location : Location) : Prop :=
  ∃ subject, job.subject? = some subject ∧
    SourceFile.Written job.settings.outputRoot subject.files tree location

/-- The job writes the files of a table below a domain's place. -/
structure IsFor (job : Job) (table domain outputRoot : String) : Prop where
  named (found : Table) :
    (job.reader.status job.settings.table).result = .ok found → found.name = table
  domain_eq : job.settings.domain = domain
  outputRoot_eq : job.settings.outputRoot = outputRoot
  writes : job.settings.dryRun = false

variable {job first second : Job} {subject : Subject} {tree : FileTree}

theorem run_eq_saveAll (writes : job.settings.dryRun = false)
    (found : job.subject? = some subject) (tree : FileTree) :
    (job.run tree).result =
        (SourceFile.saveAll job.settings.outputRoot subject.files tree).result.map
          (fun _ => subject.files) ∧
      (job.run tree).tree =
        (SourceFile.saveAll job.settings.outputRoot subject.files tree).tree := by
  unfold subject? at found
  split at found
  next table columns known listed =>
    obtain rfl := Option.some.inj found
    simp only [run, Run.generate, known, listed, Run.deliver, writes, Run.after,
      Bool.false_eq_true, if_false]
    exact ⟨rfl, rfl⟩
  next => contradiction

theorem run_of_subject?_eq_none (missing : job.subject? = none) (tree : FileTree) :
    (job.run tree).tree = tree ∧ ¬ job.Succeeds tree := by
  unfold Succeeds run Run.generate
  unfold subject? at missing
  cases known : (job.reader.status job.settings.table).result with
  | error error => simp [known]
  | ok table =>
    cases listed : (job.reader.columns job.settings.table).result with
    | error error => simp [known, listed]
    | ok columns => simp [known, listed] at missing

theorem Succeeds.exists_saved (writes : job.settings.dryRun = false) (done : job.Succeeds tree) :
    ∃ subject paths, job.subject? = some subject ∧
      (SourceFile.saveAll job.settings.outputRoot subject.files tree).result = .ok paths ∧
      (job.run tree).tree =
        (SourceFile.saveAll job.settings.outputRoot subject.files tree).tree := by
  cases found : job.subject? with
  | none => exact absurd done (run_of_subject?_eq_none found tree).2
  | some subject =>
    obtain ⟨files, done⟩ := done
    obtain ⟨result, same⟩ := run_eq_saveAll writes found tree
    rw [result] at done
    obtain ⟨_, paths, saved⟩ := SourceFile.saved_of_map_eq_ok done
    exact ⟨subject, paths, rfl, saved, same⟩

theorem get?_run_file_iff (writes : job.settings.dryRun = false) {location : Location}
    (unwritten : ¬ job.Writes tree location) (contents : String) :
    (job.run tree).tree.get? location = some (.file contents) ↔
      tree.get? location = some (.file contents) := by
  cases found : job.subject? with
  | none => rw [(run_of_subject?_eq_none found tree).1]
  | some subject =>
    rw [(run_eq_saveAll writes found tree).2]
    apply SourceFile.get?_saveAll_file_iff
    intro written
    exact unwritten ⟨subject, found, written⟩

variable {table other domain outputRoot : String}

theorem IsFor.subject_eq (isFor : job.IsFor table domain outputRoot)
    (found : job.subject? = some subject) :
    subject.table.name = table ∧ subject.settings.domain = domain := by
  unfold subject? at found
  split at found
  next read columns known listed =>
    obtain rfl := Option.some.inj found
    exact ⟨isFor.named read known, isFor.domain_eq⟩
  next => contradiction

theorem IsFor.not_writes (named : Table.IsName table) (namedToo : Table.IsName other)
    (different : Identifier.classStem table ≠ Identifier.classStem other)
    (isFor : first.IsFor table domain outputRoot)
    (isForOther : second.IsFor other domain outputRoot)
    {later : FileTree} (workingDir : later.workingDir = tree.workingDir) {location : Location}
    (writes : first.Writes tree location) : ¬ second.Writes later location := by
  rintro ⟨secondSubject, secondFound, secondWritten⟩
  obtain ⟨firstSubject, firstFound, firstWritten⟩ := writes
  obtain ⟨rfl, rfl⟩ := isFor.subject_eq firstFound
  obtain ⟨rfl, domains⟩ := isForOther.subject_eq secondFound
  rw [isFor.outputRoot_eq] at firstWritten
  rw [isForOther.outputRoot_eq] at secondWritten
  obtain ⟨file, among, firstTree, firstDir, leads⟩ := firstWritten.exists_locate
  obtain ⟨otherFile, otherAmong, secondTree, secondDir, leadsToo⟩ := secondWritten.exists_locate
  obtain ⟨role, _, rfl⟩ := List.mem_map.mp among
  obtain ⟨otherRole, _, rfl⟩ := List.mem_map.mp otherAmong
  have dirs : secondTree.workingDir = firstTree.workingDir :=
    secondDir.trans (workingDir.trans firstDir.symm)
  exact different (Subject.eq_of_locate_target named namedToo domains dirs leads leadsToo)

/-- Two runs one after the other store what one that saves all their files would. -/
theorem IsFor.stored_append (isFor : first.IsFor table domain outputRoot)
    (isForOther : second.IsFor other domain outputRoot) (done : first.Succeeds tree)
    (doneAfter : second.Succeeds (first.run tree).tree) :
    ∃ firstSubject secondSubject : Subject, first.subject? = some firstSubject ∧
      second.subject? = some secondSubject ∧
      SourceFile.Stored outputRoot (firstSubject.files ++ secondSubject.files)
        (firstSubject.files ++ secondSubject.files) tree
        (second.run (first.run tree).tree).tree := by
  obtain ⟨firstSubject, paths, firstFound, saved, firstTree⟩ := done.exists_saved isFor.writes
  obtain ⟨secondSubject, morePaths, secondFound, savedAfter, secondTree⟩ :=
    doneAfter.exists_saved isForOther.writes
  refine ⟨firstSubject, secondSubject, firstFound, secondFound, ?_⟩
  rw [isFor.outputRoot_eq] at saved firstTree
  rw [isForOther.outputRoot_eq] at savedAfter secondTree
  rw [firstTree] at savedAfter secondTree
  obtain ⟨trees, results⟩ := SourceFile.saveAll_append_of_ok saved secondSubject.files
  rw [savedAfter] at results
  rw [firstTree, secondTree, ← trees]
  exact SourceFile.stored_of_ok results

theorem IsFor.same_run (named : Table.IsName table) (namedToo : Table.IsName other)
    (different : Identifier.classStem table ≠ Identifier.classStem other)
    (isFor : first.IsFor table domain outputRoot)
    (isForOther : second.IsFor other domain outputRoot)
    (firstDone : first.Succeeds tree) (secondAfter : second.Succeeds (first.run tree).tree)
    (secondDone : second.Succeeds tree) (firstAfter : first.Succeeds (second.run tree).tree) :
    Same (second.run (first.run tree).tree).tree (first.run (second.run tree).tree).tree := by
  obtain ⟨ours, theirs, found, foundOther, stored⟩ :=
    isFor.stored_append isForOther firstDone secondAfter
  obtain ⟨theirs', ours', foundOther', found', permuted⟩ :=
    isForOther.stored_append isFor secondDone firstAfter
  obtain rfl : ours = ours' := Option.some.inj (found.symm.trans found')
  obtain rfl : theirs = theirs' := Option.some.inj (foundOther.symm.trans foundOther')
  obtain ⟨rfl, rfl⟩ := isFor.subject_eq found
  obtain ⟨rfl, domains⟩ := isForOther.subject_eq foundOther
  exact stored.same_of_perm (Subject.apart_append named namedToo domains different)
    List.perm_append_comm permuted

/-- Files meet only for the same role and class stem.  Jobs for tables whose class stems differ
therefore write nothing in common, and where both orders of them succeed they end in the same
tree. -/
theorem filePath_eq_iff_and_orders_agree (domain : String) {table other : String}
    (named : Table.IsName table) (namedToo : Table.IsName other) :
    (∀ role second : Role, Layout.filePath domain role (role.className table) =
        Layout.filePath domain second (second.className other) ↔
      role = second ∧ Identifier.classStem table = Identifier.classStem other) ∧
    (Identifier.classStem table ≠ Identifier.classStem other →
      ∀ (outputRoot : String) (first second : Job), first.IsFor table domain outputRoot →
        second.IsFor other domain outputRoot →
      (∀ job ∈ [first, second], ∀ tree location, ¬ job.Writes tree location → ∀ contents,
        (job.run tree).tree.get? location = some (.file contents) ↔
          tree.get? location = some (.file contents)) ∧
      (∀ tree later : FileTree, later.workingDir = tree.workingDir → ∀ location,
        first.Writes tree location → ¬ second.Writes later location) ∧
      ∀ tree, first.Succeeds tree → second.Succeeds (first.run tree).tree →
        second.Succeeds tree → first.Succeeds (second.run tree).tree →
        Same (second.run (first.run tree).tree).tree (first.run (second.run tree).tree).tree) := by
  refine ⟨fun role second => Layout.filePath_eq_iff named namedToo, ?_⟩
  intro different outputRoot first second isFor isForOther
  refine ⟨?_, ?_, ?_⟩
  · intro job among tree location unwritten contents
    have writes : job.settings.dryRun = false := by
      simp only [List.mem_cons, List.not_mem_nil, or_false] at among
      rcases among with rfl | rfl
      · exact isFor.writes
      · exact isForOther.writes
    exact get?_run_file_iff writes unwritten contents
  · intro tree later workingDir location writes
    exact isFor.not_writes named namedToo different isForOther workingDir writes
  · intro tree
    exact isFor.same_run named namedToo different isForOther

theorem IsFor.succeeds (isFor : first.IsFor table domain outputRoot)
    (isForOther : second.IsFor other domain outputRoot) {ours theirs : Subject}
    (found : first.subject? = some ours) (foundOther : second.subject? = some theirs)
    (accepts : ∀ file ∈ ours.files ++ theirs.files, ∃ location,
      tree.Accepts (file.target outputRoot) location) :
    first.Succeeds tree ∧ second.Succeeds (first.run tree).tree := by
  obtain ⟨result, after⟩ := run_eq_saveAll isFor.writes found tree
  obtain ⟨resultAfter, _⟩ := run_eq_saveAll isForOther.writes foundOther (first.run tree).tree
  rw [isFor.outputRoot_eq] at result after
  rw [isForOther.outputRoot_eq] at resultAfter
  have saved := SourceFile.result_saveAll_of_accepts fun file among =>
    accepts file (List.mem_append_left _ among)
  have savedBoth := SourceFile.result_saveAll_of_accepts accepts
  rw [(SourceFile.saveAll_append_of_ok saved theirs.files).2] at savedBoth
  rw [saved] at result
  refine ⟨⟨_, result⟩, ?_⟩
  rw [after]
  rw [after] at resultAfter
  generalize (SourceFile.saveAll outputRoot theirs.files
    (SourceFile.saveAll outputRoot ours.files tree).tree).result = outcome at savedBoth resultAfter
  generalize (ours.files ++ theirs.files).map _ = paths at savedBoth
  cases outcome with
  | error error => cases savedBoth
  | ok morePaths =>
    have done : (second.run (SourceFile.saveAll outputRoot ours.files tree).tree).result =
        .ok theirs.files := resultAfter
    exact ⟨theirs.files, done⟩

/-- A job for a table without columns, with files beside the output root. -/
def besideRoot (table : String) : Job where
  reader := .ofTable { name := table } []
  settings := { table, domain := "../gen/", outputRoot := "out" }
  moment := ⟨2024, 1, 2, 3, 4, 5, 0⟩

theorem isFor_besideRoot (table : String) : (besideRoot table).IsFor table "../gen/" "out" where
  named found known := by
    simp only [besideRoot, Schema.Reader.ofTable, if_true, Except.ok.injEq] at known
    exact known ▸ rfl
  domain_eq := rfl
  outputRoot_eq := rfl
  writes := rfl

theorem besideRoot_succeeds {table other : String} (named : Table.IsName table)
    (namedToo : Table.IsName other)
    (short : ∀ role : Role, (role.className table ++ ".java").utf8ByteSize ≤ maxNameBytes ∧
      (role.className other ++ ".java").utf8ByteSize ≤ maxNameBytes) :
    (besideRoot table).Succeeds Run.preparedTree ∧
      (besideRoot other).Succeeds ((besideRoot table).run Run.preparedTree).tree := by
  have found (table : String) : (besideRoot table).subject? =
      some ⟨{ name := table }, [], (besideRoot table).settings,
        (besideRoot table).moment.text⟩ := by
    simp only [subject?, besideRoot, Schema.Reader.ofTable, if_true, List.map_nil]
  apply (isFor_besideRoot table).succeeds (isFor_besideRoot other) (found table) (found other)
  intro file among
  rcases List.mem_append.mp among with ours | theirs
  · obtain ⟨role, _, rfl⟩ := List.mem_map.mp ours
    exact ⟨_, Run.preparedTree_accepts_of_isName _ named rfl role (short role).1⟩
  · obtain ⟨role, _, rfl⟩ := List.mem_map.mp theirs
    exact ⟨_, Run.preparedTree_accepts_of_isName _ namedToo rfl role (short role).2⟩

/-- The tables share a class name, but no file. -/
theorem orders_agree_for_shared_className :
    Role.entity.className "order_po" = Role.po.className "tb_order" ∧
      (Table.IsName "tb_order" ∧ Table.IsName "order_po") ∧
      Identifier.classStem "tb_order" ≠ Identifier.classStem "order_po" ∧
      Same ((besideRoot "order_po").run ((besideRoot "tb_order").run Run.preparedTree).tree).tree
        ((besideRoot "tb_order").run ((besideRoot "order_po").run Run.preparedTree).tree).tree := by
  have named : Table.IsName "tb_order" := by decide
  have namedToo : Table.IsName "order_po" := by decide
  have different : Identifier.classStem "tb_order" ≠ Identifier.classStem "order_po" := by decide
  have short (role : Role) : (role.className "tb_order" ++ ".java").utf8ByteSize ≤ maxNameBytes ∧
      (role.className "order_po" ++ ".java").utf8ByteSize ≤ maxNameBytes := by
    cases role <;> decide
  obtain ⟨firstDone, secondAfter⟩ := besideRoot_succeeds named namedToo short
  obtain ⟨secondDone, firstAfter⟩ :=
    besideRoot_succeeds namedToo named fun role => (short role).symm
  refine ⟨by decide, ⟨named, namedToo⟩, different, ?_⟩
  obtain ⟨_, _, agree⟩ := (filePath_eq_iff_and_orders_agree "../gen/" named namedToo).2 different
    "out" _ _ (isFor_besideRoot "tb_order") (isFor_besideRoot "order_po")
  exact agree Run.preparedTree firstDone secondAfter secondDone firstAfter

end Job
end Scaffold
