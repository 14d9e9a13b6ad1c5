import Scaffold.Proofs.Source.Placement

/-!
Packages and directories.  A class is looked for where its qualified name says, each dot a slash,
while its file goes where the domain and the layers lead as a path.  Main statement: these are the
same place exactly for those domains that are one package segment and one directory prefix alike.
-/

namespace Scaffold

namespace Path

/-- The base with a slash behind it, unless it needs none for a part to follow. -/
def lead (base : String) : String :=
  if base = "" ∨ EndsInSlash base then base else base ++ "/"

theorem push_of_relative {part : String} (relative : ¬ IsAbsolute part) (base : String) :
    push base part = lead base ++ part := by
  unfold push lead
  rw [if_neg relative]
  split <;> rfl

theorem lead_push_of_isOrdinary {base name : String} (ordinary : IsOrdinary name) :
    lead (push base name) = lead base ++ name ++ "/" := by
  rw [push_of_relative ordinary.relative]
  unfold lead
  rw [if_neg]
  rintro (empty | slash)
  · exact ordinary.1 (String.append_eq_empty_iff.mp empty).2
  · exact not_endsInSlash_append ordinary.1 ordinary.2.1 slash

theorem extend_eq_lead_append {base first : String} {rest : List String}
    (ordinary : ∀ name ∈ first :: rest, IsOrdinary name) :
    extend base (first :: rest) = lead base ++ "/".intercalate (first :: rest) := by
  unfold extend
  induction rest generalizing base first with
  | nil =>
    rw [List.foldl_cons, List.foldl_nil, String.intercalate_singleton]
    exact push_of_relative (ordinary first List.mem_cons_self).relative base
  | cons second rest inductionHypothesis =>
    obtain ⟨own, later⟩ := List.forall_mem_cons.mp ordinary
    rw [List.foldl_cons, inductionHypothesis later, lead_push_of_isOrdinary own,
      String.intercalate_cons_cons]
    simp only [String.append_assoc]

end Path

namespace Layout

def slashed (name : String) : String := name.map fun c => if c = '.' then '/' else c

/-- Where a class is looked for, by its qualified name. -/
def sourcePath (qualifiedName : String) : String := slashed qualifiedName ++ ".java"

@[simp]
theorem toList_slashed (name : String) :
    (slashed name).toList = name.toList.map fun c => if c = '.' then '/' else c :=
  String.toList_map

theorem slashed_append (front back : String) :
    slashed (front ++ back) = slashed front ++ slashed back := by
  simp [← String.toList_inj]

theorem slashed_dot : slashed "." = "/" := by
  simp [← String.toList_inj]

theorem slashed_intercalate (parts : List String) :
    slashed (".".intercalate parts) = "/".intercalate (parts.map slashed) := by
  induction parts with
  | nil => simp [← String.toList_inj]
  | cons first rest inductionHypothesis =>
    cases rest with
    | nil => simp
    | cons second rest =>
      rw [String.intercalate_cons_cons, slashed_append, slashed_append, slashed_dot,
        inductionHypothesis]
      simp only [List.map_cons, String.intercalate_cons_cons]

theorem slashed_eq_self_iff {name : String} : slashed name = name ↔ '.' ∉ name.toList := by
  rw [← String.toList_inj, toList_slashed]
  induction name.toList with
  | nil => simp
  | cons c rest inductionHypothesis =>
    rw [List.map_cons, List.cons.injEq, inductionHypothesis, List.mem_cons, not_or]
    apply and_congr_left
    intro _
    by_cases dot : c = '.'
    · simp [dot]
    · simp [dot, Ne.symm dot]

theorem map_slashed_layers (role : Role) : role.layers.map slashed = role.layers := by
  have clean : ∀ layer ∈ role.layers, '.' ∉ layer.toList := by cases role <;> decide
  have same : role.layers.map slashed = role.layers.map id := by
    apply List.map_congr_left
    intro layer among
    exact slashed_eq_self_iff.mpr (clean layer among)
  rw [same, List.map_id]

/-- The slashes of a domain lead on as they are, and its dots must not turn into more of them. -/
theorem slashed_append_slash_eq_lead_iff {domain : String} :
    slashed domain ++ "/" = Path.lead domain ↔
      domain ≠ "" ∧ '.' ∉ domain.toList ∧ ¬ Path.EndsInSlash domain := by
  unfold Path.lead
  by_cases bare : domain = "" ∨ Path.EndsInSlash domain
  · rw [if_pos bare]
    constructor
    · intro same
      have lengths := congrArg (fun text => text.toList.length) same
      simp at lengths
    · rintro ⟨filled, _, noSlash⟩
      exact absurd bare (not_or.mpr ⟨filled, noSlash⟩)
  · rw [if_neg bare, String.append_left_inj, slashed_eq_self_iff]
    obtain ⟨filled, noSlash⟩ := not_or.mp bare
    constructor
    · intro clean
      exact ⟨filled, clean, noSlash⟩
    · rintro ⟨_, clean, _⟩
      exact clean

variable {basePackage domain className : String} {role : Role}

theorem slashed_package (based : basePackage ≠ "") :
    slashed (package basePackage domain role) =
      slashed basePackage ++ "/" ++ (slashed domain ++ "/" ++ "/".intercalate role.layers) := by
  rw [package, if_neg based, slashed_intercalate, List.map_append, List.map_cons, List.map_cons,
    map_slashed_layers, List.map_nil, List.singleton_append, String.intercalate_cons_cons,
    String.intercalate_cons_of_ne_nil role.layers_ne_nil]

theorem filePath_eq_lead_append (ordinary : Path.IsOrdinary (className ++ ".java")) :
    filePath domain role className =
      Path.lead domain ++ ("/".intercalate role.layers ++ "/" ++ (className ++ ".java")) := by
  obtain ⟨first, rest, spelled⟩ := List.exists_cons_of_ne_nil role.layers_ne_nil
  have each : ∀ name ∈ first :: (rest ++ [className ++ ".java"]), Path.IsOrdinary name := by
    rw [← List.cons_append, ← spelled]
    intro name among
    rcases List.mem_append.mp among with layer | own
    · exact isOrdinary_of_mem_layers layer
    · exact List.mem_singleton.mp own ▸ ordinary
  have whole : filePath domain role className =
      Path.extend domain (first :: (rest ++ [className ++ ".java"])) := by
    rw [filePath, Path.extend, Path.extend, ← List.cons_append, ← spelled, List.foldl_concat]
  rw [whole, Path.extend_eq_lead_append each, ← List.cons_append, ← spelled,
    String.intercalate_append_of_ne_nil role.layers_ne_nil (List.cons_ne_nil _ _),
    String.intercalate_singleton]

end Layout

namespace Subject

open Layout

theorem path_file (subject : Subject) (role : Role) :
    (subject.file role).path =
      filePath subject.settings.domain role (subject.className role) := by
  simp only [file]

theorem slashed_className {subject : Subject} (named : Table.IsName subject.table.name)
    (role : Role) : slashed (subject.className role) = subject.className role := by
  apply slashed_eq_self_iff.mpr
  intro dot
  exact absurd (Role.isClassChar_of_mem_className named dot) (by decide)

/-- A class is looked for where its file goes exactly when the domain is a directory prefix without
dots and without a slash at its end. -/
theorem sourcePath_qualifiedName_eq_iff (subject : Subject) (role : Role)
    (based : subject.settings.basePackage ≠ "") (named : Table.IsName subject.table.name) :
    sourcePath (subject.qualifiedName role) =
        slashed subject.settings.basePackage ++ "/" ++ (subject.file role).path ↔
      subject.settings.domain ≠ "" ∧ '.' ∉ subject.settings.domain.toList ∧
        ¬ Path.EndsInSlash subject.settings.domain := by
  have sought : sourcePath (subject.qualifiedName role) =
      slashed subject.settings.basePackage ++ "/" ++ (slashed subject.settings.domain ++ "/" ++
        ("/".intercalate role.layers ++ "/" ++ (subject.className role ++ ".java"))) := by
    rw [sourcePath, qualifiedName, Subject.package, slashed_append, slashed_append, slashed_dot,
      slashed_className named, slashed_package based]
    simp only [String.append_assoc]
  have stored : (subject.file role).path = Path.lead subject.settings.domain ++
      ("/".intercalate role.layers ++ "/" ++ (subject.className role ++ ".java")) := by
    rw [path_file]
    exact filePath_eq_lead_append (isOrdinary_fileName named role)
  rw [sought, stored, String.append_right_inj, String.append_left_inj]
  exact slashed_append_slash_eq_lead_iff

/-- Slashes in front of the domain or side by side in it do no harm. -/
theorem sourcePath_of_slashed_domain :
    let subject : Subject := ⟨{ name := "tb_$1" }, [], { domain := "/shop//order" }, ""⟩
    (subject.settings.basePackage ≠ "" ∧ Table.IsName subject.table.name) ∧
      sourcePath (subject.qualifiedName .entity) =
        slashed subject.settings.basePackage ++ "/" ++ (subject.file .entity).path := by
  intro subject
  have based : subject.settings.basePackage ≠ "" := by decide
  have named : Table.IsName subject.table.name := by decide
  refine ⟨⟨based, named⟩, ?_⟩
  apply (subject.sourcePath_qualifiedName_eq_iff .entity based named).mpr
  decide

end Subject
end Scaffold
