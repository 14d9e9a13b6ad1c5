/-!
A directory with all that it holds, seen through `get?`: what stands at a location.  `put` is the
one way to change it, and changes nothing but the location itself.  What a directory holds is kept
in the order of the names.
-/

namespace Scaffold

inductive Node where
  | directory
  | file (contents : String)
deriving DecidableEq, Repr

/-- The names from a directory down to a node. -/
abbrev Location := List String

inductive Directory where
  | empty
  | file (name contents : String) (others : Directory)
  | folder (name : String) (inside others : Directory)
deriving DecidableEq, Repr

namespace Directory

/-- The node at a location; at the empty one stands the directory itself. -/
def get? : Directory → Location → Option Node
  | _, [] => some .directory
  | empty, _ :: _ => none
  | file name contents others, first :: rest =>
    if name = first then if rest = [] then some (.file contents) else none
    else others.get? (first :: rest)
  | folder name inside others, first :: rest =>
    if name = first then inside.get? rest else others.get? (first :: rest)

@[simp]
theorem get?_nil (directory : Directory) : directory.get? [] = some .directory := by
  unfold get?
  rfl

def folder? : Directory → String → Option Directory
  | empty, _ => none
  | file name _ others, sought => if name = sought then none else others.folder? sought
  | folder name inside others, sought =>
    if name = sought then some inside else others.folder? sought

theorem get?_cons_of_folder? {directory inside : Directory} {name : String}
    (found : directory.folder? name = some inside) (rest : Location) :
    directory.get? (name :: rest) = inside.get? rest := by
  induction directory with
  | empty => simp [folder?] at found
  | file other contents others inductionHypothesis =>
    unfold folder? at found
    split at found
    next => simp at found
    next differ => simp [get?, differ, inductionHypothesis found]
  | folder other within others _ inductionHypothesis =>
    unfold folder? at found
    split at found
    next same => simp_all [get?]
    next differ => simp [get?, differ, inductionHypothesis found]

/-- Where no directory stands, nothing stands below. -/
theorem get?_cons_cons_eq_none {directory : Directory} {name : String}
    (missing : directory.folder? name = none) (second : String) (rest : Location) :
    directory.get? (name :: second :: rest) = none := by
  induction directory with
  | empty => simp [get?]
  | file other contents others inductionHypothesis =>
    unfold folder? at missing
    split at missing
    next same => simp [get?, same]
    next differ => simp [get?, differ, inductionHypothesis missing]
  | folder other within others _ inductionHypothesis =>
    unfold folder? at missing
    split at missing
    next => simp at missing
    next differ => simp [get?, differ, inductionHypothesis missing]

theorem isSome_folder?_iff {directory : Directory} {name : String} :
    (directory.folder? name).isSome ↔ directory.get? [name] = some .directory := by
  induction directory with
  | empty => simp [folder?, get?]
  | file other contents others inductionHypothesis =>
    by_cases same : other = name
    · simp [folder?, get?, same]
    · simp [folder?, get?, same, inductionHypothesis]
  | folder other within others _ inductionHypothesis =>
    by_cases same : other = name
    · simp [folder?, get?, same]
    · simp [folder?, get?, same, inductionHypothesis]

/-- Every node stands in a directory. -/
theorem get?_eq_directory_of_isSome {directory : Directory} {location : Location} {name : String}
    (stands : (directory.get? (location ++ [name])).isSome) :
    directory.get? location = some .directory := by
  induction location generalizing directory with
  | nil => simp
  | cons first rest inductionHypothesis =>
    cases found : directory.folder? first with
    | none =>
      cases rest <;> simp [get?_cons_cons_eq_none found] at stands
    | some inside =>
      rw [get?_cons_of_folder? found]
      rw [List.cons_append, get?_cons_of_folder? found] at stands
      exact inductionHypothesis stands

/-- A node under its name, before the others. -/
def hold (name : String) : Node → Directory → Directory
  | .directory, others => folder name empty others
  | .file contents, others => file name contents others

/-- The directory with `node` at `location`, in place of what stood there.  Only a directory that is
there takes it. -/
def put (node : Node) : Directory → Location → Directory
  | directory, [] => directory
  | empty, name :: rest => if rest = [] then hold name node empty else empty
  | file other contents others, name :: rest =>
    if other = name then
      if rest = [] then hold name node others else file other contents others
    else if rest = [] ∧ name < other then hold name node (file other contents others)
    else file other contents (put node others (name :: rest))
  | folder other inside others, name :: rest =>
    if other = name then
      if rest = [] then hold name node others else folder other (put node inside rest) others
    else if rest = [] ∧ name < other then hold name node (folder other inside others)
    else folder other inside (put node others (name :: rest))

theorem get?_hold (name : String) (node : Node) (others : Directory) (first : String)
    (rest : Location) :
    (hold name node others).get? (first :: rest) =
      if name = first then if rest = [] then some node else none
      else others.get? (first :: rest) := by
  cases node with
  | directory =>
    cases rest <;> simp [hold, get?]
  | file contents => simp [hold, get?]

theorem get?_cons_eq_none {directory : Directory} {name : String}
    (free : directory.get? [name] ≠ some .directory) {rest : Location} (below : rest ≠ []) :
    directory.get? (name :: rest) = none := by
  cases rest with
  | nil => contradiction
  | cons second rest =>
    refine get?_cons_cons_eq_none ?_ second rest
    rwa [ne_eq, ← isSome_folder?_iff, Option.not_isSome_iff_eq_none] at free

theorem get?_put_singleton {directory : Directory} {name : String}
    (free : directory.get? [name] ≠ some .directory) (node : Node) (first : String)
    (rest : Location) :
    (directory.put node [name]).get? (first :: rest) =
      if first :: rest = [name] then some node else directory.get? (first :: rest) := by
  have nothing {rest : Location} (below : rest ≠ []) := get?_cons_eq_none free below
  induction directory with
  | empty => grind [put, get?_hold, get?]
  | file held contents others inductionHypothesis =>
    by_cases same : held = name
    · grind [put, get?_hold, get?]
    · simp only [get?, same, if_false] at free nothing
      grind [put, get?_hold, get?]
  | folder held inside others _ inductionHypothesis =>
    by_cases same : held = name
    · grind [get?]
    · simp only [get?, same, if_false] at free nothing
      grind [put, get?_hold, get?]

/-- Nothing but the location itself changes, where it lies in a directory and is none itself. -/
theorem get?_put {directory : Directory} {location : Location} {name : String}
    (stands : directory.get? location = some .directory)
    (free : directory.get? (location ++ [name]) ≠ some .directory) (node : Node)
    (other : Location) :
    (directory.put node (location ++ [name])).get? other =
      if other = location ++ [name] then some node else directory.get? other := by
  cases other with
  | nil => simp
  | cons first rest =>
    cases location with
    | nil => exact get?_put_singleton free node first rest
    | cons head tail =>
      induction directory generalizing head tail first rest with
      | empty => simp [get?] at stands
      | file held contents others inductionHypothesis =>
        by_cases same : held = head
        · simp [get?, same] at stands
        · simp only [get?, same, if_false, List.cons_append] at stands free
          have later := inductionHypothesis first rest head tail stands free
          by_cases here : held = first
          · subst here
            simp [put, get?, same]
          · simpa [put, get?, same, here] using later
      | folder held inside others ihInside inductionHypothesis =>
        by_cases same : held = head
        · subst same
          simp only [get?, if_true, List.cons_append] at stands free
          have inner : ∀ rest, (inside.put node (tail ++ [name])).get? rest =
              if rest = tail ++ [name] then some node else inside.get? rest := by
            intro rest
            cases rest with
            | nil => simp
            | cons second rest =>
              cases tail with
              | nil => exact get?_put_singleton free node second rest
              | cons next tail => exact ihInside second rest next tail stands free
          by_cases here : held = first
          · simp [put, get?, here, inner]
          · simp [put, get?, here, Ne.symm here]
        · simp only [get?, same, if_false, List.cons_append] at stands free
          have later := inductionHypothesis first rest head tail stands free
          by_cases here : held = first
          · subst here
            simp [put, get?, same]
          · simpa [put, get?, same, here] using later

/-- All that the directory holds, each directory followed by what is in it. -/
def listing : Directory → List (Location × Node)
  | empty => []
  | file name contents others => ([name], .file contents) :: others.listing
  | folder name inside others =>
    ([name], .directory) :: inside.listing.map (fun (rest, node) => (name :: rest, node)) ++
      others.listing

/-- Nothing but directories, each in the one before. -/
def chain : Location → Directory
  | [] => empty
  | name :: rest => folder name (chain rest) empty

theorem get?_chain (location : Location) : (chain location).get? location = some .directory := by
  induction location with
  | nil => simp
  | cons name rest inductionHypothesis => simp [chain, get?, inductionHypothesis]

end Directory
end Scaffold
