/-!
Paths as texts, with `/` between their segments.  Putting paths together normalises nothing:
`push` only decides whether a slash is needed and lets an absolute part replace what came before.
`parent?` takes the last segment off.
-/

namespace Scaffold.Path

def IsAbsolute (path : String) : Prop := path.toList.head? = some '/'

instance (path : String) : Decidable (IsAbsolute path) :=
  inferInstanceAs (Decidable (_ = _))

def EndsInSlash (path : String) : Prop := path.toList.getLast? = some '/'

instance (path : String) : Decidable (EndsInSlash path) :=
  inferInstanceAs (Decidable (_ = _))

/-- `part` below `base`; an absolute `part` stands for itself. -/
def push (base part : String) : String :=
  if IsAbsolute part then part
  else if base = "" ∨ EndsInSlash base then base ++ part
  else base ++ "/" ++ part

def extend (base : String) (parts : List String) : String :=
  parts.foldl push base

def segments (path : List Char) : List (List Char) :=
  path.splitOn '/'

def join (pieces : List (List Char)) : List Char :=
  List.intercalate ['/'] pieces

theorem join_segments (path : List Char) : join (segments path) = path :=
  List.intercalate_splitOn '/'

/-- The length of pieces with a slash behind each. -/
def extent : List (List Char) → Nat
  | [] => 0
  | piece :: rest => piece.length + 1 + extent rest

theorem extent_append (front back : List (List Char)) :
    extent (front ++ back) = extent front + extent back := by
  induction front with
  | nil => simp [extent]
  | cons piece rest inductionHypothesis =>
    simp only [List.cons_append, extent, inductionHypothesis]
    omega

theorem length_join (pieces : List (List Char)) : (join pieces).length = extent pieces - 1 := by
  unfold join
  induction pieces with
  | nil => simp [extent]
  | cons piece rest inductionHypothesis =>
    cases rest with
    | nil => simp [extent]
    | cons next tail =>
      rw [List.intercalate_cons_cons]
      simp only [List.length_append, List.length_singleton, inductionHypothesis, extent]
      omega

/-- Pieces that lead nowhere: the empty one and the dot. -/
def isIdle (piece : List Char) : Bool :=
  piece.isEmpty || piece == ['.']

/-- The pieces up to the last one that leads somewhere. -/
def settle : List (List Char) → List (List Char)
  | [] => []
  | piece :: rest =>
    match settle rest with
    | [] => if isIdle piece then [] else [piece]
    | kept => piece :: kept

theorem settle_isPrefix (pieces : List (List Char)) : settle pieces <+: pieces := by
  induction pieces with
  | nil => exact List.prefix_rfl
  | cons piece rest inductionHypothesis =>
    unfold settle
    split
    next => split <;> simp
    next kept => exact (List.prefix_cons_inj piece).mpr inductionHypothesis

theorem isIdle_of_mem_getLast?_settle {pieces : List (List Char)} {last : List Char}
    (ends : last ∈ (settle pieces).getLast?) : isIdle last = false := by
  induction pieces with
  | nil => simp [settle] at ends
  | cons piece rest inductionHypothesis =>
    cases settled : settle rest with
    | nil =>
      simp only [settle, settled] at ends
      split at ends
      next => simp at ends
      next => simp_all
    | cons next tail =>
      simp only [settle, settled, List.getLast?_cons_cons] at ends
      exact inductionHypothesis (settled ▸ ends)

/-- A root slash or leading dot, which is no piece of its own, and what follows it. -/
def anchor : List Char → List Char × List Char
  | '/' :: rest => (['/'], rest)
  | ['.'] => (['.'], [])
  | '.' :: '/' :: rest => (['.'], '/' :: rest)
  | path => ([], path)

theorem anchor_append (path : List Char) : (anchor path).1 ++ (anchor path).2 = path := by
  unfold anchor
  split <;> simp

/-- The path without its last segment.  Neither the empty path nor the root has one. -/
def parent? (path : String) : Option String :=
  match settle (segments (anchor path.toList).2) with
  | [] => if (anchor path.toList).1 = ['.'] then some "" else none
  | pieces => some (.ofList ((anchor path.toList).1 ++ join (settle pieces.dropLast)))

theorem length_join_settle_le (pieces : List (List Char)) :
    (join (settle pieces)).length ≤ (join pieces).length := by
  obtain ⟨cut, whole⟩ := settle_isPrefix pieces
  have lengths := congrArg extent whole
  rw [extent_append] at lengths
  simp only [length_join]
  omega

theorem length_join_dropLast_lt {pieces : List (List Char)} (busy : settle pieces ≠ []) :
    (join (settle pieces).dropLast).length < (join (settle pieces)).length := by
  have ends := List.getLast?_eq_some_getLast busy
  have long : ((settle pieces).getLast busy).length ≠ 0 := by
    have moves := isIdle_of_mem_getLast?_settle ends
    intro none
    simp [isIdle, List.eq_nil_of_length_eq_zero none] at moves
  have lengths := congrArg extent (List.dropLast_concat_getLast busy)
  simp only [extent_append, extent] at lengths
  simp only [length_join]
  omega

theorem length_lt_of_parent? {path parent : String} (above : parent? path = some parent) :
    parent.length < path.length := by
  have parts := congrArg List.length (anchor_append path.toList)
  unfold parent? at above
  split at above
  next =>
    split at above
    next dot =>
      simp only [Option.some.injEq] at above
      subst above
      simp only [dot, List.length_append, List.length_singleton, String.length_toList] at parts
      simp only [String.length_empty]
      omega
    next => simp at above
  next nonempty =>
    simp only [Option.some.injEq] at above
    subst above
    have cut := length_join_settle_le (settle (segments (anchor path.toList).2)).dropLast
    have whole := length_join_settle_le (segments (anchor path.toList).2)
    have shorter := length_join_dropLast_lt nonempty
    rw [join_segments] at whole
    simp only [List.length_append, String.length_toList, String.length_ofList] at parts ⊢
    omega

end Scaffold.Path
