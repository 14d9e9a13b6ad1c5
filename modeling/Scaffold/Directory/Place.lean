import Scaffold.Directory

/-!
A place in a directory together with the way to it, so that one can go on from there or back.  Main
statement: a place at a location holds what stands below that location.
-/

namespace Scaffold

/-- A directory and the way to it: the names on it and the directories that hold them, the nearest
first. -/
structure Place where
  above : List (String × Directory) := []
  here : Directory

namespace Place

def location (place : Place) : Location := (place.above.map (·.1)).reverse

def enter? (place : Place) (name : String) : Option Place :=
  (place.here.folder? name).map fun inside => ⟨(name, place.here) :: place.above, inside⟩

/-- The place one up, or the same where there is none above. -/
def leave : Place → Place
  | ⟨[], here⟩ => ⟨[], here⟩
  | ⟨(_, outer) :: above, _⟩ => ⟨above, outer⟩

def descend? : Place → Location → Option Place
  | place, [] => some place
  | place, name :: rest => (place.enter? name).bind fun inner => inner.descend? rest

/-- The place is one that can be reached from the top of this directory. -/
inductive In (directory : Directory) : Place → Prop
  | top : In directory ⟨[], directory⟩
  | enter {place inner : Place} {name : String} : In directory place →
      place.enter? name = some inner → In directory inner

theorem location_of_enter? {place inner : Place} {name : String}
    (entered : place.enter? name = some inner) : inner.location = place.location ++ [name] := by
  obtain ⟨inside, _, rfl⟩ := Option.map_eq_some_iff.mp entered
  simp [location]

/-- A place holds what stands below its location. -/
theorem In.get?_append {directory : Directory} {place : Place} (reached : In directory place)
    (rest : Location) : directory.get? (place.location ++ rest) = place.here.get? rest := by
  induction reached generalizing rest with
  | top => simp [location]
  | enter _ entered inductionHypothesis =>
    rw [location_of_enter? entered, List.append_assoc, List.singleton_append, inductionHypothesis]
    obtain ⟨inside, found, rfl⟩ := Option.map_eq_some_iff.mp entered
    exact Directory.get?_cons_of_folder? found rest

theorem In.get?_location {directory : Directory} {place : Place} (reached : In directory place) :
    directory.get? place.location = some .directory := by
  simpa using reached.get?_append []

theorem In.leave {directory : Directory} {place : Place} (reached : In directory place) :
    In directory place.leave := by
  cases reached with
  | top => exact .top
  | enter before entered =>
    obtain ⟨inside, _, rfl⟩ := Option.map_eq_some_iff.mp entered
    exact before

theorem location_leave (place : Place) : place.leave.location = place.location.dropLast := by
  obtain ⟨above, here⟩ := place
  cases above with
  | nil => rfl
  | cons step above => simp [leave, location]

theorem In.descend? {directory : Directory} {place inner : Place} {location : Location}
    (reached : In directory place) (found : place.descend? location = some inner) :
    In directory inner ∧ inner.location = place.location ++ location := by
  induction location generalizing place with
  | nil =>
    simp only [Place.descend?, Option.some.injEq] at found
    simp [← found, reached]
  | cons name rest inductionHypothesis =>
    obtain ⟨next, entered, found⟩ := Option.bind_eq_some_iff.mp found
    obtain ⟨deeper, leads⟩ := inductionHypothesis (reached.enter entered) found
    exact ⟨deeper, by simp [leads, location_of_enter? entered]⟩

theorem isSome_descend? {place : Place} {location : Location}
    (stands : place.here.get? location = some .directory) : (place.descend? location).isSome := by
  induction location generalizing place with
  | nil => rfl
  | cons name rest inductionHypothesis =>
    cases found : place.here.folder? name with
    | none =>
      cases rest with
      | nil => simp [← Directory.isSome_folder?_iff, found] at stands
      | cons second rest => simp [Directory.get?_cons_cons_eq_none found] at stands
    | some inside =>
      rw [Directory.get?_cons_of_folder? found] at stands
      have inner : (descend? ⟨(name, place.here) :: place.above, inside⟩ rest).isSome :=
        inductionHypothesis stands
      simpa [descend?, enter?, found] using inner

end Place
end Scaffold
