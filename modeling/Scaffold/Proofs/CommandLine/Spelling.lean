import Mathlib.Data.List.TakeWhile
import Scaffold.CommandLine.Reading
import Scaffold.Proofs.CommandLine.Values

/-!
How what a user chooses is written in arguments, and what reading such arguments comes to.  A value
is joined to the name or the letter of its parameter, or is an argument of its own.  In the second
case the parameter waits, so that its choice counts as recorded only once the reading is settled.
-/

namespace Scaffold.CommandLine

/-- What a user asks for: a value for a parameter, or a run that writes nothing. -/
inductive Choice where
  | value (parameter : Parameter) (text : String)
  | dryRun

namespace Choice

def request : Choice → Request
  | value parameter _ => .set parameter
  | dryRun => .dryRun

def Suits : Choice → Prop
  | value parameter text => parameter.Suits text
  | dryRun => True

end Choice

/-- The text is not taken for an option when it is an argument of its own. -/
def IsPlain (text : String) : Prop :=
  text = "-" ∨ text.toList.head? ≠ some '-'

inductive Choice.Spelled : Choice → List String → Prop
  | nameJoined (parameter text) :
      Spelled (.value parameter text) ["--" ++ parameter.longName ++ "=" ++ text]
  | nameApart (parameter) {text} (plain : IsPlain text) :
      Spelled (.value parameter text) ["--" ++ parameter.longName, text]
  | letterMarked {parameter letter text} (own : parameter.letter? = some letter)
      (nonempty : text ≠ "") :
      Spelled (.value parameter text) ["-" ++ String.singleton letter ++ "=" ++ text]
  | letterJoined {parameter letter text} (own : parameter.letter? = some letter)
      (nonempty : text ≠ "") (unmarked : text.toList.head? ≠ some '=') :
      Spelled (.value parameter text) ["-" ++ String.singleton letter ++ text]
  | letterApart {parameter letter text} (own : parameter.letter? = some letter)
      (plain : IsPlain text) :
      Spelled (.value parameter text) ["-" ++ String.singleton letter, text]
  | flag : Spelled .dryRun ["--dry-run"]

theorem Parameter.ne_equals_of_mem_longName (parameter : Parameter) :
    ∀ c ∈ parameter.longName.toList, decide (c ≠ '=') = true := by
  apply List.all_eq_true.mp
  cases parameter <;> rfl

theorem Parameter.longName_ne_empty (parameter : Parameter) : parameter.longName ≠ "" := by
  cases parameter <;> decide

theorem Parameter.ne_dash_of_letter? {parameter : Parameter} {letter : Char}
    (own : parameter.letter? = some letter) : letter ≠ '-' := by
  rintro rfl
  cases parameter <;> cases own

theorem Request.ofLetter?_of_letter? {parameter : Parameter} {letter : Char}
    (own : parameter.letter? = some letter) : ofLetter? letter = some (.set parameter) := by
  cases parameter <;> cases own <;> rfl

namespace Token

theorem ofText_name {name : String} (unmarked : ∀ c ∈ name.toList, decide (c ≠ '=') = true) :
    ofText ("--" ++ name) = .long name none := by
  have spelled : ("--" ++ name).toList = '-' :: '-' :: name.toList := by simp
  simp only [ofText, spelled, List.dropWhile_eq_nil_iff.mpr unmarked, String.ofList_toList]

theorem ofText_nameJoined {name : String}
    (unmarked : ∀ c ∈ name.toList, decide (c ≠ '=') = true) (text : String) :
    ofText ("--" ++ name ++ "=" ++ text) = .long name (some text) := by
  have spelled : ("--" ++ name ++ "=" ++ text).toList
      = '-' :: '-' :: (name.toList ++ '=' :: text.toList) := by simp
  have marked : decide ('=' ≠ '=') = false := rfl
  simp only [ofText, spelled, List.dropWhile_append_of_pos unmarked, List.dropWhile_cons, marked,
    List.takeWhile_append_of_pos unmarked, List.takeWhile_cons, Bool.false_eq_true, if_false,
    List.append_nil, String.ofList_toList]

theorem ofText_letter {letter : Char} (other : letter ≠ '-') (rest : String) :
    ofText ("-" ++ String.singleton letter ++ rest) = .short letter rest := by
  simp [ofText]

theorem ofText_of_isPlain {text : String} (plain : IsPlain text) : ofText text = .plain text := by
  rcases plain with rfl | undashed
  · rfl
  · unfold ofText
    split <;> simp_all

end Token

theorem attachedValue?_marked (text : String) : attachedValue? ("=" ++ text) = some text := by
  simp [attachedValue?]

theorem attachedValue?_unmarked {text : String} (nonempty : text ≠ "")
    (unmarked : text.toList.head? ≠ some '=') : attachedValue? text = some text := by
  unfold attachedValue?
  split <;> simp_all

namespace Reading

/-- With the arguments read, whatever follows them, the reading goes on from one that is settled
as `settled`. -/
def Reaches (reading : Reading) (arguments : List String) (settled : Reading) : Prop :=
  ∃ next : Reading, (∀ rest, reading.takeAll (arguments ++ rest) = next.takeAll rest) ∧
    next.settle = .ok settled

def after (settled : Reading) : Choice → Reading
  | .value parameter text => { settled with given := (parameter, text) :: settled.given }
  | .dryRun => { settled with dryRun := true }

theorem given?_after_value (settled : Reading) (parameter other : Parameter) (text : String) :
    (settled.after (.value parameter text)).given? other
      = if other = parameter then some text else settled.given? other := by
  by_cases same : other = parameter
  · simp [given?, after, same]
  · have unlike : (other == parameter) = false := beq_eq_false_iff_ne.mpr same
    simp [given?, after, List.lookup_cons, same, unlike]

def Lacks (settled : Reading) : Choice → Prop
  | .value parameter _ => settled.given? parameter = none
  | .dryRun => settled.dryRun = false

variable {reading settled : Reading}

theorem settle_of_waiting (idle : reading.waiting = none) : reading.settle = .ok reading := by
  unfold settle
  rw [idle]

theorem complete_of_lacks {parameter : Parameter} {text : String}
    (lacks : settled.given? parameter = none) (suits : parameter.Suits text) :
    settled.complete parameter text = .ok (settled.after (.value parameter text)) := by
  have passes := Parameter.check_eq_ok_iff.mpr suits
  simp only [complete, lacks, give, passes]
  rfl

theorem takeAll_cons {argument : String} {next : Reading} (option : argument ≠ "--")
    (taken : reading.take (.ofText argument) = .ok next) (rest : List String) :
    reading.takeAll (argument :: rest) = next.takeAll rest := by
  simp only [Reading.takeAll, option, taken, if_false]

end Reading

/-- The argument brings the parameter into play, with the value that comes along if one does. -/
structure Asks (argument : String) (parameter : Parameter) (value : Option String) : Prop where
  option : argument ≠ "--"
  carried (reading : Reading) :
    reading.take (.ofText argument) = reading.carryOut (.set parameter) value

theorem asks_of_ofText_long {argument : String} {parameter : Parameter} {value : Option String}
    (token : Token.ofText argument = .long parameter.longName value) :
    Asks argument parameter value := by
  constructor
  · rintro rfl
    have nameless : Token.ofText "--" = .long "" none := rfl
    exact parameter.longName_ne_empty (Token.long.inj (token.symm.trans nameless)).1
  · intro reading
    rw [token]
    simp [Reading.take, Request.ofName?_longName, Request.takesValue]

theorem asks_name (parameter : Parameter) : Asks ("--" ++ parameter.longName) parameter none := by
  apply asks_of_ofText_long
  exact Token.ofText_name parameter.ne_equals_of_mem_longName

theorem asks_nameJoined (parameter : Parameter) (text : String) :
    Asks ("--" ++ parameter.longName ++ "=" ++ text) parameter (some text) := by
  apply asks_of_ofText_long
  exact Token.ofText_nameJoined parameter.ne_equals_of_mem_longName text

theorem asks_letter {parameter : Parameter} {letter : Char}
    (own : parameter.letter? = some letter) (rest : String) :
    Asks ("-" ++ String.singleton letter ++ rest) parameter (attachedValue? rest) := by
  have token := Token.ofText_letter (Parameter.ne_dash_of_letter? own) rest
  constructor
  · intro dashes
    rw [dashes] at token
    cases token
  · intro reading
    rw [token]
    simp only [Reading.take, Request.ofLetter?_of_letter? own]

namespace Reading

section

variable {reading settled : Reading} {parameter : Parameter} {text argument : String}

theorem reaches_of_joined (settles : reading.settle = .ok settled)
    (idle : settled.waiting = none) (lacks : settled.Lacks (.value parameter text))
    (suits : parameter.Suits text) (asks : Asks argument parameter (some text)) :
    reading.Reaches [argument] (settled.after (.value parameter text)) := by
  refine ⟨settled.after (.value parameter text), takeAll_cons asks.option ?_,
    settle_of_waiting idle⟩
  rw [asks.carried, carryOut, settles]
  exact complete_of_lacks lacks suits

theorem reaches_of_apart (settles : reading.settle = .ok settled)
    (idle : settled.waiting = none) (lacks : settled.Lacks (.value parameter text))
    (suits : parameter.Suits text) (asks : Asks argument parameter none) (plain : IsPlain text) :
    reading.Reaches [argument, text] (settled.after (.value parameter text)) := by
  refine ⟨{ settled with waiting := some (parameter, some text) }, ?_, ?_⟩
  · intro rest
    have waits : reading.take (.ofText argument)
        = .ok { settled with waiting := some (parameter, none) } := by
      rw [asks.carried, carryOut, settles]
    have value : text ≠ "--" := by
      rintro rfl
      simp [IsPlain] at plain
    refine (takeAll_cons asks.option waits _).trans (takeAll_cons value ?_ rest)
    rw [Token.ofText_of_isPlain plain]
    rfl
  · have idle : { settled with waiting := none } = settled := by rw [← idle]
    simp only [settle, idle]
    exact complete_of_lacks lacks suits

theorem reaches_of_flag (settles : reading.settle = .ok settled) (idle : settled.waiting = none)
    (lacks : settled.Lacks .dryRun) : reading.Reaches ["--dry-run"] (settled.after .dryRun) := by
  have token : Token.ofText "--dry-run" = .long "dry-run" none := rfl
  have asked : Request.ofName? "dry-run" = some .dryRun := rfl
  have unset : settled.dryRun = false := lacks
  refine ⟨settled.after .dryRun, takeAll_cons (by decide) ?_, settle_of_waiting idle⟩
  simp [token, take, asked, carryOut, settles, unset, after]

end

end Reading

/-- What reading the arguments of a choice does, for each way of writing it. -/
theorem Choice.Spelled.reaches {choice : Choice} {arguments : List String}
    (spelled : choice.Spelled arguments) {reading settled : Reading}
    (settles : reading.settle = .ok settled) (idle : settled.waiting = none)
    (lacks : settled.Lacks choice) (suits : choice.Suits) :
    reading.Reaches arguments (settled.after choice) := by
  cases spelled with
  | nameJoined parameter text =>
    apply Reading.reaches_of_joined settles idle lacks suits
    exact asks_nameJoined parameter text
  | nameApart parameter plain =>
    apply Reading.reaches_of_apart settles idle lacks suits _ plain
    exact asks_name parameter
  | letterMarked own nonempty =>
    apply Reading.reaches_of_joined settles idle lacks suits
    rw [← attachedValue?_marked, String.append_assoc]
    exact asks_letter own _
  | letterJoined own nonempty unmarked =>
    apply Reading.reaches_of_joined settles idle lacks suits
    rw [← attachedValue?_unmarked nonempty unmarked]
    exact asks_letter own _
  | letterApart own plain =>
    apply Reading.reaches_of_apart settles idle lacks suits _ plain
    rw [← String.append_empty (s := "-" ++ _)]
    exact asks_letter own ""
  | flag => exact Reading.reaches_of_flag settles idle lacks

end Scaffold.CommandLine
