import Mathlib.Data.List.Nodup
import Scaffold.Proofs.CommandLine.Spelling

/-!
Command lines on which everything is given at most once.  Reading one records what is chosen on it,
the environment fills in what is left, and defaults stand for the rest.  What is recorded is a
matter of which choices there are, so that neither their order nor their spelling counts.
-/

namespace Scaffold

/-- The error of the first requirement that the settings do not meet. -/
inductive Config.FirstFault (config : Config) : Error → Prop
  | table (unnamed : ¬ Table.IsName config.settings.table) :
      FirstFault config (.invalidTableName config.settings.table)
  | domain (named : Table.IsName config.settings.table)
      (blank : Text.IsBlank config.settings.domain) :
      FirstFault config (.configuration "domain name must not be empty")
  | basePackage (named : Table.IsName config.settings.table)
      (domain : ¬ Text.IsBlank config.settings.domain)
      (blank : Text.IsBlank config.settings.basePackage) :
      FirstFault config (.configuration "base package must not be empty")
  | schema (named : Table.IsName config.settings.table)
      (domain : ¬ Text.IsBlank config.settings.domain)
      (basePackage : ¬ Text.IsBlank config.settings.basePackage)
      (empty : config.database.schema = "") :
      FirstFault config (.configuration "schema name must not be empty")

theorem Config.check_eq_error_iff (config : Config) (error : Error) :
    config.check = .error error ↔ config.FirstFault error := by
  constructor
  · intro failed
    unfold check at failed
    split at failed
    next unnamed =>
      cases failed
      exact .table unnamed
    next named =>
    rw [not_not] at named
    split at failed
    next blank =>
      cases failed
      exact .domain named blank
    next domain =>
    split at failed
    next blank =>
      cases failed
      exact .basePackage named domain blank
    next basePackage =>
    split at failed
    next empty =>
      cases failed
      exact .schema named domain basePackage empty
    next => cases failed
  · intro fault
    cases fault <;> simp_all [check]

namespace CommandLine

inductive Line : List Choice → List String → Prop
  | nil : Line [] []
  | cons {choice choices arguments rest} (first : choice.Spelled arguments)
      (others : Line choices rest) : Line (choice :: choices) (arguments ++ rest)

/-- No option stands idle in the middle of a line, and exactly the choices are recorded. -/
structure Reading.Records (reading : Reading) (choices : List Choice) : Prop where
  idle : reading.waiting = none
  given?_eq_some_iff (parameter : Parameter) (text : String) :
    reading.given? parameter = some text ↔ .value parameter text ∈ choices
  dryRun_iff : reading.dryRun = true ↔ .dryRun ∈ choices

def LeaveOpen (choices : List Choice) (parameter : Parameter) : Prop :=
  ∀ text, .value parameter text ∉ choices

namespace Reading.Records

variable {reading settled : Reading} {choices : List Choice}

theorem empty : Records {} [] where
  idle := rfl
  given?_eq_some_iff parameter text := by simp [given?]
  dryRun_iff := by simp

theorem of_perm {others : List Choice} (records : reading.Records others)
    (same : others.Perm choices) : reading.Records choices where
  idle := records.idle
  given?_eq_some_iff parameter text :=
    (records.given?_eq_some_iff parameter text).trans same.mem_iff
  dryRun_iff := records.dryRun_iff.trans same.mem_iff

theorem given?_eq_none_iff (records : reading.Records choices) (parameter : Parameter) :
    reading.given? parameter = none ↔ LeaveOpen choices parameter := by
  rw [Option.eq_none_iff_forall_ne_some]
  apply forall_congr'
  intro text
  exact not_congr (records.given?_eq_some_iff parameter text)

theorem lacks (records : settled.Records choices) {choice : Choice}
    (fresh : choice.request ∉ choices.map Choice.request) : settled.Lacks choice := by
  cases choice with
  | value parameter text =>
    apply (records.given?_eq_none_iff parameter).mpr
    intro other chosen
    have asked : Request.set parameter ∈ choices.map Choice.request := List.mem_map_of_mem chosen
    exact fresh asked
  | dryRun =>
    apply Bool.eq_false_iff.mpr
    intro set
    exact fresh (List.mem_map_of_mem (records.dryRun_iff.mp set))

theorem after (records : settled.Records choices) {choice : Choice}
    (fresh : choice.request ∉ choices.map Choice.request) :
    (settled.after choice).Records (choices ++ [choice]) := by
  cases choice with
  | value parameter text =>
    refine ⟨records.idle, ?_, by simp [Reading.after, records.dryRun_iff]⟩
    intro other found
    simp only [Reading.given?_after_value, List.mem_append, List.mem_singleton, Choice.value.injEq,
      ← records.given?_eq_some_iff]
    split
    next same =>
      have missing : settled.given? parameter = none := records.lacks fresh
      simp [same, missing, eq_comm]
    next different => simp [different]
  | dryRun =>
    refine ⟨records.idle, ?_, by simp [Reading.after]⟩
    intro parameter text
    simpa [Reading.after, given?] using records.given?_eq_some_iff parameter text

end Reading.Records

/-- Reading a line records its choices, beside those that are recorded before. -/
theorem Line.exists_records {choices : List Choice} {arguments : List String}
    (line : Line choices arguments) :
    ∀ {before : List Choice} {reading settled : Reading}, reading.settle = .ok settled →
      settled.Records before → ((before ++ choices).map Choice.request).Nodup →
      (∀ choice ∈ choices, choice.Suits) →
      ∃ last, reading.takeAll arguments = .ok last ∧ last.Records (before ++ choices) := by
  induction line with
  | nil =>
    intro before reading settled settles records once suit
    rw [List.append_nil]
    exact ⟨settled, settles, records⟩
  | @cons choice choices arguments rest first others inductionHypothesis =>
    intro before reading settled settles records once suit
    have fresh : choice.request ∉ before.map Choice.request := by
      rw [List.map_append, List.map_cons, List.nodup_append] at once
      intro already
      exact once.2.2 _ already _ List.mem_cons_self rfl
    obtain ⟨next, goesOn, settlesNext⟩ := first.reaches settles records.idle
      (records.lacks fresh) (suit choice List.mem_cons_self)
    rw [List.append_cons] at once ⊢
    obtain ⟨last, read, recorded⟩ := inductionHypothesis settlesNext (records.after fresh) once
      (fun other among => suit other (List.mem_cons_of_mem _ among))
    exact ⟨last, (goesOn rest).trans read, recorded⟩

namespace Reading

variable {environment : String → Option String}

/-- A parameter without a value takes that of its variable, and nothing else changes. -/
theorem exists_fillFrom_cons (reading : Reading) (first : Parameter)
    (suits : reading.given? first = none →
      ∀ text, environment first.variableName = some text → first.Suits text) :
    ∃ next : Reading,
      (∀ rest, reading.fillFrom environment (first :: rest) = next.fillFrom environment rest) ∧
      next.dryRun = reading.dryRun ∧
      ∀ parameter, next.given? parameter = (reading.given? parameter).or
        (if parameter = first then environment parameter.variableName else none) := by
  cases found : reading.given? first with
  | some own =>
    refine ⟨reading, fun rest => by simp [fillFrom, found], rfl, fun parameter => ?_⟩
    by_cases same : parameter = first <;> simp [same, found]
  | none =>
    cases set : environment first.variableName with
    | none =>
      refine ⟨reading, fun rest => by simp [fillFrom, found, set], rfl, fun parameter => ?_⟩
      by_cases same : parameter = first <;> simp [same, found, set]
    | some text =>
      have passes := Parameter.check_eq_ok_iff.mpr (suits found text set)
      refine ⟨reading.after (.value first text), ?_, rfl, fun parameter => ?_⟩
      · intro rest
        simp [fillFrom, found, set, give, passes, Except.map, after]
      · rw [given?_after_value]
        by_cases same : parameter = first <;> simp [same, found, set]

theorem exists_fillFrom (parameters : List Parameter) :
    ∀ reading : Reading,
      (∀ parameter ∈ parameters, reading.given? parameter = none →
        ∀ text, environment parameter.variableName = some text → parameter.Suits text) →
      ∃ filled, reading.fillFrom environment parameters = .ok filled ∧
        filled.dryRun = reading.dryRun ∧
        ∀ parameter, filled.given? parameter = (reading.given? parameter).or
          (if parameter ∈ parameters then environment parameter.variableName else none) := by
  induction parameters with
  | nil => exact fun reading _ => ⟨reading, rfl, rfl, by simp⟩
  | cons first rest inductionHypothesis =>
    intro reading suit
    obtain ⟨next, goesOn, sameFlag, step⟩ :=
      exists_fillFrom_cons reading first (suit first List.mem_cons_self)
    have suitRest : ∀ parameter ∈ rest, next.given? parameter = none →
        ∀ text, environment parameter.variableName = some text → parameter.Suits text := by
      intro parameter among missing
      rw [step, Option.or_eq_none_iff] at missing
      exact suit parameter (List.mem_cons_of_mem _ among) missing.1
    obtain ⟨filled, fill, keptFlag, values⟩ := inductionHypothesis next suitRest
    refine ⟨filled, (goesOn rest).trans fill, keptFlag.trans sameFlag, fun parameter => ?_⟩
    rw [values, step, Option.or_assoc]
    by_cases same : parameter = first
    · subst same
      cases environment parameter.variableName <;> simp
    · simp [same]

end Reading

/-- What a parameter has: its value on the line, else that of its own variable, else its own
default. -/
inductive Holds (choices : List Choice) (environment : String → Option String)
    (parameter : Parameter) : String → Prop
  | given {text} (chosen : .value parameter text ∈ choices) :
      Holds choices environment parameter text
  | fromVariable {text} (left : LeaveOpen choices parameter)
      (set : environment parameter.variableName = some text) :
      Holds choices environment parameter text
  | byDefault (left : LeaveOpen choices parameter)
      (unset : environment parameter.variableName = none) :
      Holds choices environment parameter parameter.defaultValue

structure Follows (config : Config) (choices : List Choice)
    (environment : String → Option String) : Prop where
  host : Holds choices environment .host config.database.host
  port : ∃ text, Holds choices environment .port text ∧ Spells text config.database.port.toNat
  username : Holds choices environment .username config.database.username
  password : Holds choices environment .password config.database.password
  schema : Holds choices environment .schema config.database.schema
  table : Holds choices environment .table config.settings.table
  domain : Holds choices environment .domain config.settings.domain
  basePackage : Holds choices environment .basePackage config.settings.basePackage
  outputRoot : Holds choices environment .outputRoot config.settings.outputRoot
  author : Holds choices environment .author config.settings.author
  dryRun : config.settings.dryRun = true ↔ .dryRun ∈ choices

section

variable {choices : List Choice} {environment surroundings : String → Option String}

namespace Holds

variable {parameter : Parameter} {text : String}

theorem suits (holds : Holds choices environment parameter text)
    (chosen : ∀ choice ∈ choices, choice.Suits)
    (set : ∀ parameter, LeaveOpen choices parameter →
      ∀ text, environment parameter.variableName = some text → parameter.Suits text) :
    parameter.Suits text := by
  cases holds with
  | given among => exact chosen _ among
  | fromVariable left found => exact set parameter left text found
  | byDefault left unset => exact parameter.suits_defaultValue

theorem unique {other : String} (once : (choices.map Choice.request).Nodup)
    (first : Holds choices environment parameter text)
    (second : Holds choices environment parameter other) : text = other := by
  cases first with
  | given among =>
    cases second with
    | given amongToo =>
      have same := List.inj_on_of_nodup_map once among amongToo rfl
      exact (Choice.value.inj same).2
    | fromVariable left => exact absurd among (left _)
    | byDefault left => exact absurd among (left _)
  | fromVariable left found =>
    cases second with
    | given among => exact absurd among (left _)
    | fromVariable _ foundToo => exact Option.some.inj (found.symm.trans foundToo)
    | byDefault _ unset => simp [found] at unset
  | byDefault left unset =>
    cases second with
    | given among => exact absurd among (left _)
    | fromVariable _ found => simp [found] at unset
    | byDefault => rfl

end Holds

theorem Reading.Records.holds_value {line filled : Reading} (records : line.Records choices)
    (agree : ∀ parameter, LeaveOpen choices parameter →
      surroundings parameter.variableName = environment parameter.variableName)
    (values : ∀ parameter, filled.given? parameter
      = (line.given? parameter).or (surroundings parameter.variableName)) (parameter : Parameter) :
    Holds choices environment parameter (filled.value parameter) := by
  unfold Reading.value
  rw [values]
  cases found : line.given? parameter with
  | some text => exact .given ((records.given?_eq_some_iff parameter text).mp found)
  | none =>
    have left := (records.given?_eq_none_iff parameter).mp found
    rw [agree parameter left]
    cases set : environment parameter.variableName with
    | some text => exact .fromVariable left set
    | none => exact .byDefault left set

theorem exists_configOf {value : Parameter → String} {dryRun : Bool}
    (holds : ∀ parameter, Holds choices environment parameter (value parameter))
    (numeric : Parameter.port.Suits (value .port)) (flag : dryRun = true ↔ .dryRun ∈ choices) :
    ∃ config, configOf value dryRun = .ok config ∧ Follows config choices environment := by
  obtain ⟨port, spelled⟩ := numeric
  unfold configOf
  rw [port?_eq_some_iff.mpr spelled]
  refine ⟨_, rfl, ?_⟩
  exact {
    host := holds .host
    port := ⟨_, holds .port, spelled⟩
    username := holds .username
    password := holds .password
    schema := holds .schema
    table := holds .table
    domain := holds .domain
    basePackage := holds .basePackage
    outputRoot := holds .outputRoot
    author := holds .author
    dryRun := flag }

theorem Line.exists_follows {order : List Choice} {arguments : List String}
    (line : Line order arguments) (same : order.Perm choices)
    (agree : ∀ parameter, LeaveOpen choices parameter →
      surroundings parameter.variableName = environment parameter.variableName)
    (once : (choices.map Choice.request).Nodup) (chosen : ∀ choice ∈ choices, choice.Suits)
    (set : ∀ parameter, LeaveOpen choices parameter →
      ∀ text, environment parameter.variableName = some text → parameter.Suits text) :
    ∃ config, read arguments surroundings = .ok config ∧ Follows config choices environment := by
  have settles : ({} : Reading).settle = .ok {} := rfl
  have onceInOrder := (same.map Choice.request).nodup_iff.mpr once
  obtain ⟨last, taken, inOrder⟩ := line.exists_records settles .empty onceInOrder
    fun choice among => chosen choice (same.mem_iff.mp among)
  have records : last.Records choices := inOrder.of_perm same
  have suitsSet : ∀ parameter ∈ Parameter.all, last.given? parameter = none →
      ∀ text, surroundings parameter.variableName = some text → parameter.Suits text := by
    intro parameter _ missing text found
    have left := (records.given?_eq_none_iff parameter).mp missing
    exact set parameter left text ((agree parameter left).symm.trans found)
  obtain ⟨filled, fill, sameFlag, values⟩ := Reading.exists_fillFrom Parameter.all last suitsSet
  simp only [Parameter.mem_all, if_true] at values
  have holds := records.holds_value agree values
  have flag : filled.dryRun = true ↔ .dryRun ∈ choices := by
    rw [sameFlag]
    exact records.dryRun_iff
  obtain ⟨config, made, follows⟩ := exists_configOf holds ((holds .port).suits chosen set) flag
  refine ⟨config, ?_, follows⟩
  simp only [read, taken, fill, bind, Except.bind]
  exact made

theorem Follows.unique {first second : Config} (once : (choices.map Choice.request).Nodup)
    (one : Follows first choices environment) (other : Follows second choices environment) :
    first = second := by
  have port : first.database.port = second.database.port := by
    obtain ⟨text, holds, spelled⟩ := one.port
    obtain ⟨_, holdsToo, spelledToo⟩ := other.port
    obtain rfl := holds.unique once holdsToo
    have number := port?_eq_some_iff.mpr spelled
    exact Option.some.inj (number.symm.trans (port?_eq_some_iff.mpr spelledToo))
  have dryRun : first.settings.dryRun = second.settings.dryRun :=
    Bool.eq_iff_iff.mpr (one.dryRun.trans other.dryRun.symm)
  have host := one.host.unique once other.host
  have username := one.username.unique once other.username
  have password := one.password.unique once other.password
  have schema := one.schema.unique once other.schema
  have table := one.table.unique once other.table
  have domain := one.domain.unique once other.domain
  have basePackage := one.basePackage.unique once other.basePackage
  have outputRoot := one.outputRoot.unique once other.outputRoot
  have author := one.author.unique once other.author
  obtain ⟨⟨⟩, ⟨⟩⟩ := first
  obtain ⟨⟨⟩, ⟨⟩⟩ := second
  simp_all only

theorem Line.exists_of_choices (choices : List Choice) : ∃ arguments, Line choices arguments := by
  induction choices with
  | nil => exact ⟨[], .nil⟩
  | cons choice choices inductionHypothesis =>
    obtain ⟨rest, others⟩ := inductionHypothesis
    cases choice with
    | value parameter text => exact ⟨_, .cons (.nameJoined parameter text) others⟩
    | dryRun => exact ⟨_, .cons .flag others⟩

/-- What is chosen decides the settings, together with the variables of those parameters that are
left open.  The order of the choices and how each is spelled make no difference. -/
theorem read_and_check_of_choices (once : (choices.map Choice.request).Nodup)
    (chosen : ∀ choice ∈ choices, choice.Suits)
    (set : ∀ parameter, LeaveOpen choices parameter →
      ∀ text, environment parameter.variableName = some text → parameter.Suits text) :
    ∃ config, Follows config choices environment ∧
      (∀ order arguments surroundings, order.Perm choices → Line order arguments →
        (∀ parameter, LeaveOpen choices parameter →
          surroundings parameter.variableName = environment parameter.variableName) →
        read arguments surroundings = .ok config) ∧
      (config.check = .ok () ↔ Table.IsName config.settings.table ∧
        ¬ Text.IsBlank config.settings.domain ∧ ¬ Text.IsBlank config.settings.basePackage ∧
        config.database.schema ≠ "") ∧
      ∀ error, config.check = .error error ↔ config.FirstFault error := by
  obtain ⟨arguments, line⟩ := Line.exists_of_choices choices
  obtain ⟨config, -, follows⟩ := line.exists_follows (.refl _) (fun _ _ => rfl) once chosen set
  refine ⟨config, follows, ?_, config.check_eq_ok_iff, config.check_eq_error_iff⟩
  intro order arguments surroundings same line agree
  obtain ⟨other, readOther, followsOther⟩ := line.exists_follows same agree once chosen set
  rw [readOther, follows.unique once followsOther]

end

/-- Choices that need care: values with marks in front, an empty one, zeros. -/
def mixedChoices : List Choice :=
  [.value .username "x=y", .value .author "", .value .domain "-", .dryRun, .value .port "007",
    .value .password "-p", .value .table "a$1", .value .host "db"]

theorem line_mixedChoices : Line mixedChoices
    ["-u=x=y", "--author=", "-D", "-", "--dry-run", "-P007", "-p-p", "--table", "a$1", "-hdb"] := by
  have username : Choice.Spelled (.value .username "x=y") ["-u=x=y"] :=
    @Choice.Spelled.letterMarked .username 'u' "x=y" rfl (by decide)
  have author : Choice.Spelled (.value .author "") ["--author="] := .nameJoined .author ""
  have domain : Choice.Spelled (.value .domain "-") ["-D", "-"] :=
    @Choice.Spelled.letterApart .domain 'D' "-" rfl (.inl rfl)
  have port : Choice.Spelled (.value .port "007") ["-P007"] :=
    @Choice.Spelled.letterJoined .port 'P' "007" rfl (by decide) (by decide)
  have password : Choice.Spelled (.value .password "-p") ["-p-p"] :=
    @Choice.Spelled.letterJoined .password 'p' "-p" rfl (by decide) (by decide)
  have table : Choice.Spelled (.value .table "a$1") ["--table", "a$1"] :=
    .nameApart .table (.inr (by decide))
  have host : Choice.Spelled (.value .host "db") ["-hdb"] :=
    @Choice.Spelled.letterJoined .host 'h' "db" rfl (by decide) (by decide)
  exact .cons username <| .cons author <| .cons domain <| .cons .flag <| .cons port <|
    .cons password <| .cons table <| .cons host .nil

theorem read_of_mixed_spellings :
    let environment : String → Option String := fun name =>
      [("DDD_GEN_PORT", "none"), ("DDD_GEN_DATABASE", "shop"),
        ("DDD_GEN_OUTPUT", "gen")].lookup name
    read ["-u=x=y", "--author=", "-D", "-", "--dry-run", "-P007", "-p-p", "--table", "a$1", "-hdb"]
        environment
      = .ok {
          database := {
            host := "db", port := 7, username := "x=y", password := "-p", schema := "shop" }
          settings := {
            table := "a$1", domain := "-", outputRoot := "gen", author := "",
            dryRun := true } } := by
  intro environment
  have seven : Spells "007" 7 := .plain ⟨nofun, rfl, rfl⟩
  have once : (mixedChoices.reverse.map Choice.request).Nodup := by decide
  have suitsGiven : ∀ choice ∈ mixedChoices.reverse, choice.Suits := by
    intro choice among
    rw [List.mem_reverse] at among
    revert choice
    simp only [mixedChoices, List.forall_mem_cons]
    exact ⟨trivial, trivial, trivial, trivial, ⟨7, seven⟩, trivial, trivial, trivial, nofun⟩
  have suitsSet : ∀ parameter, LeaveOpen mixedChoices.reverse parameter →
      ∀ text, environment parameter.variableName = some text → parameter.Suits text := by
    intro parameter left text found
    cases parameter
    case port => exact absurd (by simp [mixedChoices]) (left "007")
    case outputRoot =>
      cases found
      exact (by decide : "gen" ≠ "")
    all_goals trivial
  obtain ⟨config, follows, reads, -⟩ := read_and_check_of_choices once suitsGiven suitsSet
  rw [reads _ _ environment mixedChoices.reverse_perm.symm line_mixedChoices fun _ _ => rfl]
  apply congrArg Except.ok
  apply follows.unique once
  exact {
    host := .given (by simp [mixedChoices])
    port := ⟨"007", .given (by simp [mixedChoices]), seven⟩
    username := .given (by simp [mixedChoices])
    password := .given (by simp [mixedChoices])
    schema := .fromVariable (by simp [LeaveOpen, mixedChoices]) rfl
    table := .given (by simp [mixedChoices])
    domain := .given (by simp [mixedChoices])
    basePackage := .byDefault (by simp [LeaveOpen, mixedChoices]) rfl
    outputRoot := .fromVariable (by simp [LeaveOpen, mixedChoices]) rfl
    author := .given (by simp [mixedChoices])
    dryRun := by simp [mixedChoices] }

end CommandLine
end Scaffold
