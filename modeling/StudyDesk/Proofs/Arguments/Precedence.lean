/-
Module: StudyDesk.Proofs.Arguments.Precedence
Purpose: The arguments of an invocation are read as it in every environment, and what any arguments
  give goes before what the environment has.
Main exports:
  Invocation.exists_read, Invocation.LeavesUnset, Invocation.ofArguments_arguments,
  Invocation.Heeds, Invocation.SpellingLaw, Invocation.spellingLaw
-/
import StudyDesk.Proofs.Arguments.Spelling

namespace StudyDesk.Invocation

variable {env : String → Option String} {args : List String} {given : Given} {command : Command}
  {invocation : Invocation}

/-! ### Variables -/

/-- Only the options before the command have variables. -/
theorem isBare_commands : ∀ entry ∈ commands, entry.2.IsBare := by
  have nothing : ∀ rule ∈ ([] : List OptionRule), rule.fallback = none := List.forall_mem_nil _
  have problems : ∀ entry ∈ problemCommands, entry.2.IsBare :=
    List.forall_mem_cons.mpr ⟨Grammar.isBare_leaf (List.forall_mem_singleton.mpr rfl),
      List.forall_mem_cons.mpr ⟨Grammar.isBare_leaf nothing,
        List.forall_mem_singleton.mpr (Grammar.isBare_leaf nothing)⟩⟩
  exact List.forall_mem_cons.mpr ⟨Grammar.isBare_leaf (List.forall_mem_singleton.mpr rfl),
    List.forall_mem_cons.mpr ⟨Grammar.isBare_leaf nothing,
      List.forall_mem_cons.mpr ⟨Grammar.isBare_leaf nothing,
        List.forall_mem_singleton.mpr (Grammar.isBare_group nothing problems)⟩⟩⟩

/-- The variable of each option. -/
theorem standIns (env : String → Option String) :
    Grammar.standIn? env options "config" = env "CODETUTOR_CONFIG" ∧
      Grammar.standIn? env options "base-url" = env "CODETUTOR_BASE_URL" ∧
      Grammar.standIn? env options "model" = env "CODETUTOR_MODEL" ∧
      Grammar.standIn? env options "data-dir" = env "CODETUTOR_DATA_DIR" ∧
      Grammar.standIn? env options "verbose" = none := ⟨rfl, rfl, rfl, rfl, rfl⟩

/-- A file is named where its variable counts. -/
theorem filled_of_named
    (config : given.value? "config" = none → env "CODETUTOR_CONFIG" ≠ some "")
    (dataDir : given.value? "data-dir" = none → env "CODETUTOR_DATA_DIR" ≠ some "") :
    ∀ rule ∈ options, rule.operand = .path → given.value? rule.name = none →
      rule.fallback.bind env ≠ some "" := by
  simp only [options, List.forall_mem_cons, List.not_mem_nil, false_imp_iff, implies_true, and_true]
  exact ⟨fun _ => config, fun isPath _ => absurd isPath (by decide),
    fun isPath _ => absurd isPath (by decide), fun _ => dataDir,
    fun isPath _ => absurd isPath (by decide)⟩

/-- Arguments that are read without an environment are read in every environment that names files, and
its variables only stand in. -/
theorem exists_read (read : grammar.read (fun _ => none) .start args = .ok (given, command))
    (filled : ∀ rule ∈ options, rule.operand = .path → given.value? rule.name = none →
      rule.fallback.bind env ≠ some "") :
    ∃ now, grammar.read env .start args = .ok (now, command) ∧
      ∀ name, now.value? name = (given.value? name).or (Grammar.standIn? env options name) := by
  obtain ⟨now, entered⟩ := Grammar.exists_enterFallbacks given filled
  exact ⟨now, (Grammar.read_group_eq_ok_iff isBare_commands).mpr ⟨given, read, entered⟩,
    Grammar.value?_enterFallbacks options_distinct entered⟩

/-! ### Arguments in an environment -/

/-- The environment has nothing for the options that an invocation does not give. -/
structure LeavesUnset (env : String → Option String) (invocation : Invocation) : Prop where
  baseUrl : invocation.baseUrl = none → env "CODETUTOR_BASE_URL" = none
  model : invocation.model = none → env "CODETUTOR_MODEL" = none
  dataDir : invocation.dataDir = none → env "CODETUTOR_DATA_DIR" = none

/-- Nothing stands in for an option that an invocation does not give. -/
theorem standIn?_of_leavesUnset (unset : LeavesUnset env invocation) :
    ∀ rule ∈ options, invocation.value? rule.name = none →
      Grammar.standIn? env options rule.name = none := by
  obtain ⟨-, baseUrl, model, dataDir, verbose⟩ := standIns env
  simp only [options, List.forall_mem_cons, List.not_mem_nil, false_imp_iff, implies_true, and_true]
  exact ⟨fun absent => absurd absent (Option.some_ne_none invocation.configFile),
    fun absent => baseUrl.trans (unset.baseUrl absent),
    fun absent => model.trans (unset.model absent),
    fun absent => dataDir.trans (unset.dataDir absent), fun _ => verbose⟩

/-- An invocation is what its arguments stand for. -/
theorem ofArguments_arguments_of_leavesUnset (named : invocation.Named)
    (unset : LeavesUnset env invocation) :
    ofArguments env invocation.arguments = .ok invocation := by
  obtain ⟨spelled, plain, given⟩ := exists_read_arguments named
  have config : spelled.value? "config" = some invocation.configFile :=
    given ⟨"config", some 'c', .path, some "CODETUTOR_CONFIG"⟩ (by decide)
  have dataDir : spelled.value? "data-dir" = invocation.dataDir :=
    given ⟨"data-dir", some 'd', .path, some "CODETUTOR_DATA_DIR"⟩ (by decide)
  have filled : ∀ rule ∈ options, rule.operand = .path → spelled.value? rule.name = none →
      rule.fallback.bind env ≠ some "" :=
    filled_of_named (fun absent => absurd (config.symm.trans absent) (Option.some_ne_none _))
      fun absent => (unset.dataDir (dataDir ▸ absent)).trans_ne (Option.some_ne_none "").symm
  obtain ⟨now, read, values⟩ := exists_read plain filled
  have same : ∀ rule ∈ options, now.value? rule.name = invocation.value? rule.name := by
    intro rule isRule
    rw [values, given rule isRule]
    cases absent : invocation.value? rule.name with
    | none => rw [standIn?_of_leavesUnset unset rule isRule absent, Option.or_none]
    | some value => exact Option.some_or
  rw [ofArguments, read]
  exact congrArg Except.ok (ofGiven_of_values same)

theorem ofArguments_arguments (named : invocation.Named) :
    ofArguments (fun _ => none) invocation.arguments = .ok invocation :=
  ofArguments_arguments_of_leavesUnset named ⟨fun _ => rfl, fun _ => rfl, fun _ => rfl⟩

/-- An invocation has what arguments give to its options. -/
structure Heeds (given : Given) (invocation : Invocation) : Prop where
  configFile : ∀ file, given.value? "config" = some file → invocation.configFile = file
  baseUrl : ∀ url, given.value? "base-url" = some url → invocation.baseUrl = some url
  model : ∀ name, given.value? "model" = some name → invocation.model = some name
  dataDir : ∀ directory, given.value? "data-dir" = some directory →
    invocation.dataDir = some directory
  verbose : invocation.verbose = given.has "verbose"

/-- Entering the variables leaves what the arguments give. -/
theorem heeds_of_enterFallbacks {now : Given}
    (entered : Grammar.enterFallbacks env options given = .ok now) (command : Command) :
    Heeds given (ofGiven now command) := by
  have values := Grammar.value?_enterFallbacks options_distinct entered
  obtain ⟨-, -, -, -, verbose⟩ := standIns env
  constructor
  · intro file isGiven
    simp only [ofGiven, values, isGiven, Option.some_or, Option.getD_some]
  · intro url isGiven
    simp only [ofGiven, values, isGiven, Option.some_or]
  · intro name isGiven
    simp only [ofGiven, values, isGiven, Option.some_or]
  · intro directory isGiven
    simp only [ofGiven, values, isGiven, Option.some_or]
  · simp only [ofGiven, Given.has, values, verbose, Option.or_none]

/-- What holds of the arguments of an invocation, and of any others, in an environment. -/
structure SpellingLaw (env : String → Option String) (invocation : Invocation) : Prop where
  /-- The arguments of the invocation are read as it. -/
  readBack : ofArguments env invocation.arguments = .ok invocation
  /-- Whatever arguments are read, they are read without the environment too, and what they give goes
  before it. -/
  flagsStay : ∀ args now, ofArguments env args = .ok now →
    ∃ given, grammar.read (fun _ => none) .start args = .ok (given, now.command) ∧ Heeds given now

/-- The law of spelling holds of every invocation whose files are named, whatever its texts contain, in
every environment that leaves unset what the invocation does. -/
theorem spellingLaw (named : invocation.Named) (unset : LeavesUnset env invocation) :
    SpellingLaw env invocation where
  readBack := ofArguments_arguments_of_leavesUnset named unset
  flagsStay := by
    intro args now isRead
    obtain ⟨⟨values, command⟩, read, rfl⟩ := map_eq_ok_iff.mp isRead
    obtain ⟨given, plain, entered⟩ := (Grammar.read_group_eq_ok_iff isBare_commands).mp read
    exact ⟨given, plain, heeds_of_enterFallbacks entered command⟩

/-- An invocation whose texts look like options. -/
def disguised : Invocation where
  configFile := "-c=--help"
  baseUrl := some "--model=other"
  model := none
  dataDir := some "--"
  verbose := true
  command := .ask "--no-retry" true

/-- An environment with other files and another address. -/
def elsewhere : String → Option String
  | "CODETUTOR_CONFIG" => some ""
  | "CODETUTOR_BASE_URL" => some "http://localhost"
  | "CODETUTOR_DATA_DIR" => some "/elsewhere"
  | _ => none

theorem spellingLaw_disguised :
    disguised.Named ∧ LeavesUnset elsewhere disguised ∧ SpellingLaw elsewhere disguised := by
  have named : disguised.Named := ⟨by decide, by decide⟩
  have unset : LeavesUnset elsewhere disguised := ⟨nofun, fun _ => rfl, nofun⟩
  exact ⟨named, unset, spellingLaw named unset⟩

end StudyDesk.Invocation
