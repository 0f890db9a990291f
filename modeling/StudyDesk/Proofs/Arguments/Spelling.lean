/-
Module: StudyDesk.Proofs.Arguments.Spelling
Purpose: Every invocation has arguments that say what it gives, whatever its texts contain.
Main exports:
  OptionRule.argument, Grammar.Spells, Grammar.read_spelled, Grammar.read_operands,
  Command.arguments, Invocation.read_command, Invocation.arguments,
  Invocation.exists_read_arguments, Invocation.ofGiven_of_values
-/
import Mathlib.Data.List.TakeWhile
import StudyDesk.Invocation
import StudyDesk.Proofs.Arguments.Environment

namespace StudyDesk

/-!
An option is spelled with its value attached, so that the value may begin with a dash or contain an
equals sign.  Operands stand behind two dashes, after which nothing is an option any more.
-/

/-- The argument that gives an option its value; an option without values is named alone. -/
def OptionRule.argument (rule : OptionRule) (value : String) : String :=
  if rule.operand.takesValue then "--" ++ rule.name ++ "=" ++ value else "--" ++ rule.name

/-- An option may be given a value: a file must have a name, and a flag has no value. -/
structure OptionRule.Allows (rule : OptionRule) (value : String) : Prop where
  filled : rule.operand = .path → value ≠ ""
  flag : rule.operand.takesValue = false → value = ""

namespace Grammar

variable {α : Type} {g : Grammar α} {rule : OptionRule} {given : Given} {value : String}
  {env : String → Option String}

/-! ### Options -/

/-- An option that a grammar finds by its name alone. -/
structure Spells (g : Grammar α) (rule : OptionRule) : Prop where
  named : g.named? rule.name = some rule
  nonempty : rule.name.toList ≠ []
  noEquals : '=' ∉ rule.name.toList
  notHelp : rule.operand ≠ .help

/-- No command looks like an option. -/
def CommandsPlain (g : Grammar α) : Prop :=
  ∀ word, word.toList.head? = some '-' → g.isCommand word = false

theorem commandsPlain_leaf (options : List OptionRule) (count : Nat) (result : Given → α) :
    (Grammar.leaf options count result).CommandsPlain := fun _ _ => rfl

theorem commandsPlain_group {options : List OptionRule} {commands : List (String × Grammar α)}
    (plain : ∀ name ∈ commands.map Prod.fst, name.toList.head? ≠ some '-') :
    (Grammar.group options commands).CommandsPlain := by
  intro word dash
  have notHelp : word ≠ helpCommand := by
    rintro rfl
    revert dash
    decide
  have unlisted : (commands.lookup word).isSome = false := by
    rw [Option.isSome_eq_false_iff, Option.isNone_iff_eq_none, List.lookup_eq_none_iff]
    intro entry listed
    refine bne_iff_ne.mpr ?_
    rintro rfl
    exact plain _ (List.mem_map_of_mem listed) dash
  rw [isCommand, unlisted, decide_eq_false notHelp, Bool.or_self]

theorem takeWhile_name {name : List Char} (noEquals : '=' ∉ name) (rest : List Char) :
    (name ++ '=' :: rest).takeWhile (· != '=') = name ∧
      (name ++ '=' :: rest).dropWhile (· != '=') = '=' :: rest := by
  have inside : ∀ c ∈ name, (c != '=') = true := by
    intro c member
    refine bne_iff_ne.mpr ?_
    rintro rfl
    exact noEquals member
  constructor
  · rw [List.takeWhile_append_of_pos inside]
    simp
  · rw [List.dropWhile_append_of_pos inside]
    simp

theorem readArgument_dashes {arg : String} {body : List Char} (given : Given)
    (shown : arg.toList = '-' :: '-' :: body) (nonempty : body ≠ []) :
    g.readArgument ⟨given, none, false⟩ arg = g.readName ⟨given, none, false⟩ body := by
  obtain ⟨c, rest, rfl⟩ := List.exists_cons_of_ne_nil nonempty
  simp only [readArgument, shown, Bool.false_eq_true, if_false]

/-- An option is entered with the value that its argument gives it. -/
theorem readArgument_argument (spells : g.Spells rule) (allows : rule.Allows value)
    (new : given.value? rule.name = none) :
    g.readArgument ⟨given, none, false⟩ (rule.argument value) =
      .ok ⟨{ given with options := given.options ++ [(rule.name, value)] }, none, false⟩ := by
  have entered := Given.enter_of_new value new allows.filled
  have name : String.ofList rule.name.toList = rule.name := String.ofList_toList
  cases takes : rule.operand.takesValue with
  | true =>
      have shown : (rule.argument value).toList =
          '-' :: '-' :: (rule.name.toList ++ '=' :: value.toList) := by
        rw [OptionRule.argument, takes]
        simp
      obtain ⟨front, back⟩ := takeWhile_name spells.noEquals value.toList
      rw [readArgument_dashes given shown (by simp), readName, front, back, name, spells.named]
      simp only [takes, Option.isSome_some, Bool.not_true, Bool.and_false, Bool.false_eq_true,
        if_false, String.ofList_toList]
      cases kind : rule.operand with
      | help => exact absurd kind spells.notHelp
      | flag => rw [kind] at takes; cases takes
      | text | path =>
          simp only [Progress.useOption, Progress.settle, kind, bind, Except.bind, entered]
          rfl
  | false =>
      have empty := allows.flag takes
      have shown : (rule.argument value).toList = '-' :: '-' :: rule.name.toList := by
        rw [OptionRule.argument, takes]
        simp
      have inside : ∀ c ∈ rule.name.toList, (c != '=') = true := by
        intro c member
        refine bne_iff_ne.mpr ?_
        rintro rfl
        exact spells.noEquals member
      have front : rule.name.toList.takeWhile (· != '=') = rule.name.toList :=
        List.takeWhile_eq_self_iff.mpr inside
      have back : rule.name.toList.dropWhile (· != '=') = [] :=
        List.dropWhile_eq_nil_iff.mpr inside
      rw [readArgument_dashes given shown spells.nonempty, readName, front, back, name,
        spells.named]
      simp only [Option.isSome_none, Bool.false_and, Bool.false_eq_true, if_false]
      subst empty
      cases kind : rule.operand with
      | help => exact absurd kind spells.notHelp
      | text | path => rw [kind] at takes; cases takes
      | flag =>
          simp only [Progress.useOption, Progress.settle, kind, bind, Except.bind, entered]
          rfl

theorem head?_argument (rule : OptionRule) (value : String) :
    (rule.argument value).toList.head? = some '-' := by
  unfold OptionRule.argument
  split_ifs <;> simp

/-- The arguments that give options their values, in the order of the options. -/
def spelled (rules : List OptionRule) (value? : String → Option String) : List String :=
  rules.filterMap fun rule => (value? rule.name).map rule.argument

/-- What is then given. -/
def entries (rules : List OptionRule) (value? : String → Option String) :
    List (String × String) :=
  rules.filterMap fun rule => (value? rule.name).map (rule.name, ·)

theorem lookup_entries_of_not_mem {rules : List OptionRule} {value? : String → Option String}
    {name : String} (unknown : name ∉ rules.map (·.name)) :
    (entries rules value?).lookup name = none := by
  rw [List.lookup_eq_none_iff]
  intro entry listed
  obtain ⟨rule, isRule, given⟩ := List.mem_filterMap.mp listed
  obtain ⟨value, -, rfl⟩ := Option.map_eq_some_iff.mp given
  refine bne_iff_ne.mpr ?_
  rintro rfl
  exact unknown (List.mem_map_of_mem isRule)

/-- Every option of the list is given the value that it should have. -/
theorem lookup_entries {rules : List OptionRule} {value? : String → Option String}
    (distinct : (rules.map (·.name)).Nodup) (isRule : rule ∈ rules) :
    (entries rules value?).lookup rule.name = value? rule.name := by
  induction rules with
  | nil => cases isRule
  | cons first rules ih =>
      obtain ⟨fresh, distinct⟩ := List.nodup_cons.mp distinct
      rcases List.mem_cons.mp isRule with rfl | later
      · cases found : value? rule.name with
        | none => simpa [entries, found] using lookup_entries_of_not_mem fresh
        | some value => simp [entries, found]
      · have different : (rule.name == first.name) = false := by
          refine beq_eq_false_iff_ne.mpr fun same => fresh ?_
          exact List.mem_map.mpr ⟨rule, later, same⟩
        cases found : value? first.name with
        | none => simpa [entries, found] using ih distinct later
        | some value => simpa [entries, found, List.lookup_cons, different] using ih distinct later

/-- Spelled options are read one after the other. -/
theorem read_spelled (env : String → Option String) (given : Given) (plain : g.CommandsPlain)
    {rules : List OptionRule}
    {value? : String → Option String} (spells : ∀ rule ∈ rules, g.Spells rule)
    (distinct : (rules.map (·.name)).Nodup)
    (allows : ∀ rule ∈ rules, ∀ value ∈ value? rule.name, rule.Allows value)
    (new : ∀ rule ∈ rules, given.value? rule.name = none) (rest : List String) :
    g.read env ⟨given, none, false⟩ (spelled rules value? ++ rest) =
      g.read env ⟨{ given with options := given.options ++ entries rules value? }, none, false⟩
        rest := by
  induction rules generalizing given with
  | nil => simp [spelled, entries]
  | cons rule rules ih =>
      obtain ⟨spellsFirst, spells⟩ := List.forall_mem_cons.mp spells
      obtain ⟨fresh, distinct⟩ := List.nodup_cons.mp distinct
      obtain ⟨allowsFirst, allows⟩ := List.forall_mem_cons.mp allows
      obtain ⟨newFirst, new⟩ := List.forall_mem_cons.mp new
      cases found : value? rule.name with
      | none =>
          have skipped : spelled (rule :: rules) value? = spelled rules value? := by
            simp [spelled, found]
          have alike : entries (rule :: rules) value? = entries rules value? := by
            simp [entries, found]
          rw [skipped, alike]
          exact ih given spells distinct allows new
      | some value =>
          have first : spelled (rule :: rules) value? =
              rule.argument value :: spelled rules value? := by
            simp [spelled, found]
          have enters : entries (rule :: rules) value? =
              (rule.name, value) :: entries rules value? := by
            simp [entries, found]
          have stillNew : ∀ other ∈ rules,
              ({ given with options := given.options ++ [(rule.name, value)] } : Given).value?
                other.name = none := by
            intro other isRule
            have different : (other.name == rule.name) = false := by
              refine beq_eq_false_iff_ne.mpr ?_
              intro same
              exact fresh (List.mem_map.mpr ⟨other, isRule, same⟩)
            rw [Given.value?_append, new other isRule, Option.none_or, List.lookup_cons, different]
            rfl
          have step := readArgument_argument spellsFirst (allowsFirst value found) newFirst
          have notCommand := plain _ (head?_argument rule value)
          rw [first, enters, List.cons_append, read]
          simp only [Progress.awaitsValue, Option.any_none, notCommand, Bool.not_false,
            Bool.or_true, if_true, step, bind, Except.bind]
          rw [ih _ spells distinct allows stillNew]
          simp only [List.append_assoc, List.singleton_append]

/-! ### Operands -/

/-- Behind two dashes everything is an operand. -/
theorem read_dashes (plain : g.CommandsPlain) (given : Given) (rest : List String) :
    g.read env ⟨given, none, false⟩ ("--" :: rest) = g.read env ⟨given, none, true⟩ rest := by
  rw [read, plain "--" rfl]
  rfl

theorem read_operands {options : List OptionRule} {count : Nat} {result : Given → α}
    {operands : List String} (room : given.operands.length + operands.length ≤ count) :
    (Grammar.leaf options count result).read env ⟨given, none, true⟩ operands =
      (Grammar.leaf options count result).read env
        ⟨{ given with operands := given.operands ++ operands }, none, true⟩ [] := by
  induction operands generalizing given with
  | nil => rw [List.append_nil]
  | cons operand operands ih =>
      rw [List.length_cons] at room
      have free : given.operands.length < count := by omega
      have step : (Grammar.leaf options count result).readArgument ⟨given, none, true⟩ operand =
          .ok ⟨given.push operand, none, true⟩ := by
        simp only [readArgument, readOperand, if_pos free, if_true]
        rfl
      have moved : (Grammar.leaf options count result).read env ⟨given, none, true⟩
          (operand :: operands) =
            (Grammar.leaf options count result).read env ⟨given.push operand, none, true⟩
              operands := by
        rw [read, step]
        rfl
      have stillRoom : (given.push operand).operands.length + operands.length ≤ count := by
        rw [Given.push, List.length_append, List.length_singleton]
        omega
      rw [moved, ih stillRoom]
      simp only [Given.push, List.append_assoc, List.singleton_append]

/-- A command is over when it has its operands. -/
theorem read_end {options : List OptionRule} {count : Nat} {result : Given → α} {literal : Bool}
    (full : given.operands.length = count) :
    (Grammar.leaf options count result).read (fun _ => none) ⟨given, none, literal⟩ [] =
      .ok (given, result given) := by
  have closed : (Grammar.leaf options count result).close (fun _ => none)
      ⟨given, none, literal⟩ = .ok given :=
    enterFallbacks_of_none (fun rule _ => Option.bind_fun_none rule.fallback) given
  simp [read, closed, Grammar.result, full, bind, Except.bind]

section Leaf

variable {options : List OptionRule} {result : Given → α} (value? : String → Option String)

/-- A command with its options and then, behind two dashes, its operands. -/
theorem read_leaf {operands : List String}
    (spells : ∀ rule ∈ options, (Grammar.leaf options operands.length result).Spells rule)
    (distinct : (options.map (·.name)).Nodup)
    (allows : ∀ rule ∈ options, ∀ value ∈ value? rule.name, rule.Allows value) :
    (Grammar.leaf options operands.length result).read (fun _ => none) .start
        (spelled options value? ++ "--" :: operands) =
      .ok (⟨entries options value?, operands⟩, result ⟨entries options value?, operands⟩) := by
  have plain := commandsPlain_leaf options operands.length result
  have options := read_spelled (fun _ => none) .empty plain spells distinct allows
    (fun _ _ => rfl) ("--" :: operands)
  refine options.trans ((read_dashes plain _ operands).trans ?_)
  exact (read_operands (by simp [Given.empty])).trans (read_end rfl)

/-- A command without operands needs no dashes. -/
theorem read_leaf_zero (spells : ∀ rule ∈ options, (Grammar.leaf options 0 result).Spells rule)
    (distinct : (options.map (·.name)).Nodup)
    (allows : ∀ rule ∈ options, ∀ value ∈ value? rule.name, rule.Allows value) :
    (Grammar.leaf options 0 result).read (fun _ => none) .start (spelled options value?) =
      .ok (⟨entries options value?, []⟩, result ⟨entries options value?, []⟩) := by
  have options := read_spelled (fun _ => none) .empty
    (commandsPlain_leaf options 0 result) spells distinct allows (fun _ _ => rfl) []
  rw [List.append_nil] at options
  exact options.trans (read_end rfl)

end Leaf

/-! ### Commands -/

/-- The name of a command hands the rest over to its grammar. -/
theorem read_word (g : Grammar α) (word : String) {below : Grammar α} {rest : List String}
    {inner : Given × α} (found : g.command? word = some below)
    (read : below.read (fun _ => none) .start rest = .ok inner) (given : Given) :
    g.read (fun _ => none) ⟨given, none, false⟩ (word :: rest) = .ok (given, inner.2) := by
  have isCommand : g.isCommand word = true := by
    cases g with
    | leaf => cases found
    | group options commands =>
        have listed : commands.lookup word = some below := found
        simp [Grammar.isCommand, listed]
  have closed : g.close (fun _ => none) ⟨given, none, false⟩ = .ok given :=
    enterFallbacks_of_none (fun rule _ => Option.bind_fun_none rule.fallback) given
  rw [Grammar.read]
  simp [Progress.awaitsValue, isCommand, found, read, closed, bind, Except.bind]

end Grammar

/-- The arguments that name a command and give it its texts. -/
def Command.arguments : Command → List String
  | .ask query noRetry => "ask" :: ((if noRetry then ["--no-retry"] else []) ++ ["--", query])
  | .topics => ["topics"]
  | .check query => ["check", "--", query]
  | .listProblems topic => "problems" :: "list" :: (topic.map ("--topic=" ++ ·)).toList
  | .showProblem id => ["problems", "show", "--", id]
  | .scaffold id language => ["problems", "scaffold", "--", id, language]

namespace Invocation

/-- A command without options of its own. -/
theorem read_operands (operands : List String) (result : Given → Command) :
    (Grammar.leaf [] operands.length result).read (fun _ => none) .start ("--" :: operands) =
      .ok (⟨[], operands⟩, result ⟨[], operands⟩) :=
  Grammar.read_leaf (fun _ => none) (List.forall_mem_nil _) .nil (List.forall_mem_nil _)

theorem read_ask (query : String) (noRetry : Bool) (given : Given) :
    grammar.read (fun _ => none) ⟨given, none, false⟩ (Command.ask query noRetry).arguments =
      .ok (given, .ask query noRetry) := by
  let rule : OptionRule := ⟨"no-retry", none, .flag, none⟩
  let result : Given → Command := fun given => .ask (given.operand 0) (given.has "no-retry")
  let value? : String → Option String := fun _ => if noRetry then some "" else none
  have flag : (if noRetry then ["--no-retry"] else []) = Grammar.spelled [rule] value? := by
    cases noRetry <;> rfl
  have spells : ∀ r ∈ [rule], (Grammar.leaf [rule] [query].length result).Spells r :=
    List.forall_mem_singleton.mpr ⟨rfl, by decide, by decide, by decide⟩
  have allows : ∀ r ∈ [rule], ∀ value ∈ value? r.name, r.Allows value := by
    refine List.forall_mem_singleton.mpr fun value isValue => ⟨nofun, fun _ => ?_⟩
    cases noRetry
    · cases isValue
    · exact (Option.some.inj isValue).symm
  have inner := Grammar.read_leaf value? spells (by decide) allows
  rw [Command.arguments, flag]
  refine (Grammar.read_word grammar "ask" rfl inner given).trans ?_
  cases noRetry <;> rfl

theorem read_list (topic : Option String) (given : Given) :
    grammar.read (fun _ => none) ⟨given, none, false⟩ (Command.listProblems topic).arguments =
      .ok (given, .listProblems topic) := by
  let rule : OptionRule := ⟨"topic", some 't', .text, none⟩
  let result : Given → Command := fun given => .listProblems (given.value? "topic")
  let value? : String → Option String := fun _ => topic
  have option : (topic.map ("--topic=" ++ ·)).toList = Grammar.spelled [rule] value? := by
    cases topic <;> rfl
  have spells : ∀ r ∈ [rule], (Grammar.leaf [rule] 0 result).Spells r :=
    List.forall_mem_singleton.mpr ⟨rfl, by decide, by decide, by decide⟩
  have allows : ∀ r ∈ [rule], ∀ value ∈ value? r.name, r.Allows value :=
    List.forall_mem_singleton.mpr fun value _ => ⟨nofun, nofun⟩
  have inner := Grammar.read_leaf_zero value? spells (by decide) allows
  have group := Grammar.read_word (.group [] problemCommands) "list" rfl inner .empty
  rw [Command.arguments, option]
  refine (Grammar.read_word grammar "problems" rfl group given).trans ?_
  cases topic <;> rfl

/-- The arguments of a command are read as it, whatever is given before. -/
theorem read_command (command : Command) (given : Given) :
    grammar.read (fun _ => none) ⟨given, none, false⟩ command.arguments = .ok (given, command) := by
  cases command with
  | ask query noRetry => exact read_ask query noRetry given
  | topics =>
      have inner : (Grammar.leaf [] 0 fun _ => Command.topics).read (fun _ => none) .start [] =
          .ok (.empty, .topics) := Grammar.read_end rfl
      exact Grammar.read_word grammar "topics" rfl inner given
  | check query =>
      have inner := read_operands [query] fun given => .check (given.operand 0)
      exact Grammar.read_word grammar "check" rfl inner given
  | listProblems topic => exact read_list topic given
  | showProblem id =>
      have inner := read_operands [id] fun given => .showProblem (given.operand 0)
      have group :=
        Grammar.read_word (.group [] problemCommands) "show" rfl inner .empty
      exact Grammar.read_word grammar "problems" rfl group given
  | scaffold id language =>
      have inner := read_operands [id, language] fun given =>
        .scaffold (given.operand 0) (given.operand 1)
      have group :=
        Grammar.read_word (.group [] problemCommands) "scaffold" rfl inner .empty
      exact Grammar.read_word grammar "problems" rfl group given

/-! ### Invocations -/

/-- The arguments that spell an invocation. -/
def arguments (invocation : Invocation) : List String :=
  ["--config=" ++ invocation.configFile] ++
    (invocation.baseUrl.map ("--base-url=" ++ ·)).toList ++
    (invocation.model.map ("--model=" ++ ·)).toList ++
    (invocation.dataDir.map ("--data-dir=" ++ ·)).toList ++
    (if invocation.verbose then ["--verbose"] else []) ++ invocation.command.arguments

/-- What an invocation gives to each option. -/
def value? (invocation : Invocation) : String → Option String
  | "config" => some invocation.configFile
  | "base-url" => invocation.baseUrl
  | "model" => invocation.model
  | "data-dir" => invocation.dataDir
  | "verbose" => if invocation.verbose then some "" else none
  | _ => none

theorem arguments_eq (invocation : Invocation) :
    invocation.arguments =
      Grammar.spelled options invocation.value? ++ invocation.command.arguments := by
  obtain ⟨configFile, baseUrl, model, dataDir, verbose, command⟩ := invocation
  unfold arguments
  congr 1
  cases baseUrl <;> cases model <;> cases dataDir <;> cases verbose <;> rfl

theorem options_distinct : (options.map (·.name)).Nodup := by decide

theorem spells_options : ∀ rule ∈ options, grammar.Spells rule := by
  have each : ∀ rule ∈ options, grammar.named? rule.name = some rule ∧ rule.name.toList ≠ [] ∧
      '=' ∉ rule.name.toList ∧ rule.operand ≠ .help := by decide
  intro rule isRule
  obtain ⟨named, nonempty, noEquals, notHelp⟩ := each rule isRule
  exact ⟨named, nonempty, noEquals, notHelp⟩

/-- The names of files are not empty. -/
structure Named (invocation : Invocation) : Prop where
  configFile : invocation.configFile ≠ ""
  dataDir : invocation.dataDir ≠ some ""

theorem allows_value? {invocation : Invocation} (named : invocation.Named) :
    ∀ rule ∈ options, ∀ value ∈ invocation.value? rule.name, rule.Allows value := by
  simp only [options, List.forall_mem_cons, List.not_mem_nil, false_imp_iff, implies_true, and_true]
  refine ⟨fun value given => ⟨fun _ => ?_, nofun⟩, fun value _ => ⟨nofun, nofun⟩,
    fun value _ => ⟨nofun, nofun⟩, fun value given => ⟨fun _ => ?_, nofun⟩,
    fun value given => ⟨nofun, fun _ => ?_⟩⟩
  · exact Option.some.inj given ▸ named.configFile
  · rintro rfl
    exact named.dataDir given
  · have flag : (if invocation.verbose then some "" else none) = some value := given
    split_ifs at flag
    exact (Option.some.inj flag).symm

/-- Before its command an invocation gives each option its value. -/
theorem read_arguments {invocation : Invocation} (named : invocation.Named) :
    grammar.read (fun _ => none) .start invocation.arguments =
      .ok (⟨Grammar.entries options invocation.value?, []⟩, invocation.command) := by
  have plain : grammar.CommandsPlain := Grammar.commandsPlain_group (by decide)
  rw [arguments_eq]
  refine (Grammar.read_spelled (fun _ => none) .empty plain spells_options options_distinct
    (allows_value? named) (fun _ _ => rfl) _).trans ?_
  exact read_command invocation.command _

/-- The arguments of an invocation give each option what the invocation does. -/
theorem exists_read_arguments {invocation : Invocation} (named : invocation.Named) :
    ∃ given, grammar.read (fun _ => none) .start invocation.arguments =
        .ok (given, invocation.command) ∧
      ∀ rule ∈ options, given.value? rule.name = invocation.value? rule.name :=
  ⟨_, read_arguments named, fun _ isRule => Grammar.lookup_entries options_distinct isRule⟩

/-- An invocation is made of what it gives to each option. -/
theorem ofGiven_of_values {invocation : Invocation} {given : Given}
    (values : ∀ rule ∈ options, given.value? rule.name = invocation.value? rule.name) :
    ofGiven given invocation.command = invocation := by
  simp only [options, List.forall_mem_cons] at values
  obtain ⟨config, baseUrl, model, dataDir, verbose, -⟩ := values
  have flag : (invocation.value? "verbose").isSome = invocation.verbose := by
    rw [value?]
    cases invocation.verbose <;> rfl
  simp only [ofGiven, Given.has, config, baseUrl, model, dataDir, verbose, flag]
  rfl

end Invocation

end StudyDesk
