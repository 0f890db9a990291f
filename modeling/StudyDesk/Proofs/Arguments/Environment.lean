/-
Module: StudyDesk.Proofs.Arguments.Environment
Purpose: The variables of the environment stand in for the options that the arguments do not give.
Main exports:
  Given.value?_append, Grammar.standIn?, Grammar.value?_enterFallbacks,
  Grammar.exists_enterFallbacks, Grammar.IsBare, Grammar.read_group_eq_ok_iff
-/
import StudyDesk.Arguments.Reading
import StudyDesk.Proofs.Json.Inversion

namespace StudyDesk

namespace Given

variable {given : Given} {rule : OptionRule}

theorem has_eq_false_iff {name : String} : given.has name = false ↔ given.value? name = none := by
  rw [has, Option.isSome_eq_false_iff, Option.isNone_iff_eq_none]

/-- What is given first counts. -/
theorem value?_append (given : Given) (entries : List (String × String)) (name : String) :
    ({ given with options := given.options ++ entries } : Given).value? name =
      (given.value? name).or (entries.lookup name) :=
  List.lookup_append

/-- An option is entered if it is new, and a file if it has a name. -/
theorem enter_of_new (value : String) (new : given.value? rule.name = none)
    (filled : rule.operand = .path → value ≠ "") :
    given.enter rule value =
      .ok { given with options := given.options ++ [(rule.name, value)] } := by
  rw [enter, has_eq_false_iff.mpr new, if_neg Bool.false_ne_true]
  refine if_neg fun empty => ?_
  simp only [Bool.and_eq_true, decide_eq_true_eq, String.isEmpty_iff] at empty
  exact filled empty.1 empty.2

theorem eq_of_enter {value : String} {now : Given} (entered : given.enter rule value = .ok now) :
    now = { given with options := given.options ++ [(rule.name, value)] } := by
  unfold enter at entered
  split_ifs at entered
  exact (Except.ok.inj entered).symm

end Given

namespace Grammar

variable {α : Type} {env : String → Option String} {rules : List OptionRule} {given : Given}

/-! ### Entering the variables -/

/-- What the environment has for the option of a name. -/
def standIn? (env : String → Option String) (rules : List OptionRule) (name : String) :
    Option String :=
  (rules.find? (·.name = name)).bind fun rule => rule.fallback.bind env

theorem standIn?_cons (env : String → Option String) (rule : OptionRule) (rules : List OptionRule)
    (name : String) :
    standIn? env (rule :: rules) name =
      if rule.name = name then rule.fallback.bind env else standIn? env rules name := by
  rw [standIn?, List.find?_cons]
  by_cases named : rule.name = name
  · simp [named]
  · simp [named, standIn?]

theorem standIn?_eq_none {name : String} (unknown : name ∉ rules.map (·.name)) :
    standIn? env rules name = none := by
  have none : rules.find? (·.name = name) = none := by
    refine List.find?_eq_none.mpr fun rule isRule named => unknown ?_
    exact List.mem_map.mpr ⟨rule, isRule, by simpa using named⟩
  rw [standIn?, none, Option.bind_none]

/-- Enter what stands in for one option. -/
def enterStandIn (env : String → Option String) (given : Given) (rule : OptionRule) :
    Except UsageFault Given :=
  match rule.fallback.bind env with
  | some value => if given.has rule.name then .ok given else given.enter rule value
  | none => .ok given

theorem enterFallbacks_cons (env : String → Option String) (rule : OptionRule)
    (rules : List OptionRule) (given : Given) :
    enterFallbacks env (rule :: rules) given =
      enterStandIn env given rule >>= enterFallbacks env rules :=
  List.foldlM_cons

/-- Nothing is entered where the environment has nothing. -/
theorem enterFallbacks_of_none (nothing : ∀ rule ∈ rules, rule.fallback.bind env = none)
    (given : Given) : enterFallbacks env rules given = .ok given := by
  induction rules with
  | nil => rfl
  | cons rule rules ih =>
      obtain ⟨first, others⟩ := List.forall_mem_cons.mp nothing
      rw [enterFallbacks_cons, enterStandIn, first]
      exact ih others

/-- What stands in for an option counts only if the option is not given. -/
theorem value?_enterStandIn {rule : OptionRule} {now : Given}
    (entered : enterStandIn env given rule = .ok now) (name : String) :
    now.value? name =
      (given.value? name).or (if rule.name = name then rule.fallback.bind env else none) := by
  unfold enterStandIn at entered
  cases found : rule.fallback.bind env with
  | none =>
      rw [found] at entered
      rw [← Except.ok.inj entered, ite_self, Option.or_none]
  | some value =>
      simp only [found] at entered
      cases present : given.value? rule.name with
      | some old =>
          have has : given.has rule.name = true := by rw [Given.has, present]; rfl
          rw [has, if_pos rfl] at entered
          rw [← Except.ok.inj entered]
          split_ifs with named
          · rw [← named, present, Option.some_or]
          · rw [Option.or_none]
      | none =>
          rw [Given.has_eq_false_iff.mpr present, if_neg Bool.false_ne_true] at entered
          rw [Given.eq_of_enter entered, Given.value?_append]
          split_ifs with named
          · rw [named, List.lookup_cons_self]
          · have other : (name == rule.name) = false := by simpa using Ne.symm named
            rw [List.lookup_cons, other]
            rfl

theorem exists_enterStandIn {rule : OptionRule}
    (filled : rule.operand = .path → given.value? rule.name = none →
      rule.fallback.bind env ≠ some "") : ∃ now, enterStandIn env given rule = .ok now := by
  unfold enterStandIn
  cases found : rule.fallback.bind env with
  | none => exact ⟨given, rfl⟩
  | some value =>
      cases present : given.has rule.name with
      | true => exact ⟨given, rfl⟩
      | false =>
          have absent := Given.has_eq_false_iff.mp present
          refine ⟨_, Given.enter_of_new value absent fun isPath empty => ?_⟩
          exact filled isPath absent (by rw [found, empty])

/-- The environment never takes the place of what is given. -/
theorem value?_enterFallbacks {now : Given} (distinct : (rules.map (·.name)).Nodup)
    (entered : enterFallbacks env rules given = .ok now) (name : String) :
    now.value? name = (given.value? name).or (standIn? env rules name) := by
  induction rules generalizing given with
  | nil => rw [← Except.ok.inj entered, standIn?_eq_none List.not_mem_nil, Option.or_none]
  | cons rule rules ih =>
      obtain ⟨fresh, distinct⟩ := List.nodup_cons.mp distinct
      rw [enterFallbacks_cons] at entered
      obtain ⟨mid, first, later⟩ := bind_eq_ok_iff.mp entered
      rw [ih distinct later, value?_enterStandIn first, standIn?_cons, Option.or_assoc]
      split_ifs with named
      · rw [← named, standIn?_eq_none fresh, Option.or_none]
      · rw [Option.none_or]

/-- Variables can be entered where those of files that count are not empty. -/
theorem exists_enterFallbacks (given : Given)
    (filled : ∀ rule ∈ rules, rule.operand = .path → given.value? rule.name = none →
      rule.fallback.bind env ≠ some "") : ∃ now, enterFallbacks env rules given = .ok now := by
  induction rules generalizing given with
  | nil => exact ⟨given, rfl⟩
  | cons rule rules ih =>
      obtain ⟨filledFirst, filled⟩ := List.forall_mem_cons.mp filled
      obtain ⟨mid, first⟩ := exists_enterStandIn filledFirst
      have stillFilled : ∀ other ∈ rules, other.operand = .path → mid.value? other.name = none →
          other.fallback.bind env ≠ some "" := by
        intro other isRule isPath missing
        rw [value?_enterStandIn first, Option.or_eq_none_iff] at missing
        exact filled other isRule isPath missing.1
      rw [enterFallbacks_cons, first]
      exact ih mid stillFilled

/-! ### Reading with an environment -/

/-- No variable stands in for an option of a command, nor of the commands below it. -/
inductive IsBare : Grammar α → Prop where
  | mk {g : Grammar α} (options : ∀ rule ∈ g.options, rule.fallback = none)
      (commands : ∀ name below, g.command? name = some below → IsBare below) : IsBare g

theorem isBare_leaf {options : List OptionRule} {count : Nat} {result : Given → α}
    (nothing : ∀ rule ∈ options, rule.fallback = none) :
    (Grammar.leaf options count result).IsBare :=
  .mk nothing fun _ _ found => nomatch found

/-- The commands that a group chooses among. -/
theorem command?_of_forall {options : List OptionRule} {commands : List (String × Grammar α)}
    {P : Grammar α → Prop} (each : ∀ entry ∈ commands, P entry.2) {name : String}
    {below : Grammar α} (found : (Grammar.group options commands).command? name = some below) :
    P below := by
  obtain ⟨before, after, split, -⟩ := List.lookup_eq_some_iff.mp found
  exact each (name, below) (split ▸ List.mem_append_right before List.mem_cons_self)

theorem isBare_group {options : List OptionRule} {commands : List (String × Grammar α)}
    (nothing : ∀ rule ∈ options, rule.fallback = none)
    (each : ∀ entry ∈ commands, entry.2.IsBare) : (Grammar.group options commands).IsBare :=
  .mk nothing fun _ _ found => command?_of_forall each found

theorem close_eq (g : Grammar α) (env : String → Option String) (now : Progress) :
    g.close env now =
      g.close (fun _ => none) now >>= enterFallbacks env g.options := by
  have nothing : ∀ given, enterFallbacks (fun _ => none) g.options given = .ok given :=
    enterFallbacks_of_none fun rule _ => Option.bind_fun_none rule.fallback
  simp only [close, nothing]
  cases now.settle <;> rfl

theorem close_of_isBare {g : Grammar α} (bare : g.IsBare) (env : String → Option String)
    (now : Progress) : g.close env now = g.close (fun _ => none) now := by
  obtain ⟨options, -⟩ := bare
  have nothing : ∀ given, enterFallbacks env g.options given = .ok given :=
    enterFallbacks_of_none fun rule isRule => by rw [options rule isRule, Option.bind_none]
  rw [close_eq]
  cases g.close (fun _ => none) now with
  | error fault => rfl
  | ok given => exact nothing given

/-- The environment makes no difference to a command without variables. -/
theorem read_of_isBare {g : Grammar α} (bare : g.IsBare) (env : String → Option String)
    (now : Progress) (args : List String) :
    g.read env now args = g.read (fun _ => none) now args := by
  induction args generalizing g now with
  | nil => simp only [read, close_of_isBare bare env]
  | cons arg rest ih =>
      simp only [read, close_of_isBare bare env]
      split_ifs
      · exact bind_congr fun now => ih bare now
      · obtain ⟨-, commands⟩ := bare
        cases found : g.command? arg with
        | none => rfl
        | some below => simp only [ih (commands arg below found) .start]

/-- Behind a group without variables below it, the environment only adds to what the arguments give
to the group. -/
theorem read_group_eq_ok_iff {options : List OptionRule} {commands : List (String × Grammar α)}
    (bare : ∀ entry ∈ commands, entry.2.IsBare) {now : Progress} {args : List String} {result : α} :
    (Grammar.group options commands).read env now args = .ok (given, result) ↔
      ∃ plain, (Grammar.group options commands).read (fun _ => none) now args =
          .ok (plain, result) ∧ enterFallbacks env options plain = .ok given := by
  induction args generalizing now with
  | nil =>
      -- a group alone stands for nothing, whatever it is given
      have missing : ∀ env closed,
          (Grammar.group options commands).read env now [] ≠ .ok (closed, result) := by
        intro env closed read
        obtain ⟨given, -, made⟩ := bind_eq_ok_iff.mp read
        obtain ⟨_, missing, -⟩ := bind_eq_ok_iff.mp made
        cases missing
      exact iff_of_false (missing env given) fun ⟨plain, read, _⟩ => missing _ plain read
  | cons arg rest ih =>
      simp only [Grammar.read]
      split_ifs
      · simp only [bind_eq_ok_iff, ih]
        constructor
        · rintro ⟨next, first, plain, later, entered⟩
          exact ⟨plain, ⟨next, first, later⟩, entered⟩
        · rintro ⟨plain, ⟨next, first, later⟩, entered⟩
          exact ⟨next, first, plain, later, entered⟩
      · cases found : (Grammar.group options commands).command? arg with
        | none => simp
        | some below =>
            simp only [read_of_isBare (command?_of_forall bare found) env, close_eq _ env,
              bind_eq_ok_iff, Except.ok.injEq, Prod.mk.injEq]
            constructor
            · rintro ⟨inner, read, closed, ⟨plain, isClosed, entered⟩, rfl, same⟩
              exact ⟨plain, ⟨inner, read, plain, isClosed, rfl, same⟩, entered⟩
            · rintro ⟨plain, ⟨inner, read, _, isClosed, rfl, same⟩, entered⟩
              exact ⟨inner, read, given, ⟨_, isClosed, entered⟩, rfl, same⟩

end Grammar

end StudyDesk
