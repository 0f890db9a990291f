/-
Module: StudyDesk.Proofs.Config.Overlay
Purpose: Where the settings of the program come from: a flag, a variable, the file, or the defaults.
Main exports:
  Invocation.exists_ofArguments, Entry.Configures, TutorSettings.load_of_configures,
  TutorSettings.Overlays, TutorSettings.LoadLaw, TutorSettings.loadLaw
-/
import StudyDesk.Config.Loading
import StudyDesk.Proofs.Arguments.Precedence
import StudyDesk.Proofs.Config.Checking

namespace StudyDesk

/-! ### Flags and variables -/

namespace Invocation

variable {env : String → Option String} {args : List String} {flags : Invocation}

/-- The variables that name files are not empty. -/
structure FilesNamed (env : String → Option String) : Prop where
  config : env "CODETUTOR_CONFIG" ≠ some ""
  dataDir : env "CODETUTOR_DATA_DIR" ≠ some ""

/-- Whatever the arguments say without an environment, they say with it; a variable counts where its
option is not given. -/
theorem exists_ofArguments (named : FilesNamed env)
    (given : ofArguments (fun _ => none) args = .ok flags) :
    ∃ configFile,
      (configFile = flags.configFile ∨ env "CODETUTOR_CONFIG" = some configFile) ∧
      ofArguments env args = .ok
        { flags with
          configFile := configFile
          baseUrl := flags.baseUrl.or (env "CODETUTOR_BASE_URL")
          model := flags.model.or (env "CODETUTOR_MODEL")
          dataDir := flags.dataDir.or (env "CODETUTOR_DATA_DIR") } := by
  obtain ⟨⟨plain, command⟩, read, rfl⟩ := map_eq_ok_iff.mp given
  obtain ⟨now, readNow, values⟩ :=
    exists_read read (filled_of_named (fun _ => named.config) fun _ => named.dataDir)
  obtain ⟨config, baseUrl, model, dataDir, verbose⟩ := standIns env
  refine ⟨(now.value? "config").getD defaultConfigFile, ?_, ?_⟩
  · rw [values, config]
    cases flag : plain.value? "config" with
    | some file => exact .inl (by simp [ofGiven, flag])
    | none =>
        cases env "CODETUTOR_CONFIG" with
        | some file => exact .inr rfl
        | none => exact .inl (by simp [ofGiven, flag])
  · rw [ofArguments, readNow]
    simp only [Except.map, ofGiven, Given.has, values, config, baseUrl, model, dataDir, verbose,
      Option.or_none]

end Invocation

/-! ### The file -/

/-- The settings that a configuration file stands for: the defaults if there is none, else those that
its document spells. -/
inductive Entry.Configures : Entry → TutorSettings → Prop where
  | missing : Entry.missing.Configures .standard
  | document {entry : Entry} {text : String} {file : TutorSettings} (has : entry.text = .ok text)
      (spells : TutorSettings.ofDocument? text.toList = some file) : entry.Configures file

namespace TutorSettings

variable {entry : Entry} {file s : TutorSettings} {invocation : Invocation}

/-- The settings to begin with. -/
def base (entry : Entry) : Except ConfigFault TutorSettings :=
  match entry with
  | .missing => .ok .standard
  | entry => entry.document ofDocument?

theorem base_eq_ok_iff : base entry = .ok file ↔ entry.Configures file := by
  constructor
  · intro found
    cases entry with
    | missing =>
        obtain rfl := Except.ok.inj found
        exact .missing
    | directory => cases found
    | file bytes =>
        rw [base, Entry.document] at found
        · cases has : (Entry.file bytes).text with
          | error fault =>
              rw [has] at found
              cases found
          | ok text =>
              cases spells : ofDocument? text.toList with
              | none => simp [has, spells] at found
              | some settings =>
                  simp only [has, spells, Except.ok.injEq] at found
                  exact .document has (found ▸ spells)
        · exact nofun
  · intro configures
    cases configures with
    | missing => rfl
    | document has spells =>
        cases entry with
        | missing | directory => cases has
        | file bytes =>
            rw [base, Entry.document]
            · simp only [has, spells]
            · exact nofun

/-- Loading is overriding what there is to begin with, and checking it.  What is overridden is not
looked at by the check. -/
theorem load_eq (invocation : Invocation) (entry : Entry) :
    load invocation entry =
      base entry >>= fun file => file.desk.check.map fun _ => invocation.override file := by
  have opened : load invocation entry =
      base entry >>= fun file => file.desk.check >>= fun _ => .ok (invocation.override file) := by
    cases entry <;> rfl
  rw [opened]
  refine bind_congr fun file => ?_
  cases file.desk.check <;> rfl

theorem load_of_configures (configures : entry.Configures file) (invocation : Invocation) :
    load invocation entry = file.desk.check.map fun _ => invocation.override file := by
  rw [load_eq, base_eq_ok_iff.mpr configures]
  rfl

/-- Settings are loaded when those of the file pass the check. -/
theorem load_eq_ok_iff :
    load invocation entry = .ok s ↔
      ∃ file, entry.Configures file ∧ file.desk.check = .ok () ∧ s = invocation.override file := by
  rw [load_eq, bind_eq_ok_iff]
  simp only [base_eq_ok_iff, map_eq_ok_iff]
  constructor
  · rintro ⟨file, configures, ⟨⟩, checked, rfl⟩
    exact ⟨file, configures, checked, rfl⟩
  · rintro ⟨file, configures, checked, rfl⟩
    exact ⟨file, configures, (), checked, rfl⟩

/-! ### The law -/

/-- Settings that have three values from the flags, else from the variables, else from the file, and
everything else from the file. -/
structure Overlays (env : String → Option String) (flags : Invocation) (file s : TutorSettings) :
    Prop where
  baseUrl : s.desk.inference.baseUrl =
    (flags.baseUrl.or (env "CODETUTOR_BASE_URL")).getD file.desk.inference.baseUrl
  model : s.desk.inference.model =
    (flags.model.or (env "CODETUTOR_MODEL")).getD file.desk.inference.model
  dataDir : s.dataDir = (flags.dataDir.or (env "CODETUTOR_DATA_DIR")).getD file.dataDir
  others : s =
    { desk :=
        { file.desk with
          inference :=
            { file.desk.inference with
              baseUrl := s.desk.inference.baseUrl
              model := s.desk.inference.model } }
      dataDir := s.dataDir }

/-- Settings with which the program can ask: they pass the check, so that there is an attempt to make,
time and room for an answer, and a registry. -/
structure Usable (s : TutorSettings) : Prop where
  checked : s.desk.check = .ok ()
  attempts : 1 ≤ s.desk.retry.maxAttempts
  timeout : 0 < s.desk.inference.timeoutSecs
  tokens : 0 < s.desk.inference.maxOutputTokens
  registry : ∃ registry, Registry.forVersion? s.desk.registryVersion = some registry

theorem usable_of_check (checked : s.desk.check = .ok ()) : s.Usable := by
  obtain ⟨-, tokens, timeout, attempts, registry⟩ := Settings.check_eq_ok_iff.mp checked
  exact ⟨checked, attempts, timeout, tokens, registry⟩

/-- What holds of loading in an environment, where a configuration file stands for given settings. -/
structure LoadLaw (env : String → Option String) (entry : Entry) (file : TutorSettings) : Prop where
  /-- Every choice of flags has arguments that say it, whatever the environment. -/
  spelled : ∀ flags : Invocation, flags.Named →
    Invocation.ofArguments (fun _ => none) flags.arguments = .ok flags
  /-- With arguments that say something without an environment, loading succeeds in this one if the
  file passes the check, and fails as the check does if not; -/
  loads : ∀ args flags, Invocation.ofArguments (fun _ => none) args = .ok flags →
    ∃ invocation, Invocation.ofArguments env args = .ok invocation ∧
      ((∃ s, load invocation entry = .ok s) ↔ file.desk.check = .ok ()) ∧
      (∀ fault, file.desk.check = .error fault → load invocation entry = .error fault) ∧
      ∀ s, load invocation entry = .ok s → Overlays env flags file s
  /-- what is loaded, whatever the arguments and the file, can be used. -/
  usable : ∀ (invocation : Invocation) (entry : Entry) (s : TutorSettings),
    load invocation entry = .ok s → s.Usable

/-- The law of loading holds of every environment in which the names of files are not empty. -/
theorem loadLaw {env : String → Option String} (named : Invocation.FilesNamed env)
    (configures : entry.Configures file) : LoadLaw env entry file where
  spelled := fun _ => Invocation.ofArguments_arguments
  loads := by
    intro args flags given
    obtain ⟨configFile, -, withEnv⟩ := Invocation.exists_ofArguments named given
    refine ⟨_, withEnv, ?_, ?_, ?_⟩
    · rw [load_of_configures configures]
      simp only [map_eq_ok_iff]
      exact ⟨fun ⟨_, ⟨⟩, checked, _⟩ => checked, fun checked => ⟨_, (), checked, rfl⟩⟩
    · intro fault failed
      rw [load_of_configures configures, failed]
      rfl
    · intro s loaded
      rw [load_of_configures configures] at loaded
      obtain ⟨-, -, rfl⟩ := map_eq_ok_iff.mp loaded
      exact ⟨rfl, rfl, rfl, rfl⟩
  usable := by
    intro invocation entry s loaded
    obtain ⟨file, -, checked, rfl⟩ := load_eq_ok_iff.mp loaded
    exact usable_of_check checked

/-- An environment that names a model and a data directory. -/
def labelled : String → Option String
  | "CODETUTOR_MODEL" => some "from-variable"
  | "CODETUTOR_DATA_DIR" => some "/variable"
  | _ => none

/-- A file that says something of its own, some of it overridden. -/
def threeAttempts : Entry :=
  .file (Text.encode "retry:\n  max_attempts: 3\ninference:\n  model: from-file\n".toList)

/-- The settings of that file. -/
def ofThreeAttempts : TutorSettings :=
  { TutorSettings.standard with
    desk :=
      { Settings.standard with
        inference := { InferenceSettings.standard with model := "from-file" }
        retry := ⟨3, 250⟩ } }

theorem loadLaw_threeAttempts :
    Invocation.FilesNamed labelled ∧ threeAttempts.Configures ofThreeAttempts ∧
      LoadLaw labelled threeAttempts ofThreeAttempts := by
  have named : Invocation.FilesNamed labelled := ⟨by decide, by decide⟩
  have configures : threeAttempts.Configures ofThreeAttempts := by
    have has : threeAttempts.text =
        .ok "retry:\n  max_attempts: 3\ninference:\n  model: from-file\n" := by decide +kernel
    refine .document has ?_
    decide +kernel
  exact ⟨named, configures, loadLaw named configures⟩

end TutorSettings

end StudyDesk
