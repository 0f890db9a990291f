/-
Module: StudyDesk.Proofs.Config.Writing
Purpose: Settings that are written are read as themselves, in one step or in two.
Main exports:
  Floating.ReadsBack, Settings.Fits, Settings.ofText_write, TutorSettings.ofText_write,
  TutorSettings.WritingLaw, Settings.decodingLaw
-/
import StudyDesk.Proofs.Config.Decoding
import StudyDesk.Proofs.Json.Reals

namespace StudyDesk

open Config
open Json (Holds)

/-- A number whose written form in 32 bits is read as that number. -/
def Floating.ReadsBack (x : Floating) : Prop :=
  ∃ found, (Json.Number.single x).ReadsAs found ∧ single found = x

/-- Settings whose numbers have as many bits as their fields. -/
structure Settings.Fits (s : Settings) : Prop where
  maxOutputTokens : s.inference.maxOutputTokens < Nat.pow 2 32
  timeoutSecs : s.inference.timeoutSecs < Nat.pow 2 64
  registryVersion : s.registryVersion < Nat.pow 2 32
  maxAttempts : s.retry.maxAttempts < Nat.pow 2 32
  backoffMs : s.retry.backoffMs < Nat.pow 2 64

section Writing

open Json (ReadsAsAt ReadsBackAt MemberReadsAsAt)

variable {surplus : Surplus} {spacing : Json.Spacing} {depth : Nat} {cs : List Char}

/-- The written inference section, with the temperature as it is read. -/
def InferenceSettings.asRead (temperature : Json.Number) (s : InferenceSettings) :
    List (String × Json) :=
  [("base_url", .string s.baseUrl),
    ("model", .string s.model),
    ("api_key_env", .string s.apiKeyEnv),
    ("temperature", .number temperature),
    ("max_output_tokens", .ofNat s.maxOutputTokens),
    ("timeout_secs", .ofNat s.timeoutSecs)]

/-- The written retry section. -/
def RetrySettings.members (s : RetrySettings) : List (String × Json) :=
  [("max_attempts", .ofNat s.maxAttempts), ("backoff_ms", .ofNat s.backoffMs)]

/-- The written sections of the desk, with the temperature as it is read. -/
def Settings.asRead (temperature : Json.Number) (s : Settings) : List (String × Json) :=
  [("inference", .object (s.inference.asRead temperature)),
    ("safety", .object [("deny_list", .ofStrings s.denyList)]),
    ("topics", .object [("version", .ofNat s.registryVersion)]),
    ("retry", .object s.retry.members)]

/-- The written practice section. -/
def TutorSettings.practiceMember (dataDir : String) : String × Json :=
  ("practice", .object [("data_dir", .string dataDir)])

/-! ### The text is read -/

theorem Settings.reads_members (spaced : spacing.IsBlank) {s : Settings} (fits : s.Fits)
    {temperature : Json.Number}
    (reads : (Json.Number.single s.inference.temperature).ReadsAs temperature) :
    List.Forall₂ (MemberReadsAsAt spacing (depth + 2)) s.members (s.asRead temperature) := by
  have small {n : Nat} (fits : n < Nat.pow 2 32) : n < Nat.pow 2 64 :=
    Nat.lt_trans fits (by decide)
  have text (s : String) : ReadsBackAt spacing (depth + 1) (.string s) :=
    Json.readsBackAt_string spacing (depth + 1) s
  have number {n : Nat} (fits : n < Nat.pow 2 64) : ReadsBackAt spacing (depth + 1) (.ofNat n) :=
    Json.readsBackAt_ofNat spacing (depth + 1) fits
  have inference : ReadsAsAt spacing (depth + 2) s.inference.toJson
      (.object (s.inference.asRead temperature)) :=
    Json.readsAsAt_object spaced
      (.cons ⟨rfl, text _⟩ (.cons ⟨rfl, text _⟩ (.cons ⟨rfl, text _⟩
        (.cons ⟨rfl, reads.readsAsAt⟩ (.cons ⟨rfl, number (small fits.maxOutputTokens)⟩
          (.cons ⟨rfl, number fits.timeoutSecs⟩ .nil))))))
  have safety : ReadsBackAt spacing (depth + 2)
      (.object [("deny_list", .ofStrings s.denyList)]) :=
    Json.readsAsAt_object spaced
      (.cons ⟨rfl, Json.readsBackAt_ofStrings spaced depth s.denyList⟩ .nil)
  have topics : ReadsBackAt spacing (depth + 2)
      (.object [("version", .ofNat s.registryVersion)]) :=
    Json.readsAsAt_object spaced (.cons ⟨rfl, number (small fits.registryVersion)⟩ .nil)
  have retry : ReadsBackAt spacing (depth + 2) (.object s.retry.members) :=
    Json.readsAsAt_object spaced
      (.cons ⟨rfl, number (small fits.maxAttempts)⟩ (.cons ⟨rfl, number fits.backoffMs⟩ .nil))
  exact .cons ⟨rfl, inference⟩ (.cons ⟨rfl, safety⟩ (.cons ⟨rfl, topics⟩ (.cons ⟨rfl, retry⟩ .nil)))

theorem TutorSettings.reads_practiceMember (spaced : spacing.IsBlank) (dataDir : String) :
    MemberReadsAsAt spacing (depth + 2) (practiceMember dataDir) (practiceMember dataDir) := by
  refine ⟨rfl, Json.readsAsAt_object spaced (.cons ⟨rfl, ?_⟩ .nil)⟩
  exact Json.readsBackAt_string spacing (depth + 1) dataDir

/-! ### What is read is what was written -/

theorem Settings.exists_given_asRead (surplus : Surplus) {s : Settings} (fits : s.Fits)
    {temperature : Json.Number} (same : single temperature = s.inference.temperature) :
    ∃ parts, Settings.fields.Given surplus (s.asRead temperature) parts ∧
      Settings.ofParts parts = s := by
  obtain ⟨⟨baseUrl, model, apiKeyEnv, _, maxOutputTokens, timeoutSecs⟩, denyList, version,
    ⟨maxAttempts, backoffMs⟩⟩ := s
  obtain rfl := same
  refine ⟨(some (some baseUrl, some model, some apiKeyEnv, some (single temperature),
    some maxOutputTokens, some timeoutSecs, ()), some (some denyList, ()), some (some version, ()),
    some (some maxAttempts, some backoffMs, ()), ()), ⟨?_, ?_, ?_, ?_, trivial⟩, rfl⟩
  · exact fieldGiven_member rfl (ofJson_of_names (by decide) rfl
      ⟨fieldGiven_member rfl rfl, fieldGiven_member rfl rfl, fieldGiven_member rfl rfl,
        fieldGiven_member rfl rfl, fieldGiven_member rfl (ofJson_ofNat fits.maxOutputTokens),
        fieldGiven_member rfl (ofJson_ofNat fits.timeoutSecs), trivial⟩)
  · exact fieldGiven_member rfl (ofJson_of_names (by decide) rfl
      ⟨fieldGiven_member rfl (ofJson_ofStrings denyList), trivial⟩)
  · exact fieldGiven_member rfl (ofJson_of_names (by decide) rfl
      ⟨fieldGiven_member rfl (ofJson_ofNat fits.registryVersion), trivial⟩)
  · exact fieldGiven_member rfl (ofJson_of_names (by decide) rfl
      ⟨fieldGiven_member rfl (ofJson_ofNat fits.maxAttempts),
        fieldGiven_member rfl (ofJson_ofNat fits.backoffMs), trivial⟩)

theorem Settings.ofText_write (spaced : spacing.IsBlank) {s : Settings} (fits : s.Fits)
    (readsBack : s.inference.temperature.ReadsBack) :
    Settings.ofText (Json.write spacing 0 s.toJson) = .ok s := by
  obtain ⟨temperature, reads, same⟩ := readsBack
  have written : ReadsAsAt spacing Json.depthLimit s.toJson (.object (s.asRead temperature)) :=
    Json.readsAsAt_object spaced (Settings.reads_members spaced fits reads)
  obtain ⟨parts, given, isSettings⟩ := Settings.exists_given_asRead .whole fits same
  have record : Settings.shape.ofJson .whole (.object (s.asRead temperature)) = .ok parts :=
    ofJson_of_names (by decide) rfl given
  exact map_eq_ok_iff.mpr
    ⟨parts, Shape.readAll_of_parse (Json.parse_write_as written) record, isSettings⟩

/-- A program configuration is read in two steps from a text of an object. -/
theorem TutorSettings.ofText_of_parse {members : List (String × Json)} {desk : Settings}
    {practice : TutorSettings.fields.Value} (parsed : Json.parse cs = .ok (.object members))
    (read : TutorSettings.shape.ofJson .whole (.object members) =
      .ok (practice, keptMembers members))
    (kept : Settings.ofMembers (keptMembers members) = .ok desk) :
    TutorSettings.ofText cs = .ok ⟨desk, practiceOf practice⟩ := by
  obtain ⟨rest, value, ended⟩ := Json.parse_eq_ok_iff.mp parsed
  refine bind_eq_ok_iff.mpr ⟨_, TutorSettings.shape.agrees .whole value read, ?_⟩
  simp only [kept, ended, bind, Except.bind]

theorem TutorSettings.ofText_write (spaced : spacing.IsBlank) {s : TutorSettings}
    (fits : s.desk.Fits) (readsBack : s.desk.inference.temperature.ReadsBack) :
    TutorSettings.ofText (Json.write spacing 0 s.toJson) = .ok s := by
  obtain ⟨temperature, reads, same⟩ := readsBack
  have written : ReadsAsAt spacing Json.depthLimit s.toJson
      (.object (s.desk.asRead temperature ++ [practiceMember s.dataDir])) :=
    Json.readsAsAt_object spaced (List.rel_append (Settings.reads_members spaced fits reads)
      (.cons (TutorSettings.reads_practiceMember spaced s.dataDir) .nil))
  have kept : keptMembers (s.desk.asRead temperature ++ [practiceMember s.dataDir]) =
      s.desk.asRead temperature := rfl
  obtain ⟨parts, given, isSettings⟩ := Settings.exists_given_asRead .counted fits same
  have desk : Settings.ofMembers (s.desk.asRead temperature) = .ok s.desk := by
    have distinct : Settings.fields.names.Nodup := by decide
    have named : (s.desk.asRead temperature).map Prod.fst = Settings.fields.names := rfl
    rw [← named] at distinct
    refine Settings.ofMembers_eq_ok_iff.mpr ⟨parts, ⟨fun name _ => ?_, given⟩, isSettings⟩
    exact Json.unrepeated_of_nodup distinct name
  have practice : TutorSettings.shape.ofJson .whole
      (.object (s.desk.asRead temperature ++ [practiceMember s.dataDir])) =
        .ok ((some (some s.dataDir, ()), ()), s.desk.asRead temperature) := by
    have distinct : (Settings.fields.names ++ ["practice"]).Nodup := by decide
    have named : (s.desk.asRead temperature ++ [practiceMember s.dataDir]).map Prod.fst =
        Settings.fields.names ++ ["practice"] := rfl
    rw [← named] at distinct
    refine (Shape.ofJson_openRecord_iff (by decide)).mpr
      ⟨⟨fun name _ => Json.unrepeated_of_nodup distinct name, ?_, trivial⟩, kept.symm⟩
    exact fieldGiven_member rfl
      (ofJson_of_names (by decide) rfl ⟨fieldGiven_member rfl rfl, trivial⟩)
  rw [← kept] at practice desk
  exact TutorSettings.ofText_of_parse (Json.parse_write_as written) practice desk

end Writing

/-! ### The law -/

/-- What holds of settings that are written. -/
structure TutorSettings.WritingLaw (s : TutorSettings) : Prop where
  desk : Settings.ofText s.desk.toJson.compact.toList = .ok s.desk ∧
    Settings.ofText s.desk.toJson.pretty.toList = .ok s.desk
  program : TutorSettings.ofText s.toJson.compact.toList = .ok s ∧
    TutorSettings.ofText s.toJson.pretty.toList = .ok s

theorem TutorSettings.obeys_writingLaw {s : TutorSettings} (fits : s.desk.Fits)
    (readsBack : s.desk.inference.temperature.ReadsBack) : WritingLaw s := by
  constructor
  · rw [Json.compact, Json.pretty, String.toList_ofList, String.toList_ofList]
    exact ⟨Settings.ofText_write Json.Spacing.tight_isBlank fits readsBack,
      Settings.ofText_write Json.Spacing.indented_isBlank fits readsBack⟩
  · rw [Json.compact, Json.pretty, String.toList_ofList, String.toList_ofList]
    exact ⟨ofText_write Json.Spacing.tight_isBlank fits readsBack,
      ofText_write Json.Spacing.indented_isBlank fits readsBack⟩

/-- A configuration is decoded field by field, and what is written is read again. -/
theorem Settings.decodingLaw :
    (∀ members, DecodingLaw members) ∧
      ∀ s : TutorSettings, s.desk.Fits → s.desk.inference.temperature.ReadsBack → s.WritingLaw :=
  ⟨obeys_decodingLaw, fun _ => TutorSettings.obeys_writingLaw⟩

/-- A configuration that says something of one field, among members that mean nothing. -/
def Config.lenient : List (String × Json) :=
  [("x", .null), ("retry", .object [("y", .bool true), ("max_attempts", .ofNat 3)])]

theorem Config.holds_lenient {part : String} {v : Json} (holds : Holds lenient part v) :
    (part = "x" ∧ v = .null) ∨
      (part = "retry" ∧ v = .object [("y", .bool true), ("max_attempts", .ofNat 3)]) := by
  simpa [lenient] using holds.mem

theorem Config.says_lenient {part field : String} {v : Json} (said : Says lenient part field v) :
    part = "retry" ∧ ((field = "y" ∧ v = .bool true) ∨ (field = "max_attempts" ∧ v = .ofNat 3)) := by
  obtain ⟨inner, holds, held⟩ := said
  rcases holds_lenient holds with ⟨-, none⟩ | ⟨named, same⟩
  · cases none
  · obtain rfl := Json.object.inj same
    exact ⟨named, by simpa using held.mem⟩

theorem Config.wellTyped_lenient : WellTyped lenient where
  sections := by
    intro part isPart v holds
    rcases holds_lenient holds with ⟨rfl, -⟩ | ⟨-, rfl⟩
    · exact absurd isPart (by decide)
    · exact ⟨_, rfl⟩
  fields := by
    intro part field right isField v said
    obtain ⟨named, ⟨other, -⟩ | ⟨attempts, rfl⟩⟩ := says_lenient said
    · cases isField with
      | _ => exact absurd other (by decide)
    · cases isField with
      | maxAttempts => exact ⟨3, rfl, by decide⟩
      | backoffMs => exact absurd attempts (by decide)
      | _ => exact absurd named (by decide)
  dataDir := by
    intro v said
    exact absurd (says_lenient said).1 (by decide)

theorem Floating.readsBack_defaultTemperature : defaultTemperature.ReadsBack := by
  -- that it is read as some number is known of all; which one it is can be computed
  have shown : defaultTemperature = .finite false 13421773 (-26) := by decide +kernel
  obtain ⟨found, reads⟩ := Json.exists_readsAs false (show 13421773 < 2 ^ 24 by decide)
    (show (-26 : Int) ≤ 104 by decide)
  rw [← shown] at reads
  refine ⟨found, reads, ?_⟩
  have read := reads 0 [] (by simp [Json.EndsNumber])
  have same : (Json.readValue 0 (Json.numberText (.single defaultTemperature) ++ [])).toOption.map
      (fun r => Except.toOption (ε := Json.Fault) (α := Floating)
        (Shape.real.ofJson .whole r.1)) = some (some defaultTemperature) := by decide +kernel
  rw [read] at same
  exact Option.some.inj (Option.some.inj same)

theorem Settings.decodingLaw_lenient :
    WellTyped lenient ∧ TutorSettings.standard.desk.Fits ∧ defaultTemperature.ReadsBack ∧
      DecodingLaw lenient ∧ TutorSettings.standard.WritingLaw ∧
      (Settings.ofJson (.object lenient)).toOption =
        some { Settings.standard with retry := ⟨3, 250⟩ } := by
  have fits : TutorSettings.standard.desk.Fits :=
    ⟨by decide, by decide, by decide, by decide, by decide⟩
  refine ⟨wellTyped_lenient, fits, Floating.readsBack_defaultTemperature,
    decodingLaw.1 lenient, decodingLaw.2 _ fits Floating.readsBack_defaultTemperature, ?_⟩
  decide +kernel

end StudyDesk
