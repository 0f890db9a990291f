/-
Module: StudyDesk.Proofs.Config.Meaning
Purpose: What a configuration asks for, field by field, independently of how it is read.
Main exports:
  Config.Says, Config.Chooses, Config.Field, Config.WellTyped, Settings.Follows,
  TutorSettings.DataDirFollows, Settings.Follows.unique
-/
import Mathlib.Data.List.Basic
import StudyDesk.Config.Settings
import StudyDesk.Proofs.Json.Members

namespace StudyDesk

open Json (Holds Lacks)

/-!
A configuration is an object of sections, each of which is an object of fields.  What it means is said
here field by field, by the text of the section's name, the text of the field's name and the default,
so that no field can depend on another and no section on the record that it is gathered in.
-/

namespace Config

variable {α : Type} {members others : List (String × Json)} {part field : String}

/-! ### Fields -/

/-- A value stands under a field of a section. -/
def Says (members : List (String × Json)) (part field : String) (v : Json) : Prop :=
  ∃ inner, Holds members part (.object inner) ∧ Holds inner field v

/-- What a field is: what is said of it, or else the default. -/
def Chooses (members : List (String × Json)) (part field : String) (means : Json → α → Prop)
    (default value : α) : Prop :=
  (∃ v, Says members part field v ∧ means v value) ∨
    ((∀ v, ¬ Says members part field v) ∧ value = default)

/-- A value that is a text. -/
def IsText (v : Json) (s : String) : Prop := v = .string s

/-- A value that is a number, rounded to 32 bits. -/
def IsReal (v : Json) (x : Floating) : Prop := ∃ n, v = .number n ∧ single n = x

/-- A value that is a natural number of so many bits. -/
def IsNatural (bits : Nat) (v : Json) (n : Nat) : Prop := v = .ofNat n ∧ n < Nat.pow 2 bits

/-- A value that is a list of texts. -/
def IsTexts (v : Json) (texts : List String) : Prop := v = .ofStrings texts

/-- The fields of the sections of the desk, and what may stand there. -/
inductive Field : String → String → (Json → Prop) → Prop where
  | baseUrl : Field "inference" "base_url" fun v => ∃ s, IsText v s
  | model : Field "inference" "model" fun v => ∃ s, IsText v s
  | apiKeyEnv : Field "inference" "api_key_env" fun v => ∃ s, IsText v s
  | temperature : Field "inference" "temperature" fun v => ∃ x, IsReal v x
  | maxOutputTokens : Field "inference" "max_output_tokens" fun v => ∃ n, IsNatural 32 v n
  | timeoutSecs : Field "inference" "timeout_secs" fun v => ∃ n, IsNatural 64 v n
  | denyList : Field "safety" "deny_list" fun v => ∃ texts, IsTexts v texts
  | version : Field "topics" "version" fun v => ∃ n, IsNatural 32 v n
  | maxAttempts : Field "retry" "max_attempts" fun v => ∃ n, IsNatural 32 v n
  | backoffMs : Field "retry" "backoff_ms" fun v => ∃ n, IsNatural 64 v n

/-- A configuration whose sections are objects and whose fields are of the right types. -/
structure WellTyped (members : List (String × Json)) : Prop where
  sections : ∀ part ∈ ["inference", "safety", "topics", "retry", "practice"], ∀ v,
    Holds members part v → ∃ inner, v = .object inner
  fields : ∀ {part field right}, Field part field right → ∀ v,
    Says members part field v → right v
  dataDir : ∀ v, Says members "practice" "data_dir" v → ∃ s, IsText v s

end Config

open Config

/-- The inference section that a configuration asks for. -/
structure InferenceSettings.Follows (members : List (String × Json)) (s : InferenceSettings) :
    Prop where
  baseUrl : Chooses members "inference" "base_url" IsText "https://api.openai.com/v1" s.baseUrl
  model : Chooses members "inference" "model" IsText "gpt-4.1-nano" s.model
  apiKeyEnv : Chooses members "inference" "api_key_env" IsText "OPENAI_API_KEY" s.apiKeyEnv
  temperature :
    Chooses members "inference" "temperature" IsReal (.ofRatio .single false 2 10) s.temperature
  maxOutputTokens :
    Chooses members "inference" "max_output_tokens" (IsNatural 32) 800 s.maxOutputTokens
  timeoutSecs : Chooses members "inference" "timeout_secs" (IsNatural 64) 30 s.timeoutSecs

/-- The settings of the desk that a configuration asks for. -/
structure Settings.Follows (members : List (String × Json)) (s : Settings) : Prop where
  inference : s.inference.Follows members
  denyList :
    Chooses members "safety" "deny_list" IsTexts ["hack", "exploit", "bypass"] s.denyList
  registryVersion : Chooses members "topics" "version" (IsNatural 32) 2 s.registryVersion
  maxAttempts : Chooses members "retry" "max_attempts" (IsNatural 32) 2 s.retry.maxAttempts
  backoffMs : Chooses members "retry" "backoff_ms" (IsNatural 64) 250 s.retry.backoffMs

/-- The data directory that a configuration asks for. -/
def TutorSettings.DataDirFollows (members : List (String × Json)) (dataDir : String) : Prop :=
  Chooses members "practice" "data_dir" IsText "./data/practice" dataDir

/-! ### What is said decides -/

namespace Config

variable {inner : List (String × Json)} {v : Json} {means : Json → α → Prop}
  {default value value' : α}

theorem says_iff (holds : Holds members part (.object inner)) :
    Says members part field v ↔ Holds inner field v := by
  constructor
  · rintro ⟨again, holds', held⟩
    obtain rfl := Json.object.inj (holds.unique holds')
    exact held
  · intro held
    exact ⟨inner, holds, held⟩

theorem not_says_of_lacks (lacks : Lacks members part) : ¬ Says members part field v := by
  rintro ⟨inner, holds, -⟩
  exact lacks.not_holds holds

theorem chooses_of_lacks (lacks : Lacks members part) :
    Chooses members part field means default default :=
  .inr ⟨fun _ => not_says_of_lacks lacks, rfl⟩

/-- Two configurations that say the same of a field choose the same. -/
theorem Chooses.unique
    (determined : ∀ v value value', means v value → means v value' → value = value')
    (same : ∀ v, Says members part field v ↔ Says others part field v)
    (one : Chooses members part field means default value)
    (two : Chooses others part field means default value') : value = value' := by
  rcases one with ⟨v, said, meant⟩ | ⟨nothing, rfl⟩
  · rcases two with ⟨w, said', meant'⟩ | ⟨nothing, -⟩
    · obtain ⟨inner, holds, held⟩ := (same v).mp said
      obtain rfl := held.unique ((says_iff holds).mp said')
      exact determined v value value' meant meant'
    · exact absurd ((same v).mp said) (nothing v)
  · rcases two with ⟨w, said, -⟩ | ⟨-, rfl⟩
    · exact absurd ((same w).mpr said) (nothing w)
    · rfl

theorem IsText.unique (v : Json) (s t : String) (one : IsText v s) (two : IsText v t) : s = t :=
  Json.string.inj (one.symm.trans two)

theorem IsReal.unique (v : Json) (x y : Floating) (one : IsReal v x) (two : IsReal v y) :
    x = y := by
  obtain ⟨n, rfl, rfl⟩ := one
  obtain ⟨m, same, rfl⟩ := two
  rw [Json.number.inj same]

theorem IsNatural.unique {bits : Nat} (v : Json) (m n : Nat) (one : IsNatural bits v m)
    (two : IsNatural bits v n) : m = n :=
  Int.ofNat.inj (Json.Number.integer.inj (Json.number.inj (one.1.symm.trans two.1)))

theorem IsTexts.unique (v : Json) (texts texts' : List String) (one : IsTexts v texts)
    (two : IsTexts v texts') : texts = texts' :=
  List.map_injective_iff.mpr (fun _ _ => Json.string.inj) (Json.array.inj (one.symm.trans two))

theorem Field.not_null {right : Json → Prop}
    (isField : Field part field right) : ¬ right .null := by
  cases isField with
  | baseUrl | model | apiKeyEnv | denyList => exact nofun
  | temperature =>
      rintro ⟨x, n, none, -⟩
      cases none
  | maxOutputTokens | timeoutSecs | version | maxAttempts | backoffMs =>
      rintro ⟨n, none, -⟩
      cases none

end Config

/-- Configurations that say the same of every field of the desk ask for the same settings. -/
theorem Settings.Follows.unique {members others : List (String × Json)} {s s' : Settings}
    (one : s.Follows members) (two : s'.Follows others)
    (same : ∀ {part field right}, Field part field right → ∀ v,
      Says members part field v ↔ Says others part field v) : s = s' := by
  obtain ⟨⟨baseUrl, model, apiKeyEnv, temperature, maxOutputTokens, timeoutSecs⟩, denyList,
    registryVersion, ⟨maxAttempts, backoffMs⟩⟩ := s
  obtain rfl := one.inference.baseUrl.unique IsText.unique (same .baseUrl) two.inference.baseUrl
  obtain rfl := one.inference.model.unique IsText.unique (same .model) two.inference.model
  obtain rfl := one.inference.apiKeyEnv.unique IsText.unique (same .apiKeyEnv)
    two.inference.apiKeyEnv
  obtain rfl := one.inference.temperature.unique IsReal.unique (same .temperature)
    two.inference.temperature
  obtain rfl := one.inference.maxOutputTokens.unique IsNatural.unique (same .maxOutputTokens)
    two.inference.maxOutputTokens
  obtain rfl := one.inference.timeoutSecs.unique IsNatural.unique (same .timeoutSecs)
    two.inference.timeoutSecs
  obtain rfl := one.denyList.unique IsTexts.unique (same .denyList) two.denyList
  obtain rfl := one.registryVersion.unique IsNatural.unique (same .version) two.registryVersion
  obtain rfl := one.maxAttempts.unique IsNatural.unique (same .maxAttempts) two.maxAttempts
  obtain rfl := one.backoffMs.unique IsNatural.unique (same .backoffMs) two.backoffMs
  rfl

end StudyDesk
