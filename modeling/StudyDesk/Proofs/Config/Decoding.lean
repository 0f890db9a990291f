/-
Module: StudyDesk.Proofs.Config.Decoding
Purpose: A configuration has in each field what it says there, or the default, whether it is read as
  settings of the desk or of the program.
Main exports:
  Config.WellTyped.exists_parts, Settings.follows_of_given, Settings.ofJson_object_iff,
  TutorSettings.ofJson_object_iff, Config.right_of_given, Settings.DecodingLaw,
  Settings.obeys_decodingLaw
-/
import StudyDesk.Proofs.Config.Meaning
import StudyDesk.Proofs.Record.Canonical

namespace StudyDesk

open Config
open Json (Holds Lacks canonicalMembers)

/-! ### Sections -/

namespace Config

variable {members : List (String × Json)} {part field : String}
variable {surplus : Surplus} {shape : Shape} {inner : List (String × Json)} {v : Json}
  {right : Json → Prop}

theorem exists_text (right : ∃ s, IsText v s) :
    ∃ data, Shape.text.ofJson surplus v.canonical = .ok data := by
  obtain ⟨s, isText⟩ := right
  exact ⟨s, ofJson_text_iff.mpr isText⟩

theorem exists_path (right : ∃ s, IsText v s) :
    ∃ data, Shape.path.ofJson surplus v.canonical = .ok data := by
  obtain ⟨s, isText⟩ := right
  exact ⟨s, ofJson_path_iff.mpr isText⟩

theorem exists_real (right : ∃ x, IsReal v x) :
    ∃ data, Shape.real.ofJson surplus v.canonical = .ok data := by
  obtain ⟨x, isReal⟩ := right
  exact ⟨x, ofJson_real_iff.mpr isReal⟩

theorem exists_natural {bits : Nat} (right : ∃ n, IsNatural bits v n) :
    ∃ data, (Shape.natural bits).ofJson surplus v.canonical = .ok data := by
  obtain ⟨n, isNatural⟩ := right
  exact ⟨n, ofJson_natural_iff.mpr isNatural⟩

theorem exists_texts (right : ∃ texts, IsTexts v texts) :
    ∃ data, (Shape.list .text).ofJson surplus v.canonical = .ok data := by
  obtain ⟨texts, isTexts⟩ := right
  exact ⟨texts, ofJson_texts_iff.mpr isTexts⟩

/-- A field that may be absent is read, unless something stands there that is not. -/
theorem exists_fieldGiven (shape : Shape)
    (reads : ∀ v, Holds inner field v → ∃ data, shape.ofJson surplus v.canonical = .ok data) :
    ∃ given : Option shape.Value,
      FieldGiven surplus (canonicalMembers inner) field .defaulted shape given := by
  rcases Json.holds_or_lacks inner field with ⟨v, holds⟩ | lacks
  · obtain ⟨data, read⟩ := reads v holds
    exact ⟨some data, fieldGiven_defaulted_iff.mpr (.inl ⟨v, data, rfl, holds, read⟩)⟩
  · exact ⟨none, fieldGiven_defaulted_iff.mpr (.inr ⟨rfl, lacks⟩)⟩

theorem exists_sectionGiven (surplus : Surplus) (title : String) (fields : Fields)
    (distinct : fields.names.Nodup)
    (isObject : ∀ v, Holds members part v → ∃ inner, v = .object inner)
    (reads : ∀ inner, Holds members part (.object inner) →
      ∃ data, fields.Given surplus (canonicalMembers inner) data) :
    ∃ given : Option fields.Value,
      FieldGiven surplus (canonicalMembers members) part .defaulted (.record title fields) given := by
  refine exists_fieldGiven (.record title fields) fun v holds => ?_
  obtain ⟨inner, rfl⟩ := isObject v holds
  obtain ⟨data, given⟩ := reads inner holds
  exact ⟨data, (Shape.ofJson_record_canonical_iff distinct).mpr given⟩

namespace WellTyped

variable (typed : WellTyped members)

include typed

theorem exists_leafGiven (holds : Holds members part (.object inner))
    (isField : Field part field right)
    (reads : ∀ {v}, right v → ∃ data, shape.ofJson surplus v.canonical = .ok data) :
    ∃ given : Option shape.Value,
      FieldGiven surplus (canonicalMembers inner) field .defaulted shape given :=
  exists_fieldGiven shape fun v held => reads (typed.fields isField v ⟨inner, holds, held⟩)

theorem exists_inference (holds : Holds members "inference" (.object inner)) :
    ∃ data, InferenceSettings.fields.Given surplus (canonicalMembers inner) data := by
  obtain ⟨baseUrl, hasBaseUrl⟩ := typed.exists_leafGiven holds .baseUrl exists_text
  obtain ⟨model, hasModel⟩ := typed.exists_leafGiven holds .model exists_text
  obtain ⟨apiKeyEnv, hasApiKeyEnv⟩ := typed.exists_leafGiven holds .apiKeyEnv exists_text
  obtain ⟨temperature, hasTemperature⟩ := typed.exists_leafGiven holds .temperature exists_real
  obtain ⟨maxOutputTokens, hasMaxOutputTokens⟩ :=
    typed.exists_leafGiven holds .maxOutputTokens exists_natural
  obtain ⟨timeoutSecs, hasTimeoutSecs⟩ := typed.exists_leafGiven holds .timeoutSecs exists_natural
  exact ⟨(baseUrl, model, apiKeyEnv, temperature, maxOutputTokens, timeoutSecs, ()),
    hasBaseUrl, hasModel, hasApiKeyEnv, hasTemperature, hasMaxOutputTokens, hasTimeoutSecs, trivial⟩

theorem exists_retry (holds : Holds members "retry" (.object inner)) :
    ∃ data, RetrySettings.fields.Given surplus (canonicalMembers inner) data := by
  obtain ⟨maxAttempts, hasMaxAttempts⟩ := typed.exists_leafGiven holds .maxAttempts exists_natural
  obtain ⟨backoffMs, hasBackoffMs⟩ := typed.exists_leafGiven holds .backoffMs exists_natural
  exact ⟨(maxAttempts, backoffMs, ()), hasMaxAttempts, hasBackoffMs, trivial⟩

theorem exists_safety (holds : Holds members "safety" (.object inner)) :
    ∃ data, safetyFields.Given surplus (canonicalMembers inner) data := by
  obtain ⟨denyList, hasDenyList⟩ := typed.exists_leafGiven holds .denyList exists_texts
  exact ⟨(denyList, ()), hasDenyList, trivial⟩

theorem exists_topics (holds : Holds members "topics" (.object inner)) :
    ∃ data, topicsFields.Given surplus (canonicalMembers inner) data := by
  obtain ⟨version, hasVersion⟩ := typed.exists_leafGiven holds .version exists_natural
  exact ⟨(version, ()), hasVersion, trivial⟩

theorem exists_dataDir (holds : Holds members "practice" (.object inner)) :
    ∃ data, practiceFields.Given surplus (canonicalMembers inner) data := by
  obtain ⟨dataDir, hasDataDir⟩ := exists_fieldGiven .path fun v held =>
    exists_path (typed.dataDir v ⟨inner, holds, held⟩)
  exact ⟨(dataDir, ()), hasDataDir, trivial⟩

/-- Sections of the right types are read. -/
theorem exists_parts (surplus : Surplus) :
    ∃ parts, Settings.fields.Given surplus (canonicalMembers members) parts := by
  obtain ⟨inference, hasInference⟩ :=
    exists_sectionGiven surplus "InferenceConfig" InferenceSettings.fields (by decide)
      (typed.sections "inference" (by decide)) fun _ => typed.exists_inference
  obtain ⟨safety, hasSafety⟩ :=
    exists_sectionGiven surplus "SafetyConfig" safetyFields (by decide)
      (typed.sections "safety" (by decide)) fun _ => typed.exists_safety
  obtain ⟨topics, hasTopics⟩ :=
    exists_sectionGiven surplus "TopicsConfig" topicsFields (by decide)
      (typed.sections "topics" (by decide)) fun _ => typed.exists_topics
  obtain ⟨retry, hasRetry⟩ :=
    exists_sectionGiven surplus "RetryConfig" RetrySettings.fields (by decide)
      (typed.sections "retry" (by decide)) fun _ => typed.exists_retry
  exact ⟨(inference, safety, topics, retry, ()), hasInference, hasSafety, hasTopics, hasRetry,
    trivial⟩

theorem exists_practice (surplus : Surplus) :
    ∃ parts, TutorSettings.fields.Given surplus (canonicalMembers members) parts := by
  obtain ⟨practice, hasPractice⟩ :=
    exists_sectionGiven surplus "PracticeConfig" practiceFields (by decide)
      (typed.sections "practice" (by decide)) fun _ => typed.exists_dataDir
  exact ⟨(practice, ()), hasPractice, trivial⟩

end WellTyped

end Config

/-! ### What is read follows what is said -/

section Follows

variable {surplus : Surplus} {members : List (String × Json)}

theorem Config.chooses_of_given {part field : String} {shape : Shape}
    {inner : List (String × Json)} {means : Json → shape.Value → Prop} {default : shape.Value}
    {given : Option shape.Value} (holds : Holds members part (.object inner))
    (reads : ∀ {v data}, shape.ofJson surplus v.canonical = .ok data → means v data)
    (found : FieldGiven surplus (canonicalMembers inner) field .defaulted shape given) :
    Chooses members part field means default (given.getD default) := by
  rcases fieldGiven_defaulted_iff.mp found with ⟨v, data, rfl, held, read⟩ | ⟨rfl, lacks⟩
  · exact .inl ⟨v, (says_iff holds).mpr held, reads read⟩
  · exact .inr ⟨fun v said => lacks.not_holds ((says_iff holds).mp said), rfl⟩

theorem InferenceSettings.follows_of_given {given : Option InferenceSettings.fields.Value}
    (isObject : ∀ v, Holds members "inference" v → ∃ inner, v = .object inner)
    (found : FieldGiven surplus (canonicalMembers members) "inference" .defaulted
      (.record "InferenceConfig" InferenceSettings.fields) given) :
    ((Option.map InferenceSettings.ofParts given).getD .standard).Follows members := by
  rcases fieldGiven_defaulted_iff.mp found with ⟨v, data, rfl, holds, read⟩ | ⟨rfl, lacks⟩
  · obtain ⟨inner, rfl⟩ := isObject v holds
    obtain ⟨baseUrl, model, apiKeyEnv, temperature, maxOutputTokens, timeoutSecs, ⟨⟩⟩ := data
    obtain ⟨hasBaseUrl, hasModel, hasApiKeyEnv, hasTemperature, hasMaxOutputTokens, hasTimeoutSecs,
      -⟩ := (Shape.ofJson_record_canonical_iff (by decide)).mp read
    exact
      { baseUrl := chooses_of_given holds ofJson_text_iff.mp hasBaseUrl
        model := chooses_of_given holds ofJson_text_iff.mp hasModel
        apiKeyEnv := chooses_of_given holds ofJson_text_iff.mp hasApiKeyEnv
        temperature := chooses_of_given holds ofJson_real_iff.mp hasTemperature
        maxOutputTokens := chooses_of_given holds ofJson_natural_iff.mp hasMaxOutputTokens
        timeoutSecs := chooses_of_given holds ofJson_natural_iff.mp hasTimeoutSecs }
  · exact
      { baseUrl := chooses_of_lacks lacks
        model := chooses_of_lacks lacks
        apiKeyEnv := chooses_of_lacks lacks
        temperature := chooses_of_lacks lacks
        maxOutputTokens := chooses_of_lacks lacks
        timeoutSecs := chooses_of_lacks lacks }

/-- A section with one field has what is said there, or the default. -/
theorem Config.chooses_of_sectionGiven {part field title : String} {shape : Shape}
    {means : Json → shape.Value → Prop} {default : shape.Value}
    {given : Option (Fields.cons field .defaulted shape .nil).Value}
    (isObject : ∀ v, Holds members part v → ∃ inner, v = .object inner)
    (reads : ∀ {v data}, shape.ofJson surplus v.canonical = .ok data → means v data)
    (found : FieldGiven surplus (canonicalMembers members) part .defaulted
      (.record title (.cons field .defaulted shape .nil)) given) :
    Chooses members part field means default
      ((given.map fun data => Option.getD (α := shape.Value) data.1 default).getD default) := by
  rcases fieldGiven_defaulted_iff.mp found with ⟨v, data, rfl, holds, read⟩ | ⟨rfl, lacks⟩
  · obtain ⟨inner, rfl⟩ := isObject v holds
    have distinct : (Fields.cons field .defaulted shape .nil).names.Nodup := List.nodup_singleton _
    obtain ⟨hasField, -⟩ := (Shape.ofJson_record_canonical_iff distinct).mp read
    have chosen : Chooses members part field means default
        (Option.getD (α := shape.Value) data.1 default) := chooses_of_given holds reads hasField
    exact chosen
  · exact chooses_of_lacks lacks

theorem Settings.follows_of_given {parts : Settings.fields.Value} (typed : WellTyped members)
    (found : Settings.fields.Given surplus (canonicalMembers members) parts) :
    (Settings.ofParts parts).Follows members := by
  obtain ⟨inference, safety, topics, retry, ⟨⟩⟩ := parts
  obtain ⟨hasInference, hasSafety, hasTopics, hasRetry, -⟩ := found
  have attempts : Chooses members "retry" "max_attempts" (IsNatural 32) 2
        ((Option.map RetrySettings.ofParts retry).getD .standard).maxAttempts ∧
      Chooses members "retry" "backoff_ms" (IsNatural 64) 250
        ((Option.map RetrySettings.ofParts retry).getD .standard).backoffMs := by
    rcases fieldGiven_defaulted_iff.mp hasRetry with ⟨v, data, rfl, holds, read⟩ | ⟨rfl, lacks⟩
    · obtain ⟨inner, rfl⟩ := typed.sections "retry" (by decide) v holds
      obtain ⟨maxAttempts, backoffMs, ⟨⟩⟩ := data
      obtain ⟨hasMaxAttempts, hasBackoffMs, -⟩ :=
        (Shape.ofJson_record_canonical_iff (by decide)).mp read
      exact ⟨chooses_of_given holds ofJson_natural_iff.mp hasMaxAttempts,
        chooses_of_given holds ofJson_natural_iff.mp hasBackoffMs⟩
    · exact ⟨chooses_of_lacks lacks, chooses_of_lacks lacks⟩
  exact
    { inference :=
        InferenceSettings.follows_of_given (typed.sections "inference" (by decide)) hasInference
      denyList :=
        chooses_of_sectionGiven (typed.sections "safety" (by decide)) ofJson_texts_iff.mp hasSafety
      registryVersion :=
        chooses_of_sectionGiven (typed.sections "topics" (by decide)) ofJson_natural_iff.mp hasTopics
      maxAttempts := attempts.1
      backoffMs := attempts.2 }

theorem TutorSettings.dataDirFollows_of_given {parts : TutorSettings.fields.Value}
    (typed : WellTyped members)
    (found : TutorSettings.fields.Given surplus (canonicalMembers members) parts) :
    DataDirFollows members (practiceOf parts) :=
  chooses_of_sectionGiven (typed.sections "practice" (by decide)) ofJson_path_iff.mp found.1

end Follows

/-! ### Decoding -/

section Decoding

variable {surplus : Surplus} {members : List (String × Json)}

theorem Settings.ofJson_object_iff {s : Settings} :
    Settings.ofJson (.object members) = .ok s ↔
      ∃ parts, Settings.fields.Given .whole (canonicalMembers members) parts ∧
        Settings.ofParts parts = s := by
  refine map_eq_ok_iff.trans (exists_congr fun parts => and_congr_left' ?_)
  exact Shape.ofJson_record_canonical_iff (by decide)

theorem Settings.ofMembers_eq_ok_iff {s : Settings} :
    Settings.ofMembers members = .ok s ↔
      ∃ parts, ((∀ name ∈ Settings.fields.names, Json.Unrepeated members name) ∧
        Settings.fields.Given .counted members parts) ∧ Settings.ofParts parts = s := by
  have distinct : Settings.fields.names.Nodup := by decide
  constructor
  · intro found
    obtain ⟨slots, filled, closed⟩ := bind_eq_ok_iff.mp found
    obtain ⟨parts, closed, same⟩ := map_eq_ok_iff.mp closed
    have gathered := bind_eq_ok_iff.mpr ⟨slots, filled, closed⟩
    exact ⟨parts, (Fields.gathered_iff distinct).mp gathered, same⟩
  · rintro ⟨parts, given, same⟩
    obtain ⟨slots, filled, closed⟩ := bind_eq_ok_iff.mp ((Fields.gathered_iff distinct).mpr given)
    exact bind_eq_ok_iff.mpr ⟨slots, filled, map_eq_ok_iff.mpr ⟨parts, closed, same⟩⟩

/-- The members of a program configuration that are kept for the desk. -/
def TutorSettings.keptMembers (members : List (String × Json)) : List (String × Json) :=
  members.filter fun m => !TutorSettings.fields.names.contains m.1

theorem TutorSettings.member?_keptMembers {name : String} (listed : name ∈ Settings.fields.names) :
    Json.member? name (keptMembers members) = Json.member? name members := by
  have others : ∀ name ∈ Settings.fields.names, (!fields.names.contains name) = true := by decide
  rw [keptMembers, Json.member?_filter_name (fun name => !fields.names.contains name),
    if_pos (others name listed)]

/-- The sections of the desk are found again among the members that are kept. -/
theorem Settings.ofMembers_keptMembers_iff {s : Settings} :
    Settings.ofMembers (TutorSettings.keptMembers (canonicalMembers members)) = .ok s ↔
      ∃ parts, Settings.fields.Given .counted (canonicalMembers members) parts ∧
        Settings.ofParts parts = s := by
  have sorted : Json.Sorted (TutorSettings.keptMembers (canonicalMembers members)) :=
    Json.sorted_filter _ members
  refine Settings.ofMembers_eq_ok_iff.trans (exists_congr fun parts => and_congr_left' ?_)
  constructor
  · rintro ⟨-, given⟩
    exact given.congr fun name listed => TutorSettings.member?_keptMembers listed
  · intro given
    refine ⟨fun name _ => Json.unrepeated_of_nodup sorted.nodup_names name, ?_⟩
    exact given.congr fun name listed => (TutorSettings.member?_keptMembers listed).symm

theorem TutorSettings.ofJson_object_iff {desk : Settings} {dataDir : String} :
    TutorSettings.ofJson (.object members) = .ok ⟨desk, dataDir⟩ ↔
      (∃ practice, TutorSettings.fields.Given .whole (canonicalMembers members) practice ∧
        practiceOf practice = dataDir) ∧
      ∃ parts, Settings.fields.Given .counted (canonicalMembers members) parts ∧
        Settings.ofParts parts = desk := by
  have distinct : TutorSettings.fields.names.Nodup := by decide
  rw [← Settings.ofMembers_keptMembers_iff]
  constructor
  · intro decoded
    obtain ⟨⟨practice, kept⟩, read, found⟩ := bind_eq_ok_iff.mp decoded
    obtain ⟨given, rfl⟩ := (Shape.ofJson_openRecord_canonical_iff distinct).mp read
    obtain ⟨desk', gathered, same⟩ := bind_eq_ok_iff.mp found
    obtain ⟨rfl, rfl⟩ := TutorSettings.mk.inj (Except.ok.inj same)
    exact ⟨⟨practice, given, rfl⟩, gathered⟩
  · rintro ⟨⟨practice, given, rfl⟩, found⟩
    have read : TutorSettings.shape.ofJson .whole (Json.object members).canonical =
        .ok (practice, keptMembers (canonicalMembers members)) :=
      (Shape.ofJson_openRecord_canonical_iff distinct).mpr ⟨given, rfl⟩
    exact bind_eq_ok_iff.mpr ⟨_, read, bind_eq_ok_iff.mpr ⟨desk, found, rfl⟩⟩

/-- A record cannot be given when something wrong is said of one of its fields. -/
theorem Config.exists_of_says {part field title : String} {fields inner : Fields} {shape : Shape}
    {parts : fields.Value} {v : Json}
    (found : fields.Given surplus (canonicalMembers members) parts)
    (hasPart : fields.Has part .defaulted (.record title inner)) (distinct : inner.names.Nodup)
    (hasField : inner.Has field .defaulted shape) (said : Says members part field v) :
    ∃ data, shape.ofJson surplus v.canonical = .ok data := by
  obtain ⟨object, holds, held⟩ := said
  obtain ⟨data, partGiven⟩ := found.of_has hasPart
  rcases fieldGiven_defaulted_iff.mp partGiven with ⟨w, data, -, holds', read⟩ | ⟨-, lacks⟩
  · obtain rfl := holds.unique holds'
    have given := (Shape.ofJson_record_canonical_iff distinct).mp read
    obtain ⟨data, fieldGiven⟩ := given.of_has hasField
    rcases fieldGiven_defaulted_iff.mp fieldGiven with ⟨w, data, -, held', read⟩ | ⟨-, lacks⟩
    · obtain rfl := held.unique held'
      exact ⟨data, read⟩
    · exact absurd held lacks.not_holds
  · exact absurd holds lacks.not_holds

/-- What is said of the fields of the desk is right when it can be read. -/
theorem Config.right_of_given {part field : String} {right : Json → Prop} {v : Json}
    {parts : Settings.fields.Value}
    (found : Settings.fields.Given surplus (canonicalMembers members) parts)
    (isField : Field part field right) (said : Says members part field v) : right v := by
  cases isField with
  | baseUrl =>
      obtain ⟨data, read⟩ := exists_of_says found .here (by decide) .here said
      exact ⟨data, ofJson_text_iff.mp read⟩
  | model =>
      obtain ⟨data, read⟩ := exists_of_says found .here (by decide) (.there .here) said
      exact ⟨data, ofJson_text_iff.mp read⟩
  | apiKeyEnv =>
      obtain ⟨data, read⟩ := exists_of_says found .here (by decide) (.there (.there .here)) said
      exact ⟨data, ofJson_text_iff.mp read⟩
  | temperature =>
      obtain ⟨data, read⟩ :=
        exists_of_says found .here (by decide) (.there (.there (.there .here))) said
      exact ⟨data, ofJson_real_iff.mp read⟩
  | maxOutputTokens =>
      obtain ⟨data, read⟩ :=
        exists_of_says found .here (by decide) (.there (.there (.there (.there .here)))) said
      exact ⟨data, ofJson_natural_iff.mp read⟩
  | timeoutSecs =>
      obtain ⟨data, read⟩ := exists_of_says found .here (by decide)
        (.there (.there (.there (.there (.there .here))))) said
      exact ⟨data, ofJson_natural_iff.mp read⟩
  | denyList =>
      obtain ⟨data, read⟩ := exists_of_says found (.there .here) (by decide) .here said
      exact ⟨data, ofJson_texts_iff.mp read⟩
  | version =>
      obtain ⟨data, read⟩ := exists_of_says found (.there (.there .here)) (by decide) .here said
      exact ⟨data, ofJson_natural_iff.mp read⟩
  | maxAttempts =>
      obtain ⟨data, read⟩ :=
        exists_of_says found (.there (.there (.there .here))) (by decide) .here said
      exact ⟨data, ofJson_natural_iff.mp read⟩
  | backoffMs =>
      obtain ⟨data, read⟩ :=
        exists_of_says found (.there (.there (.there .here))) (by decide) (.there .here) said
      exact ⟨data, ofJson_natural_iff.mp read⟩

end Decoding

/-! ### The law -/

/-- What holds of every configuration that is given as an object. -/
structure Settings.DecodingLaw (members : List (String × Json)) : Prop where
  /-- When everything in it is of the right type, it is decoded as settings of the desk and of the
  program.  Both have the same desk, and each field is what is said of it, or its default. -/
  decodes : WellTyped members → ∃ desk dataDir,
    Settings.ofJson (.object members) = .ok desk ∧
      TutorSettings.ofJson (.object members) = .ok ⟨desk, dataDir⟩ ∧
      desk.Follows members ∧ TutorSettings.DataDirFollows members dataDir
  /-- Whatever else is in a configuration, in whatever order, does not matter: the desk depends on
  what is said of its fields, and the data directory on what is said of it. -/
  determined : ∀ others, WellTyped members → WellTyped others → ∀ s s',
    TutorSettings.ofJson (.object members) = .ok s →
    TutorSettings.ofJson (.object others) = .ok s' →
    ((∀ part field right, Field part field right → ∀ v,
      Says members part field v ↔ Says others part field v) → s.desk = s'.desk) ∧
    ((∀ v, Says members "practice" "data_dir" v ↔ Says others "practice" "data_dir" v) →
      s.dataDir = s'.dataDir)
  /-- A value that is wrong in one field of the desk cannot be decoded, whatever the others are. -/
  fails : ∀ part field right, Field part field right → ∀ v, Says members part field v → ¬ right v →
    (∃ fault, Settings.ofJson (.object members) = .error fault) ∧
      ∃ fault, TutorSettings.ofJson (.object members) = .error fault
  /-- Nowhere is null right. -/
  null : ∀ part field right, Field part field right → ¬ right .null

section Law

variable {members others : List (String × Json)}

/-- What a configuration of the right types is decoded as. -/
theorem TutorSettings.follows_of_ofJson {s : TutorSettings} (typed : WellTyped members)
    (decoded : TutorSettings.ofJson (.object members) = .ok s) :
    s.desk.Follows members ∧ DataDirFollows members s.dataDir := by
  obtain ⟨desk, dataDir⟩ := s
  obtain ⟨⟨practice, given, rfl⟩, parts, found, rfl⟩ := ofJson_object_iff.mp decoded
  exact ⟨Settings.follows_of_given typed found, dataDirFollows_of_given typed given⟩

theorem Settings.exists_ofJson (typed : WellTyped members) :
    ∃ desk dataDir, Settings.ofJson (.object members) = .ok desk ∧
      TutorSettings.ofJson (.object members) = .ok ⟨desk, dataDir⟩ ∧
      desk.Follows members ∧ TutorSettings.DataDirFollows members dataDir := by
  -- the two readings word their faults differently, so each has parts of its own; they are the same
  -- because both follow what is said
  obtain ⟨parts, given⟩ := typed.exists_parts .whole
  obtain ⟨kept, keptGiven⟩ := typed.exists_parts .counted
  obtain ⟨practice, practiceGiven⟩ := typed.exists_practice .whole
  have follows := Settings.follows_of_given typed given
  have same : Settings.ofParts kept = Settings.ofParts parts :=
    (Settings.follows_of_given typed keptGiven).unique follows fun _ _ => Iff.rfl
  exact ⟨Settings.ofParts parts, practiceOf practice,
    Settings.ofJson_object_iff.mpr ⟨parts, given, rfl⟩,
    TutorSettings.ofJson_object_iff.mpr ⟨⟨practice, practiceGiven, rfl⟩, kept, keptGiven, same⟩,
    follows, TutorSettings.dataDirFollows_of_given typed practiceGiven⟩

theorem Settings.ofJson_fails {part field : String} {right : Json → Prop} {v : Json}
    (isField : Field part field right) (said : Says members part field v) (wrong : ¬ right v) :
    (∃ fault, Settings.ofJson (.object members) = .error fault) ∧
      ∃ fault, TutorSettings.ofJson (.object members) = .error fault := by
  constructor
  · cases decoded : Settings.ofJson (.object members) with
    | error fault => exact ⟨fault, rfl⟩
    | ok s =>
        obtain ⟨parts, found, -⟩ := Settings.ofJson_object_iff.mp decoded
        exact absurd (right_of_given found isField said) wrong
  · cases decoded : TutorSettings.ofJson (.object members) with
    | error fault => exact ⟨fault, rfl⟩
    | ok s =>
        obtain ⟨desk, dataDir⟩ := s
        obtain ⟨-, parts, found, -⟩ := TutorSettings.ofJson_object_iff.mp decoded
        exact absurd (right_of_given found isField said) wrong

theorem Settings.obeys_decodingLaw (members : List (String × Json)) : DecodingLaw members where
  decodes := Settings.exists_ofJson
  determined := by
    intro others typed typed' s s' decoded decoded'
    obtain ⟨desk, dataDir⟩ := TutorSettings.follows_of_ofJson typed decoded
    obtain ⟨desk', dataDir'⟩ := TutorSettings.follows_of_ofJson typed' decoded'
    exact ⟨fun same => desk.unique desk' fun isField => same _ _ _ isField,
      fun same => dataDir.unique IsText.unique same dataDir'⟩
  fails := fun _ _ _ isField _ => Settings.ofJson_fails isField
  null := fun _ _ _ => Field.not_null

end Law

end StudyDesk
