/-
Module: StudyDesk.Proofs.Config.Checking
Purpose: Which settings pass the check, and of which of those a desk is made.
Main exports:
  Registry.forVersion?_eq_some_iff, Settings.check_eq_ok_iff, Desk.Follows,
  Desk.ofSettings_eq_ok_iff, Desk.ofSettings_cases, Desk.made_iff_no_blank_term
-/
import StudyDesk.Proofs.Answer.Acceptance
import StudyDesk.Proofs.Gate.Composition
import StudyDesk.Session.Desk

namespace StudyDesk

/-! ### The check -/

theorem Registry.forVersion?_eq_some_iff {version : Nat} {registry : Registry} :
    Registry.forVersion? version = some registry ↔
      (version = 1 ∧ registry = .first) ∨ (version = 2 ∧ registry = .second) := by
  unfold Registry.forVersion?
  split_ifs with one two
  · simp [one, eq_comm]
  · simp [two, eq_comm]
  · simp [one, two]

/-- The registry of a version says so. -/
theorem Registry.version_of_forVersion? {version : Nat} {registry : Registry}
    (found : Registry.forVersion? version = some registry) : registry.version = version := by
  rcases Registry.forVersion?_eq_some_iff.mp found with ⟨rfl, rfl⟩ | ⟨rfl, rfl⟩
  · rfl
  · rfl

/-- Settings pass the check with a temperature in range, a version that there is, and no number that is
zero. -/
theorem Settings.check_eq_ok_iff {s : Settings} :
    s.check = .ok () ↔
      s.inference.temperature.between0And 2 = true ∧ 0 < s.inference.maxOutputTokens ∧
        0 < s.inference.timeoutSecs ∧ 0 < s.retry.maxAttempts ∧
        ∃ registry, Registry.forVersion? s.registryVersion = some registry := by
  rw [← Option.isSome_iff_exists, ← Option.not_isNone, Nat.pos_iff_ne_zero, Nat.pos_iff_ne_zero,
    Nat.pos_iff_ne_zero]
  unfold Settings.check
  split_ifs with temperature tokens timeout attempts version
  · have outOfRange : s.inference.temperature.between0And 2 = false := by simpa using temperature
    simp [outOfRange]
  · simp [tokens]
  · simp [timeout]
  · simp [attempts]
  · simp [version]
  · have inRange : s.inference.temperature.between0And 2 = true := by simpa using temperature
    simp [inRange, tokens, timeout, attempts, version]

/-! ### From settings to a desk -/

namespace Desk

variable {s : Settings} {desk : Desk}

/-- A desk that has everything as the settings say. -/
structure Follows (desk : Desk) (s : Settings) : Prop where
  registry : Registry.forVersion? s.registryVersion = some desk.registry
  version : desk.registry.version = s.registryVersion
  /-- The instruction is written for the registry of that version. -/
  instruction : ∀ registry, Registry.forVersion? s.registryVersion = some registry →
    desk.instruction = Prompt.instruction registry
  terms : desk.gate.terms = s.denyList.map Gate.normalize
  params : desk.params = ⟨s.inference.temperature, s.inference.maxOutputTokens⟩
  timeout : desk.timeoutMs = s.inference.timeoutSecs * 1000

theorem registryOf_eq_ok_iff {version : Nat} {registry : Registry} :
    registryOf version = .ok registry ↔ Registry.forVersion? version = some registry := by
  unfold registryOf
  cases Registry.forVersion? version <;> simp

theorem gateOf_eq_ok_iff {terms : List String} {gate : Gate} :
    gateOf terms = .ok gate ↔ Gate.ofTerms? terms = some gate := by
  unfold gateOf
  cases Gate.ofTerms? terms <;> simp

/-- A desk is made of settings that pass the check and whose terms make a gate. -/
theorem ofSettings_eq_ok_iff :
    ofSettings s = .ok desk ↔
      s.check = .ok () ∧ Registry.forVersion? s.registryVersion = some desk.registry ∧
        Gate.ofTerms? s.denyList = some desk.gate ∧ desk.params = s.inference.params ∧
        desk.timeoutMs = s.inference.timeoutMs := by
  simp only [ofSettings, bind_eq_ok_iff, registryOf_eq_ok_iff, gateOf_eq_ok_iff, Except.ok.injEq]
  constructor
  · rintro ⟨⟨⟩, checked, registry, found, gate, made, rfl⟩
    exact ⟨checked, found, made, rfl, rfl⟩
  · obtain ⟨gate, registry, params, timeoutMs⟩ := desk
    rintro ⟨checked, found, made, rfl, rfl⟩
    exact ⟨(), checked, registry, found, gate, made, rfl⟩

theorem follows_iff :
    desk.Follows s ↔
      Registry.forVersion? s.registryVersion = some desk.registry ∧
        desk.gate.terms = s.denyList.map Gate.normalize ∧ desk.params = s.inference.params ∧
        desk.timeoutMs = s.inference.timeoutMs := by
  constructor
  · intro follows
    exact ⟨follows.registry, follows.terms, follows.params, follows.timeout⟩
  · rintro ⟨found, terms, params, timeout⟩
    refine ⟨found, Registry.version_of_forVersion? found, ?_, terms, params, timeout⟩
    intro registry again
    rw [found] at again
    cases again
    rfl

/-- A desk follows the settings that it was made of. -/
theorem ofSettings_eq_ok_iff_follows :
    ofSettings s = .ok desk ↔
      s.check = .ok () ∧ (∀ term ∈ s.denyList, Text.isBlankText term = false) ∧
        desk.Follows s := by
  rw [ofSettings_eq_ok_iff, follows_iff, Gate.ofTerms?_eq_some_iff]
  simp only [ne_eq, Gate.normalize_eq_empty_iff, Bool.not_eq_true]
  tauto

/-- Settings that fail the check fail as it says. -/
theorem ofSettings_of_check_error {fault : ConfigFault} (failed : s.check = .error fault) :
    ofSettings s = .error fault := by
  simp only [ofSettings, failed, bind, Except.bind]

/-- Of settings that pass the check, a desk is made unless one of the terms is blank. -/
theorem ofSettings_cases (checked : s.check = .ok ()) :
    ((∀ term ∈ s.denyList, Text.isBlankText term = false) ∧
        ∃ desk, ofSettings s = .ok desk ∧ desk.Follows s) ∨
      ((∃ term ∈ s.denyList, Text.isBlankText term = true) ∧
        ofSettings s = .error .emptyTerm) := by
  obtain ⟨-, -, -, -, registry, found⟩ := Settings.check_eq_ok_iff.mp checked
  cases made : Gate.ofTerms? s.denyList with
  | some gate =>
      have notBlank := Gate.exists_made_iff.mp ⟨gate, made⟩
      have follows : Follows ⟨gate, registry, s.inference.params, s.inference.timeoutMs⟩ s :=
        follows_iff.mpr ⟨found, (Gate.ofTerms?_eq_some_iff.mp made).2, rfl, rfl⟩
      exact .inl ⟨notBlank, _, ofSettings_eq_ok_iff_follows.mpr ⟨checked, notBlank, follows⟩,
        follows⟩
  | none =>
      right
      constructor
      · by_contra noneBlank
        push Not at noneBlank
        obtain ⟨gate, again⟩ := Gate.exists_made_iff.mpr fun term isTerm =>
          Bool.eq_false_iff.mpr (noneBlank term isTerm)
        rw [made] at again
        cases again
      · simp only [ofSettings, checked, registryOf, found, gateOf, made, bind, Except.bind]

/-! ### The two procedures -/

/-- A desk is made exactly of settings that pass the check and have no blank among their terms, and it
then follows them.  The check does not look at the terms: settings that pass it with a blank term are
refused by the gate, and those that fail it are refused for what it found. -/
theorem made_iff_no_blank_term (s : Settings) :
    (∀ desk, ofSettings s = .ok desk ↔
        s.check = .ok () ∧ (∀ term ∈ s.denyList, Text.isBlankText term = false) ∧
          desk.Follows s) ∧
      (s.check = .ok () →
        ((∃ desk, ofSettings s = .ok desk) ↔
            ∀ term ∈ s.denyList, Text.isBlankText term = false) ∧
          ((∃ term ∈ s.denyList, Text.isBlankText term = true) →
            ofSettings s = .error .emptyTerm)) ∧
      ∀ fault, s.check = .error fault → ofSettings s = .error fault := by
  refine ⟨fun _ => ofSettings_eq_ok_iff_follows, ?_, fun _ => ofSettings_of_check_error⟩
  intro checked
  rcases ofSettings_cases checked with ⟨notBlank, desk, made, -⟩ | ⟨⟨term, isTerm, blank⟩, refused⟩
  · refine ⟨iff_of_true ⟨desk, made⟩ notBlank, ?_⟩
    rintro ⟨term, isTerm, blank⟩
    rw [notBlank term isTerm] at blank
    cases blank
  · refine ⟨iff_of_false ?_ ?_, fun _ => refused⟩
    · rintro ⟨desk, made⟩
      rw [refused] at made
      cases made
    · intro notBlank
      rw [notBlank term isTerm] at blank
      cases blank

/-- The usual settings, but with a blank for the one term. -/
def blankTermSettings : Settings := { Settings.standard with denyList := [" "] }

/-- They pass the check, and no desk can be made of them. -/
theorem checked_without_desk :
    ¬ ∀ s : Settings, s.check = .ok () → ∃ desk, ofSettings s = .ok desk := by
  intro runnable
  have checked : blankTermSettings.check = .ok () := by decide +kernel
  obtain ⟨desk, made⟩ := runnable blankTermSettings checked
  have refused : ofSettings blankTermSettings = .error .emptyTerm := by decide +kernel
  rw [refused] at made
  cases made

end Desk

end StudyDesk
