/-
Module: StudyDesk.Proofs.Answer.Migration
Purpose: What is carried from one registry into another is acceptable there, and loses its topic only
  where that registry lacks it.
Main exports:
  Registry.migrate_migrate, Classification.migrate, Classification.WellFormed.migrate,
  Contract.MigrationLaw, Contract.migrationLaw
-/
import StudyDesk.Proofs.Answer.RoundTrip

namespace StudyDesk

/-! ### Tags -/

namespace Registry

variable {registry : Registry} {tag : Tag}

theorem accepts_migrate (registry : Registry) (tag : Tag) :
    registry.accepts (registry.migrate tag) = true := by
  rw [migrate]
  split_ifs with accepted
  · exact accepted
  · rfl

theorem migrate_of_not_accepts (refused : registry.accepts tag = false) :
    registry.migrate tag = .unknown := by
  rw [migrate, refused, if_neg Bool.false_ne_true]

/-- The first registry has none of the topics that the second one adds. -/
example : first.migrate (.known "math") = .unknown := by decide

/-- A tag is carried into a registry as itself when the registry accepts it. -/
theorem migrate_eq_self_iff : registry.migrate tag = tag ↔ registry.accepts tag = true := by
  constructor
  · intro same
    rw [← same]
    exact accepts_migrate registry tag
  · exact fun accepted => if_pos accepted

/-- A tag that is carried through two registries is kept by both of them or lost to either. -/
theorem migrate_migrate (source target : Registry) (tag : Tag) :
    source.migrate (target.migrate tag) =
      if source.accepts tag && target.accepts tag then tag else .unknown := by
  cases kept : target.accepts tag with
  | true => rw [migrate_eq_self_iff.mpr kept, Bool.and_true, migrate]
  | false =>
      rw [migrate_of_not_accepts kept, Bool.and_false, if_neg Bool.false_ne_true]
      exact migrate_eq_self_iff.mpr rfl

theorem migrate_migrate_eq_self_iff (source target : Registry) (tag : Tag) :
    source.migrate (target.migrate tag) = tag ↔
      source.accepts tag = true ∧ target.accepts tag = true := by
  rw [migrate_migrate, ← Bool.and_eq_true]
  constructor
  · intro same
    split_ifs at same with both
    · exact both
    · -- the escape tag is accepted everywhere, so it cannot be the one that was lost
      exact same ▸ rfl
  · exact fun both => if_pos both

end Registry

/-! ### Results -/

namespace Classification

variable {source target : Registry} {result : Classification}

/-- A result carried into a registry: its topic is carried there, and all else stays. -/
def migrate (registry : Registry) (result : Classification) : Classification :=
  { result with topic := result.topic.map registry.migrate }

/-- What one registry allows, the other allows once it is carried there. -/
theorem WellFormed.migrate (wellFormed : result.WellFormed source) (target : Registry) :
    (result.migrate target).WellFormed target := by
  cases wellFormed with
  | answered listed notBlank =>
      exact .answered (Registry.accepts_iff_lists.mp (target.accepts_migrate _)) notBlank
  | rejected notBlank => exact .rejected notBlank

/-- A registry with all topics of another takes over what the other allows as it is. -/
theorem WellFormed.migrate_eq_self (wellFormed : result.WellFormed source)
    (covered : ∀ name ∈ source.topics, name ∈ target.topics) : result.migrate target = result := by
  cases wellFormed with
  | answered listed notBlank =>
      have kept : target.Lists _ := listed.imp_right fun ⟨name, isTopic, same⟩ =>
        ⟨name, covered name isTopic, same⟩
      have same := Registry.migrate_eq_self_iff.mpr (Registry.accepts_iff_lists.mpr kept)
      rw [Classification.migrate, Classification.answered, Option.map_some, same]
  | rejected notBlank => rfl

end Classification

namespace Contract

variable {source : Registry} {raw : String} {result : Classification}

theorem wellFormed_of_validate (validated : validate source raw = .ok result) :
    result.WellFormed source := by
  obtain ⟨value, -, declares⟩ := validate_eq_ok_iff.mp validated
  exact declares.wellFormed

/-- What holds of two registries, when tags and results of the first are carried into the second. -/
structure MigrationLaw (source target : Registry) : Prop where
  /-- What is carried into a registry is accepted there; -/
  accepted : ∀ tag, target.accepts (target.migrate tag) = true
  /-- it stays as it is just when it was accepted before. -/
  kept : ∀ tag, target.migrate tag = tag ↔ target.accepts tag = true
  /-- Two registries may be gone through in either order, -/
  commutes : ∀ tag, source.migrate (target.migrate tag) = target.migrate (source.migrate tag)
  /-- and a tag comes through when both accept it. -/
  survives : ∀ tag, source.migrate (target.migrate tag) = tag ↔
    source.accepts tag = true ∧ target.accepts tag = true
  /-- Of a result only the topic is carried. -/
  others : ∀ result : Classification, { result.migrate target with topic := result.topic } = result
  topic : ∀ result : Classification, (result.migrate target).topic = result.topic.map target.migrate
  /-- Output that is accepted under the first registry gives a result whose text, once it is carried,
  is accepted under the second as just that. -/
  validates : ∀ raw result, validate source raw = .ok result →
    validate target (result.migrate target).toJson.compact = .ok (result.migrate target)
  /-- Nothing is lost where the second registry has every topic of the first. -/
  whole : (∀ name ∈ source.topics, name ∈ target.topics) → ∀ raw result,
    validate source raw = .ok result → result.migrate target = result

/-- The law of migration holds of any two registries. -/
theorem migrationLaw (source target : Registry) : MigrationLaw source target where
  accepted := target.accepts_migrate
  kept := fun _ => Registry.migrate_eq_self_iff
  commutes := by
    intro tag
    rw [Registry.migrate_migrate, Registry.migrate_migrate, Bool.and_comm]
  survives := source.migrate_migrate_eq_self_iff target
  others := fun _ => rfl
  topic := fun _ => rfl
  validates := by
    intro raw result validated
    have wellFormed := wellFormed_of_validate validated
    exact validate_compact_of_wellFormed (wellFormed.migrate target)
  whole := by
    intro covered raw result validated
    have wellFormed := wellFormed_of_validate validated
    exact wellFormed.migrate_eq_self covered

end Contract

end StudyDesk
