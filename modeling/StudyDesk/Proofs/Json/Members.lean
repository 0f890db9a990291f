/-
Module: StudyDesk.Proofs.Json.Members
Purpose: What a name stands for among the members of an object, said without looking it up.
Main exports:
  Holds, Lacks, Omits, member?_eq_some_iff, member?_eq_none_iff, Holds.unique, holds_or_lacks,
  omits_iff
-/
import StudyDesk.Json.Value

namespace StudyDesk.Json

variable {name : String} {members : List (String × Json)} {value : Json}

/-- The last member of a name has the value; those before it do not count. -/
def Holds (members : List (String × Json)) (name : String) (value : Json) : Prop :=
  ∃ before after, members = before ++ (name, value) :: after ∧ ∀ member ∈ after, member.1 ≠ name

/-- No member has the name. -/
def Lacks (members : List (String × Json)) (name : String) : Prop :=
  ∀ member ∈ members, member.1 ≠ name

/-- A member is absent, or it is null. -/
def Omits (members : List (String × Json)) (name : String) : Prop :=
  Lacks members name ∨ Holds members name .null

theorem member?_eq_none_iff : member? name members = none ↔ Lacks members name := by
  induction members with
  | nil => simp [member?, Lacks]
  | cons first rest ih =>
      obtain ⟨key, given⟩ := first
      simp only [Lacks, List.forall_mem_cons] at ih ⊢
      rw [member?]
      cases found : member? name rest with
      | some later =>
          simp only [found, reduceCtorEq, false_iff] at ih ⊢
          exact fun absent => ih absent.2
      | none =>
          have absent := ih.mp found
          simp only [ite_eq_right_iff, reduceCtorEq, imp_false]
          exact ⟨fun other => ⟨other, absent⟩, And.left⟩

theorem member?_eq_some_of_holds (holds : Holds members name value) :
    member? name members = some value := by
  obtain ⟨before, after, rfl, absent⟩ := holds
  induction before with
  | nil =>
      rw [List.nil_append, member?, member?_eq_none_iff.mpr absent]
      exact if_pos rfl
  | cons first rest ih =>
      rw [List.cons_append, member?, ih]

theorem holds_of_member?_eq_some (found : member? name members = some value) :
    Holds members name value := by
  induction members with
  | nil => simp [member?] at found
  | cons first rest ih =>
      obtain ⟨key, given⟩ := first
      rw [member?] at found
      cases foundLater : member? name rest with
      | some later =>
          rw [foundLater] at found
          obtain rfl := Option.some.inj found
          obtain ⟨before, after, split, absent⟩ := ih foundLater
          exact ⟨(key, given) :: before, after, by rw [split, List.cons_append], absent⟩
      | none =>
          rw [foundLater] at found
          obtain ⟨rfl, same⟩ : key = name ∧ given = value := by simpa using found
          exact ⟨[], rest, by rw [same, List.nil_append], member?_eq_none_iff.mp foundLater⟩

/-- Looking a name up finds its last member. -/
theorem member?_eq_some_iff : member? name members = some value ↔ Holds members name value :=
  ⟨holds_of_member?_eq_some, member?_eq_some_of_holds⟩

/-- A name stands for one value. -/
theorem Holds.unique {other : Json} (holds : Holds members name value)
    (again : Holds members name other) : value = other :=
  Option.some.inj
    ((member?_eq_some_of_holds holds).symm.trans (member?_eq_some_of_holds again))

theorem Holds.mem (holds : Holds members name value) : (name, value) ∈ members := by
  obtain ⟨before, after, rfl, -⟩ := holds
  exact List.mem_append_right before List.mem_cons_self

theorem Lacks.not_holds (lacks : Lacks members name) : ¬ Holds members name value := by
  intro holds
  exact lacks _ holds.mem rfl

theorem holds_or_lacks (members : List (String × Json)) (name : String) :
    (∃ value, Holds members name value) ∨ Lacks members name := by
  cases found : member? name members with
  | none => exact .inr (member?_eq_none_iff.mp found)
  | some value => exact .inl ⟨value, member?_eq_some_iff.mp found⟩

theorem omits_iff :
    Omits members name ↔ member? name members = none ∨ member? name members = some .null := by
  rw [Omits, member?_eq_none_iff, member?_eq_some_iff]

end StudyDesk.Json
