/-
Module: StudyDesk.Proofs.Json.Canonical
Purpose: Bringing a value into canonical form changes nothing of what its names stand for.
Main exports:
  member?_append, member?_filter_name, member?_insertMember, member?_canonicalMembers,
  mem_canonicalMembers, Readable.canonical
-/
import StudyDesk.Proofs.Json.Members
import StudyDesk.Proofs.Json.RoundTrip

namespace StudyDesk.Json

variable {name key : String} {value : Json} {members : List (String × Json)}

/-! ### Names -/

theorem member?_cons (name key : String) (value : Json) (members : List (String × Json)) :
    member? name ((key, value) :: members) =
      (member? name members).or (if key = name then some value else none) := by
  rw [member?]
  cases member? name members <;> rfl

/-- Members that stand later hide those before them. -/
theorem member?_append (name : String) (members others : List (String × Json)) :
    member? name (members ++ others) = (member? name others).or (member? name members) := by
  induction members with
  | nil => exact (Option.or_none).symm
  | cons member members ih =>
      rw [List.cons_append, member?_cons, ih, member?_cons, Option.or_assoc]

/-- Members that are left out by their names are not found, and the others are found as before. -/
theorem member?_filter_name (keeps : String → Bool) (name : String)
    (members : List (String × Json)) :
    member? name (members.filter fun member => keeps member.1) =
      if keeps name then member? name members else none := by
  induction members with
  | nil => exact (ite_self none).symm
  | cons member members ih =>
      obtain ⟨key, value⟩ := member
      rw [List.filter_cons, member?_cons]
      by_cases named : key = name
      · subst named
        by_cases kept : keeps key
        · rw [if_pos kept, member?_cons, ih, if_pos kept, if_pos kept]
        · rw [if_neg kept, ih, if_neg kept, if_neg kept]
      · rw [if_neg named, Option.or_none, ← ih]
        split_ifs
        · rw [member?_cons, if_neg named, Option.or_none]
        · rfl

/-- To one who looks a name up, a member put in its place is a member put in front. -/
theorem member?_insertMember :
    member? name (insertMember key value members) = member? name ((key, value) :: members) := by
  induction members with
  | nil => rfl
  | cons first rest ih =>
      obtain ⟨k, v⟩ := first
      rw [insertMember]
      split_ifs with same before
      · -- the member that is there stays, and it hides one of its name in front
        subst same
        rw [member?_cons, member?_cons, member?_cons, Option.or_assoc]
        by_cases named : key = name
        · simp [named]
        · simp [named]
      · rfl
      · rw [member?_cons, ih, member?_cons, member?_cons, member?_cons, Option.or_assoc,
          Option.or_assoc]
        by_cases named : key = name
        · have other : k ≠ name := fun again => same (named.trans again.symm)
          simp [named, other]
        · simp [named]

/-- A name stands for the canonical form of what it stood for. -/
theorem member?_canonicalMembers (name : String) (members : List (String × Json)) :
    member? name (canonicalMembers members) = (member? name members).map canonical := by
  induction members with
  | nil => rfl
  | cons first rest ih =>
      obtain ⟨k, v⟩ := first
      rw [canonicalMembers, member?_insertMember, member?_cons, ih, member?_cons]
      by_cases named : k = name
      · cases member? name rest <;> simp [named]
      · simp [named]

/-! ### Parts -/

theorem canonicalItems_eq_map (items : List Json) :
    canonicalItems items = items.map canonical := by
  induction items with
  | nil => rfl
  | cons item rest ih => rw [canonicalItems, ih, List.map_cons]

theorem mem_insertMember {member : String × Json}
    (listed : member ∈ insertMember key value members) :
    member = (key, value) ∨ member ∈ members := by
  induction members with
  | nil => exact .inl (List.mem_singleton.mp listed)
  | cons first rest ih =>
      obtain ⟨k, v⟩ := first
      rw [insertMember] at listed
      split_ifs at listed with same before
      · exact .inr listed
      · rcases List.mem_cons.mp listed with new | old
        · exact .inl new
        · exact .inr old
      · rcases List.mem_cons.mp listed with here | later
        · rw [here]
          exact .inr List.mem_cons_self
        · rcases ih later with new | old
          · exact .inl new
          · exact .inr (List.mem_cons_of_mem _ old)

/-- Every canonical member comes from a member of its name. -/
theorem mem_canonicalMembers {member : String × Json}
    (listed : member ∈ canonicalMembers members) :
    ∃ value, (member.1, value) ∈ members ∧ member.2 = canonical value := by
  induction members with
  | nil => exact absurd listed List.not_mem_nil
  | cons first rest ih =>
      obtain ⟨k, v⟩ := first
      rw [canonicalMembers] at listed
      rcases mem_insertMember listed with rfl | later
      · exact ⟨v, List.mem_cons_self, rfl⟩
      · obtain ⟨value, old, same⟩ := ih later
        exact ⟨value, List.mem_cons_of_mem _ old, same⟩

/-- A value that reads back does so in canonical form. -/
theorem Readable.canonical {depth : Nat} {v : Json} (readable : Readable depth v) :
    Readable depth v.canonical := by
  induction readable with
  | null => exact .null
  | bool b => exact .bool b
  | number readsBack => exact .number readsBack
  | string s => exact .string s
  | array inner ih =>
      rw [Json.canonical, canonicalItems_eq_map]
      apply Readable.array
      intro item listed
      obtain ⟨old, isItem, rfl⟩ := List.mem_map.mp listed
      exact ih old isItem
  | object inner ih =>
      rw [Json.canonical]
      apply Readable.object
      intro member listed
      obtain ⟨old, isMember, same⟩ := mem_canonicalMembers listed
      rw [same]
      exact ih (member.1, old) isMember

end StudyDesk.Json
