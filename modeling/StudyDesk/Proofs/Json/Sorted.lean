/-
Module: StudyDesk.Proofs.Json.Sorted
Purpose: A canonical object is sorted by its names, so that it is determined by what its names stand
  for.
Main exports:
  Sorted, sorted_canonicalMembers, Sorted.nodup_names, Sorted.ext, canonicalMembers_congr,
  Sorted.canonicalMembers_eq, canonical_canonical
-/
import Mathlib.Data.List.Nodup
import StudyDesk.Proofs.Json.Canonical
import StudyDesk.Proofs.Text.Order

namespace StudyDesk.Json

variable {name key : String} {value : Json} {members others : List (String × Json)}

/-- Members that stand in the order of their names, none of which repeats. -/
def Sorted (members : List (String × Json)) : Prop :=
  members.Pairwise fun one two => one.1 < two.1

/-! ### Canonical members are sorted -/

theorem sorted_insertMember (sorted : Sorted members) : Sorted (insertMember key value members) := by
  induction members with
  | nil => exact List.pairwise_singleton _ _
  | cons first rest ih =>
      obtain ⟨k, v⟩ := first
      obtain ⟨least, later⟩ := List.pairwise_cons.mp sorted
      rw [insertMember]
      split_ifs with same early
      · exact sorted
      · rw [Text.before_iff] at early
        refine List.pairwise_cons.mpr ⟨fun member listed => ?_, sorted⟩
        rcases List.mem_cons.mp listed with rfl | behind
        · exact early
        · exact early.trans (least member behind)
      · rw [Bool.not_eq_true, ← Bool.not_eq_true, Text.before_iff] at early
        have after : k < key := lt_of_le_of_ne (not_lt.mp early) (Ne.symm same)
        refine List.pairwise_cons.mpr ⟨fun member listed => ?_, ih later⟩
        rcases mem_insertMember listed with rfl | old
        · exact after
        · exact least member old

theorem sorted_canonicalMembers (members : List (String × Json)) :
    Sorted (canonicalMembers members) := by
  induction members with
  | nil => exact List.Pairwise.nil
  | cons first rest ih => exact sorted_insertMember ih

/-- Leaving members out of a canonical object keeps the others in order. -/
theorem sorted_filter (keeps : String × Json → Bool) (members : List (String × Json)) :
    Sorted ((canonicalMembers members).filter keeps) :=
  (sorted_canonicalMembers members).filter keeps

theorem Sorted.nodup_names (sorted : Sorted members) : (members.map Prod.fst).Nodup :=
  (List.pairwise_map.mpr sorted).imp ne_of_lt

/-! ### Sorted members are determined by their names -/

/-- Where no name repeats, a name stands for the only member that it has. -/
theorem member?_eq_some_iff_mem (distinct : (members.map Prod.fst).Nodup) :
    member? name members = some value ↔ (name, value) ∈ members := by
  constructor
  · exact fun found => (member?_eq_some_iff.mp found).mem
  · intro listed
    obtain ⟨before, after, rfl⟩ := List.append_of_mem listed
    refine member?_eq_some_iff.mpr ⟨before, after, rfl, fun member later same => ?_⟩
    rw [List.map_append, List.map_cons] at distinct
    obtain ⟨fresh, -⟩ := List.nodup_cons.mp (List.nodup_append.mp distinct).2.1
    exact fresh (List.mem_map.mpr ⟨member, later, same⟩)

/-- Members that are sorted are the same when every name stands for the same in both. -/
theorem Sorted.ext (sorted : Sorted members) (sorted' : Sorted others)
    (same : ∀ name, member? name members = member? name others) : members = others := by
  have perm : members.Perm others := by
    rw [List.perm_ext_iff_of_nodup (.of_map Prod.fst sorted.nodup_names)
      (.of_map Prod.fst sorted'.nodup_names)]
    rintro ⟨name, value⟩
    rw [← member?_eq_some_iff_mem sorted.nodup_names, same,
      member?_eq_some_iff_mem sorted'.nodup_names]
  exact perm.eq_of_pairwise (fun one two _ _ first second => absurd first second.asymm) sorted
    sorted'

/-- Only what the names stand for matters to the canonical form. -/
theorem canonicalMembers_congr
    (same : ∀ name, (member? name members).map canonical = (member? name others).map canonical) :
    canonicalMembers members = canonicalMembers others := by
  refine (sorted_canonicalMembers members).ext (sorted_canonicalMembers others) fun name => ?_
  rw [member?_canonicalMembers, member?_canonicalMembers, same]

/-- Sorted members with canonical values are in canonical form. -/
theorem Sorted.canonicalMembers_eq (sorted : Sorted members)
    (canonicalValues : ∀ member ∈ members, member.2.canonical = member.2) :
    canonicalMembers members = members := by
  refine (sorted_canonicalMembers members).ext sorted fun name => ?_
  rw [member?_canonicalMembers]
  cases found : member? name members with
  | none => rfl
  | some value =>
      have listed := (member?_eq_some_iff_mem sorted.nodup_names).mp found
      exact congrArg some (canonicalValues (name, value) listed)

mutual

/-- A canonical value is its own canonical form. -/
theorem canonical_canonical : (v : Json) → v.canonical.canonical = v.canonical
  | .null | .bool _ | .number _ | .string _ => rfl
  | .array items => by
      rw [canonical, canonical, canonicalItems_eq_map, canonicalItems_eq_map, List.map_map]
      exact congrArg array (List.map_congr_left (canonical_canonical_items items))
  | .object members => by
      rw [canonical, canonical]
      refine congrArg object (canonicalMembers_congr fun name => ?_)
      rw [member?_canonicalMembers, Option.map_map]
      refine Option.map_congr fun value found => ?_
      exact canonical_canonical_members members (name, value) (member?_eq_some_iff.mp found).mem

theorem canonical_canonical_items :
    (items : List Json) → ∀ item ∈ items, item.canonical.canonical = item.canonical
  | [] => List.forall_mem_nil _
  | item :: rest =>
      List.forall_mem_cons.mpr ⟨canonical_canonical item, canonical_canonical_items rest⟩

theorem canonical_canonical_members :
    (members : List (String × Json)) →
      ∀ member ∈ members, member.2.canonical.canonical = member.2.canonical
  | [] => List.forall_mem_nil _
  | (_, value) :: rest =>
      List.forall_mem_cons.mpr ⟨canonical_canonical value, canonical_canonical_members rest⟩

end

end StudyDesk.Json
