/-
Module: StudyDesk.Proofs.Practice.Scaffolds
Purpose: The scaffolds of a problem and the list of their languages describe the same map, the one that
  the file of scaffolds holds.
Main exports:
  Json.IsTextTable, Entry.HasScaffolds, Library.lookupLast_scaffolds_iff, Library.languages_eq,
  Library.mem_languages_iff, Library.ScaffoldLaw, Library.scaffoldLaw
-/
import StudyDesk.Proofs.Json.Sorted
import StudyDesk.Proofs.Practice.Fixtures

namespace StudyDesk

open Json (Holds)

variable {α : Type} {members : List (String × Json)}

/-! ### The file -/

/-- A value that is an object of texts. -/
def Json.IsTextTable (value : Json) : Prop :=
  ∃ members, value = .object members ∧ ∀ member ∈ members, ∃ s, member.2 = .string s

/-- A file is an object with these members, and each of them is an object of texts. -/
structure Entry.HasScaffolds (entry : Entry) (members : List (String × Json)) : Prop where
  isObject : entry.IsObject members
  tables : ∀ member ∈ members, member.2.IsTextTable

theorem exists_entries_iff {embed : α → Json} :
    (∀ member ∈ members, ∃ x, member.2 = embed x) ↔
      ∃ entries, .object members = Json.ofTable embed entries := by
  induction members with
  | nil => exact iff_of_true (List.forall_mem_nil _) ⟨[], rfl⟩
  | cons member members ih =>
      obtain ⟨key, value⟩ := member
      rw [List.forall_mem_cons, ih]
      constructor
      · rintro ⟨⟨x, rfl⟩, entries, same⟩
        exact ⟨(key, x) :: entries, by simpa [Json.ofTable] using same⟩
      · rintro ⟨entries, same⟩
        cases entries with
        | nil => cases same
        | cons entry entries =>
            obtain ⟨first, others⟩ := List.cons.inj (Json.object.inj same)
            exact ⟨⟨entry.2, (Prod.mk.inj first).2⟩, entries, congrArg Json.object others⟩

theorem Json.isTextTable_iff {value : Json} :
    value.IsTextTable ↔ ∃ texts, value = Json.ofTable .string texts := by
  constructor
  · rintro ⟨members, rfl, texts⟩
    exact exists_entries_iff.mp texts
  · rintro ⟨texts, rfl⟩
    exact ⟨_, rfl, exists_entries_iff.mpr ⟨texts, rfl⟩⟩

namespace Library

/-- Scaffolds as a value. -/
def scaffoldsJson (scaffolds : Scaffolds) : Json := .ofTable (.ofTable .string) scaffolds

theorem gives_scaffoldShape_iff {entry : Entry} {scaffolds : Scaffolds} :
    entry.Gives scaffoldShape scaffolds ↔
      ∃ text, entry.text = .ok text ∧ Json.parse text.toList = .ok (scaffoldsJson scaffolds) :=
  Entry.gives_iff (keeps_table (keeps_table keeps_text))

/-- A file has scaffolds just where they are read off it. -/
theorem hasScaffolds_iff {entry : Entry} :
    entry.HasScaffolds members ↔
      ∃ scaffolds : Scaffolds, entry.Gives scaffoldShape scaffolds ∧
        .object members = scaffoldsJson scaffolds := by
  constructor
  · rintro ⟨⟨text, has, parsed⟩, tables⟩
    obtain ⟨scaffolds, same⟩ :
        ∃ scaffolds : Scaffolds, .object members = scaffoldsJson scaffolds :=
      exists_entries_iff.mp fun member listed => Json.isTextTable_iff.mp (tables member listed)
    exact ⟨scaffolds, gives_scaffoldShape_iff.mpr ⟨text, has, same ▸ parsed⟩, same⟩
  · rintro ⟨scaffolds, gives, same⟩
    obtain ⟨text, has, parsed⟩ := gives_scaffoldShape_iff.mp gives
    refine ⟨⟨text, has, same ▸ parsed⟩, fun member listed => Json.isTextTable_iff.mpr ?_⟩
    exact exists_entries_iff.mpr ⟨scaffolds, same⟩ member listed

/-! ### Lookups -/

theorem member?_ofTable (embed : α → Json) (key : String) (entries : List (String × α)) :
    Json.member? key (entries.map fun entry => (entry.1, embed entry.2)) =
      (lookupLast key entries).map embed := by
  induction entries with
  | nil => rfl
  | cons entry entries ih =>
      rw [List.map_cons, Json.member?_cons, ih, lookupLast_cons]
      split_ifs <;> cases lookupLast key entries <;> rfl

theorem scaffold?_eq_bind (library : Library) (id language : String) :
    library.scaffold? id language =
      (lookupLast id library.scaffolds).bind (lookupLast language) := rfl

/-- A scaffold is the last of its language in the last object of its problem. -/
theorem lookupLast_scaffolds_iff {scaffolds : Scaffolds} {id language s : String}
    (same : .object members = scaffoldsJson scaffolds) :
    ((lookupLast id scaffolds).bind (lookupLast language)) = some s ↔
      ∃ texts, Holds members id (.object texts) ∧ Holds texts language (.string s) := by
  obtain rfl := Json.object.inj same
  simp only [← Json.member?_eq_some_iff, member?_ofTable]
  cases lookupLast id scaffolds with
  | none => simp
  | some entries =>
      simp only [Option.map_some, Option.bind_some, Option.some.injEq, Json.ofTable,
        Json.object.injEq, exists_eq_left', member?_ofTable Json.string, Option.map_eq_some_iff,
        Json.string.injEq, exists_eq_right]

/-! ### Languages -/

theorem names_insertMember (key : String) (value : Json) (members : List (String × Json)) :
    (Json.insertMember key value members).map Prod.fst =
      insertSorted key (members.map Prod.fst) := by
  induction members with
  | nil => rfl
  | cons member members ih =>
      obtain ⟨k, v⟩ := member
      rw [Json.insertMember, List.map_cons, insertSorted]
      split_ifs
      · rfl
      · rfl
      · rw [List.map_cons, ih]

/-- The languages are the names of the scaffolds in canonical form. -/
theorem languages_eq (library : Library) (id : String) :
    library.languages id =
      (Json.canonicalMembers (((lookupLast id library.scaffolds).getD []).map fun entry =>
        (entry.1, .string entry.2))).map Prod.fst := by
  rw [languages]
  induction (lookupLast id library.scaffolds).getD [] with
  | nil => rfl
  | cons entry entries ih =>
      rw [List.foldr_cons, ih, List.map_cons, Json.canonicalMembers, names_insertMember]

theorem sorted_languages (library : Library) (id : String) :
    (library.languages id).Pairwise (· < ·) := by
  rw [languages_eq]
  exact List.pairwise_map.mpr (Json.sorted_canonicalMembers _)

theorem nodup_languages (library : Library) (id : String) : (library.languages id).Nodup :=
  (sorted_languages library id).imp ne_of_lt

/-- A language is listed when there is a scaffold in it. -/
theorem mem_languages_iff {library : Library} {id language : String} :
    language ∈ library.languages id ↔ (library.scaffold? id language).isSome = true := by
  rw [scaffold?_eq_bind, languages_eq, ← not_iff_not, ← lookupLast_eq_none_iff,
    lookupLast_eq_member?, Json.member?_canonicalMembers, member?_ofTable]
  cases lookupLast id library.scaffolds with
  | none => simp [lookupLast]
  | some texts => simp

/-! ### The law -/

theorem scaffoldsOf_of_gives {entry : Entry} {scaffolds : Scaffolds} (file : String)
    (gives : entry.Gives scaffoldShape scaffolds) : scaffoldsOf entry file = scaffolds :=
  optionalEntries_of_gives file gives

theorem scaffoldsOf_of_not_gives {entry : Entry} (file : String)
    (nothing : ∀ scaffolds : Scaffolds, ¬ entry.Gives scaffoldShape scaffolds) :
    scaffoldsOf entry file = [] :=
  optionalEntries_of_not_gives file nothing

theorem scaffold?_of_opened {directory : String} {fixtures : Fixtures} {library : Library}
    (opened : ofFixtures directory fixtures = .ok library) (id language : String) :
    library.scaffold? id language =
      (lookupLast id (scaffoldsOf fixtures.scaffolds (joinPath directory scaffoldFile))).bind
        (lookupLast language) := by
  obtain ⟨-, summaries, -, rfl⟩ := ofFixtures_eq_ok_iff.mp opened
  exact scaffold?_eq_bind _ id language

/-- What holds of the scaffolds of a library, whatever is found in their file. -/
structure ScaffoldLaw (fixtures : Fixtures) (library : Library) : Prop where
  /-- In a file that is an object of objects of texts, a scaffold is the last text of its language in
  the last object of its problem. -/
  found : ∀ members, fixtures.scaffolds.HasScaffolds members → ∀ id language s,
    library.scaffold? id language = some s ↔
      ∃ texts, Holds members id (.object texts) ∧ Holds texts language (.string s)
  /-- In any other file there is none: one value of another type, anywhere, is enough. -/
  spoilt : (∀ members, ¬ fixtures.scaffolds.HasScaffolds members) → ∀ id language,
    library.scaffold? id language = none
  /-- The languages stand in the order of their bytes. -/
  ordered : ∀ id, (library.languages id).Pairwise fun one two =>
    Text.encode one.toList < Text.encode two.toList
  distinct : ∀ id, (library.languages id).Nodup
  /-- The languages are those that have a scaffold. -/
  listed : ∀ id language,
    language ∈ library.languages id ↔ (library.scaffold? id language).isSome = true
  /-- In whatever order those languages are drawn, any sorting of them by their bytes gives the list. -/
  anyOrder : ∀ id (keys sorted : List String), keys.Nodup →
    (∀ language, language ∈ keys ↔ (library.scaffold? id language).isSome = true) →
    sorted.Perm keys →
    (sorted.Pairwise fun one two => ¬ Text.encode two.toList < Text.encode one.toList) →
    sorted = library.languages id

/-- The law of scaffolds holds of every library that opens. -/
theorem scaffoldLaw {directory : String} {fixtures : Fixtures} {library : Library}
    (opened : ofFixtures directory fixtures = .ok library) : ScaffoldLaw fixtures library where
  found := by
    intro members has id language s
    obtain ⟨scaffolds, gives, same⟩ := hasScaffolds_iff.mp has
    rw [← lookupLast_scaffolds_iff same, scaffold?_of_opened opened,
      scaffoldsOf_of_gives _ gives]
  spoilt := by
    intro wrong id language
    have nothing : ∀ scaffolds : Scaffolds, ¬ fixtures.scaffolds.Gives scaffoldShape scaffolds :=
      fun scaffolds gives => wrong _ (hasScaffolds_iff.mpr ⟨scaffolds, gives, rfl⟩)
    rw [scaffold?_of_opened opened, scaffoldsOf_of_not_gives _ nothing]
    rfl
  ordered := by
    intro id
    exact (sorted_languages library id).imp Text.lt_iff_encode_lt.mp
  distinct := nodup_languages library
  listed := fun _ _ => mem_languages_iff
  anyOrder := by
    intro id keys sorted distinct drawn rearranged ordered
    have same : sorted.Perm (library.languages id) := by
      refine rearranged.trans ?_
      rw [List.perm_ext_iff_of_nodup distinct (nodup_languages library id)]
      exact fun language => (drawn language).trans mem_languages_iff.symm
    have ordered : sorted.Pairwise (· ≤ ·) := ordered.imp fun late => by
      rwa [← Text.lt_iff_encode_lt, not_lt] at late
    exact same.eq_of_pairwise (fun _ _ _ _ => le_antisymm) ordered
      ((sorted_languages library id).imp le_of_lt)

/-- A directory with a problem whose scaffolds are stored twice, the second time with a language
twice. -/
def twiceStored : Fixtures where
  present := true
  brief := .file (Text.encode "[]".toList)
  detailed := .missing
  scaffolds := .file (Text.encode
    "\x7b\"sum\":\x7b\"c\":\"\"\x7d,\"sum\":\x7b\"py\":\"old\",\"js\":\"b\",\"py\":\"a\"\x7d\x7d".toList)

/-- The library of that directory. -/
def ofTwiceStored : Library where
  directory := "practice"
  summaries := []
  details := []
  scaffolds := [("sum", [("c", "")]), ("sum", [("py", "old"), ("js", "b"), ("py", "a")])]

theorem scaffoldLaw_twiceStored :
    ofFixtures "practice" twiceStored = .ok ofTwiceStored ∧
      ScaffoldLaw twiceStored ofTwiceStored := by
  have brief : twiceStored.brief.Lists [] :=
    Entry.lists_iff.mpr ⟨"[]", by decide +kernel, rfl⟩
  have read : scaffoldsOf twiceStored.scaffolds (joinPath "practice" scaffoldFile) =
      ofTwiceStored.scaffolds := by decide +kernel
  have opened : ofFixtures "practice" twiceStored = .ok ofTwiceStored :=
    ofFixtures_eq_ok_iff.mpr ⟨rfl, [], brief, by rw [read]; rfl⟩
  exact ⟨opened, scaffoldLaw opened⟩

end Library

end StudyDesk
