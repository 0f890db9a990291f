/-
Module: StudyDesk.Proofs.Practice.Fixtures
Purpose: What is wrong in one file of a library, or in one record of it, does not reach the others.
Main exports:
  Entry.Lists, Entry.Gives, Entry.IsObject, Library.lookupLast_rightDetails, Library.visit,
  Library.foldl_visit, Library.FixtureLaw, Library.fixtureLaw
-/
import Mathlib.Data.List.Nodup
import Mathlib.Logic.Function.Basic
import StudyDesk.Proofs.Json.Canonical
import StudyDesk.Proofs.Practice.Listing
import StudyDesk.Proofs.Record.Kept

namespace StudyDesk

/-! ### What a file gives -/

/-- A file has a text, and the data of a shape are read off it. -/
def Entry.Gives (entry : Entry) (shape : Shape) (value : shape.Value) : Prop :=
  ∃ text, entry.text = .ok text ∧ shape.readAll text.toList = .ok value

/-- A file has a text, and the text is an object with these members. -/
def Entry.IsObject (entry : Entry) (members : List (String × Json)) : Prop :=
  ∃ text, entry.text = .ok text ∧ Json.parse text.toList = .ok (.object members)

/-- A file has a text, and the text lists problems: an array of entries, between blanks. -/
def Entry.Lists (entry : Entry) (summaries : List Summary) : Prop :=
  ∃ text core, entry.text = .ok text ∧ IsListOf Summary.IsEntry summaries core ∧
    Json.IsBetweenGaps core text.toList

theorem Entry.lists_iff {entry : Entry} {summaries : List Summary} :
    entry.Lists summaries ↔ entry.Gives Library.briefShape (summaries.map Summary.toParts) := by
  simp only [Entry.Lists, Entry.Gives, Summary.readAll_eq_ok_iff, exists_and_left]

/-- A file lists the same problems to everyone. -/
theorem Entry.Lists.unique {entry : Entry} {summaries others : List Summary}
    (one : entry.Lists summaries) (two : entry.Lists others) : summaries = others := by
  obtain ⟨text, has, read⟩ := lists_iff.mp one
  obtain ⟨text', has', read'⟩ := lists_iff.mp two
  obtain rfl := Except.ok.inj (has.symm.trans has')
  have same := Summary.map_toParts_eq_iff.mp (Except.ok.inj (read.symm.trans read'))
  exact same.trans (Summary.map_toParts_eq_iff.mp rfl).symm

/-- A file gives what its value shows, where the shape drops nothing. -/
theorem Entry.gives_iff {entry : Entry} {shape : Shape} {embed : shape.Value → Json}
    (keeps : shape.Keeps embed) {value : shape.Value} :
    entry.Gives shape value ↔
      ∃ text, entry.text = .ok text ∧ Json.parse text.toList = .ok (embed value) := by
  simp only [Entry.Gives, keeps.readAll_iff]

theorem Entry.gives_detailedShape_iff {entry : Entry} {members : List (String × Json)} :
    entry.Gives Library.detailedShape members ↔ entry.IsObject members := by
  have keeps : Library.detailedShape.Keeps (Json.ofTable (α := Json) id) :=
    keeps_table keeps_anything
  have whole : Json.ofTable id members = .object members :=
    congrArg Json.object (List.map_id members)
  refine (Entry.gives_iff keeps).trans ?_
  rw [whole, Entry.IsObject]

namespace Library

variable {α : Type} {id key : String}

/-! ### What stands last -/

theorem lookupLast_cons (key : String) (entry : String × α) (entries : List (String × α)) :
    lookupLast key (entry :: entries) =
      (lookupLast key entries).or (if entry.1 = key then some entry.2 else none) := by
  rw [lookupLast, List.reverse_cons, List.lookup_append, ← lookupLast]
  by_cases named : entry.1 = key
  · subst named
    rw [List.lookup_cons_self, if_pos rfl]
  · have other : (key == entry.1) = false := by simpa using Ne.symm named
    rw [List.lookup_cons, other, if_neg named]
    rfl

theorem lookupLast_eq_none_iff {entries : List (String × α)} :
    lookupLast key entries = none ↔ key ∉ entries.map Prod.fst := by
  induction entries with
  | nil => simp [lookupLast]
  | cons entry entries ih =>
      rw [lookupLast_cons, Option.or_eq_none_iff, ih, List.map_cons, List.mem_cons, not_or,
        and_comm]
      simp [eq_comm]

/-- The last member of a name counts. -/
theorem lookupLast_eq_member? (key : String) (members : List (String × Json)) :
    lookupLast key members = Json.member? key members := by
  induction members with
  | nil => rfl
  | cons member members ih =>
      rw [lookupLast_cons, ih, Json.member?]
      cases Json.member? key members <;> rfl

/-- Where no name repeats, a name stands for the only member that it has. -/
theorem lookupLast_eq_some_iff_mem {entries : List (String × α)} {value : α}
    (distinct : (entries.map Prod.fst).Nodup) :
    lookupLast key entries = some value ↔ (key, value) ∈ entries := by
  induction entries with
  | nil => simp [lookupLast]
  | cons entry entries ih =>
      obtain ⟨name, given⟩ := entry
      obtain ⟨fresh, distinct⟩ := List.nodup_cons.mp distinct
      rw [lookupLast_cons, List.mem_cons, Prod.mk.injEq]
      by_cases named : name = key
      · subst named
        have absent : (name, value) ∉ entries := fun listed =>
          fresh (List.mem_map.mpr ⟨_, listed, rfl⟩)
        rw [lookupLast_eq_none_iff.mpr fresh, if_pos rfl, Option.none_or, Option.some.injEq]
        simp [absent, eq_comm]
      · rw [if_neg named, Option.or_none, ih distinct]
        simp [Ne.symm named]

theorem mem_names_lastOfEach {entries : List (String × α)}
    (listed : key ∈ (lastOfEach entries).map Prod.fst) : key ∈ entries.map Prod.fst := by
  induction entries with
  | nil => exact listed
  | cons entry entries ih =>
      rw [lastOfEach] at listed
      split_ifs at listed
      · exact List.mem_cons_of_mem _ (ih listed)
      · rcases List.mem_cons.mp listed with same | later
        · exact same ▸ List.mem_cons_self
        · exact List.mem_cons_of_mem _ (ih later)

theorem lookup_isSome_iff_mem {entries : List (String × α)} :
    (entries.lookup key).isSome = true ↔ key ∈ entries.map Prod.fst := by
  simp only [List.lookup_isSome_iff, List.mem_map, beq_iff_eq]
  exact exists_congr fun entry => and_congr_right fun _ => eq_comm

theorem nodup_lastOfEach (entries : List (String × α)) :
    ((lastOfEach entries).map Prod.fst).Nodup := by
  induction entries with
  | nil => exact List.nodup_nil
  | cons entry entries ih =>
      rw [lastOfEach]
      split_ifs with repeated
      · exact ih
      · refine List.nodup_cons.mpr ⟨fun later => repeated ?_, ih⟩
        exact lookup_isSome_iff_mem.mpr (mem_names_lastOfEach later)

/-- The members that are left out do not count. -/
theorem lookupLast_lastOfEach (key : String) (entries : List (String × α)) :
    lookupLast key (lastOfEach entries) = lookupLast key entries := by
  induction entries with
  | nil => rfl
  | cons entry entries ih =>
      obtain ⟨name, value⟩ := entry
      rw [lastOfEach, lookupLast_cons]
      split_ifs with repeated named named
      · subst named
        have later : lookupLast name entries ≠ none := fun absent =>
          lookupLast_eq_none_iff.mp absent (lookup_isSome_iff_mem.mp repeated)
        rw [ih]
        cases found : lookupLast name entries with
        | none => exact absurd found later
        | some last => rfl
      · rw [ih, Option.or_none]
      · rw [lookupLast_cons, ih, if_pos named]
      · rw [lookupLast_cons, ih, if_neg named]

/-! ### Records that are right -/

/-- The record of a value, if the value is right. -/
def right? (value : Json) : Option Detail := (Detail.ofJson value).toOption

theorem right?_eq_some_iff {value : Json} {detail : Detail} :
    right? value = some detail ↔ Detail.ofJson value = .ok detail := by
  unfold right?
  cases Detail.ofJson value <;> simp [Except.toOption]

theorem lookupLast_filterMap {entries : List (String × Json)}
    (distinct : (entries.map Prod.fst).Nodup) :
    lookupLast id (entries.filterMap fun entry => (right? entry.2).map (entry.1, ·)) =
      (lookupLast id entries).bind right? := by
  induction entries with
  | nil => rfl
  | cons entry entries ih =>
      obtain ⟨fresh, distinct⟩ := List.nodup_cons.mp distinct
      rw [lookupLast_cons, List.filterMap_cons]
      by_cases named : entry.1 = id
      · subst named
        have later := ih distinct
        rw [lookupLast_eq_none_iff.mpr fresh] at later ⊢
        cases shown : right? entry.2 with
        | none => simpa [shown] using later
        | some detail => simp [shown, lookupLast_cons, later]
      · rw [if_neg named, Option.or_none, ← ih distinct]
        cases shown : right? entry.2 with
        | none => rfl
        | some detail => simp [lookupLast_cons, named]

/-- Under an identifier is the record of what stands last under it, if that is right. -/
theorem lookupLast_rightDetails (id : String) (members : List (String × Json)) :
    lookupLast id (rightDetails members) = (Json.member? id members).bind right? := by
  rw [← lookupLast_eq_member?, ← lookupLast_lastOfEach id members]
  exact lookupLast_filterMap (nodup_lastOfEach members)

/-- A record is put under its identifier if it is right, and is passed over if it is not. -/
def visit (found : String → Option Detail) (entry : String × Json) : String → Option Detail :=
  match Detail.ofJson entry.2 with
  | .ok detail => Function.update found entry.1 (some detail)
  | .error _ => found

theorem visit_apply (found : String → Option Detail) (entry : String × Json) (id : String) :
    visit found entry id =
      ((if entry.1 = id then some entry.2 else none).bind right?).or (found id) := by
  unfold visit
  cases decoded : Detail.ofJson entry.2 with
  | error fault =>
      have wrong : right? entry.2 = none := by rw [right?, decoded]; rfl
      split_ifs
      · rw [Option.bind_some, wrong, Option.none_or]
      · rfl
  | ok detail =>
      dsimp only
      split_ifs with named
      · rw [Option.bind_some, right?_eq_some_iff.mpr decoded, ← named, Function.update_self,
          Option.some_or]
      · rw [Function.update_of_ne (Ne.symm named)]
        rfl

/-- When the records of different identifiers have been visited, each in its turn, those that are
right are found. -/
theorem foldl_visit {order : List (String × Json)} (distinct : (order.map Prod.fst).Nodup)
    (found : String → Option Detail) (id : String) :
    order.foldl visit found id = ((lookupLast id order).bind right?).or (found id) := by
  induction order generalizing found with
  | nil => rfl
  | cons entry order ih =>
      obtain ⟨fresh, distinct⟩ := List.nodup_cons.mp distinct
      rw [List.foldl_cons, ih distinct, visit_apply, lookupLast_cons]
      by_cases named : entry.1 = id
      · subst named
        rw [lookupLast_eq_none_iff.mpr fresh]
        rfl
      · rw [if_neg named, Option.or_none]
        rfl

/-! ### Opening -/

variable {directory : String} {fixtures : Fixtures} {library : Library}

theorem readFile_eq_ok_iff {shape : Shape} {file : String} {entry : Entry} {value : shape.Value} :
    readFile shape file entry = .ok value ↔ entry.Gives shape value := by
  unfold readFile Entry.Gives
  cases entry.text with
  | error fault => simp
  | ok text =>
      cases read : shape.readAll text.toList with
      | error failure => simp [read]
      | ok found => simp [read]

/-- The entries of a file that may be missing are those that it gives. -/
theorem optionalEntries_of_gives {shape : Shape} {entry : Entry}
    {entries : List (String × shape.Value)} (file : String)
    (gives : entry.Gives (.table shape) entries) :
    optionalEntries (readFile (.table shape) file entry) = entries := by
  rw [readFile_eq_ok_iff.mpr gives]
  rfl

theorem optionalEntries_of_not_gives {shape : Shape} {entry : Entry} (file : String)
    (nothing : ∀ entries : List (String × shape.Value), ¬ entry.Gives (.table shape) entries) :
    optionalEntries (readFile (.table shape) file entry) = [] := by
  cases read : readFile (.table shape) file entry with
  | error fault => rfl
  | ok entries => exact absurd (readFile_eq_ok_iff.mp read) (nothing entries)

/-- The records of the file of records, if it is an object. -/
def recordsOf (entry : Entry) (file : String) : List (String × Json) :=
  optionalEntries (α := Json) (readFile detailedShape file entry)

theorem recordsOf_of_isObject {entry : Entry} {members : List (String × Json)} (file : String)
    (isObject : entry.IsObject members) : recordsOf entry file = members :=
  optionalEntries_of_gives file (Entry.gives_detailedShape_iff.mpr isObject)

theorem recordsOf_of_not_isObject {entry : Entry} (file : String)
    (noObject : ∀ members, ¬ entry.IsObject members) : recordsOf entry file = [] :=
  optionalEntries_of_not_gives file fun members gives =>
    noObject members (Entry.gives_detailedShape_iff.mp gives)

/-- The scaffolds of the file of scaffolds, if nothing in it is wrong. -/
def scaffoldsOf (entry : Entry) (file : String) : Scaffolds :=
  optionalEntries (α := List (String × String)) (readFile scaffoldShape file entry)

/-- A library is open when the list of problems is read; each of its parts is made from one file. -/
theorem ofFixtures_eq_ok_iff :
    ofFixtures directory fixtures = .ok library ↔
      fixtures.present = true ∧ ∃ summaries, fixtures.brief.Lists summaries ∧
        library =
          { directory := directory
            summaries := summaries
            details := rightDetails (recordsOf fixtures.detailed (joinPath directory detailedFile))
            scaffolds :=
              scaffoldsOf fixtures.scaffolds (joinPath directory scaffoldFile) } := by
  unfold ofFixtures
  cases fixtures.present with
  | false => simp
  | true =>
      simp only [Bool.not_true, Bool.false_eq_true, if_false, true_and, bind_eq_ok_iff,
        readFile_eq_ok_iff, Except.ok.injEq]
      constructor
      · rintro ⟨parts, gives, rfl⟩
        have same := Summary.map_toParts_eq_iff.mpr (rfl : parts.map Summary.ofParts = _)
        exact ⟨parts.map Summary.ofParts, Entry.lists_iff.mpr (same.symm ▸ gives), rfl⟩
      · rintro ⟨summaries, lists, rfl⟩
        have same := Summary.map_toParts_eq_iff.mp (rfl : summaries.map Summary.toParts = _)
        exact ⟨_, Entry.lists_iff.mp lists, same ▸ rfl⟩

theorem detail?_eq_bind (opened : ofFixtures directory fixtures = .ok library)
    {members : List (String × Json)} (isObject : fixtures.detailed.IsObject members)
    (id : String) : library.detail? id = (Json.member? id members).bind right? := by
  obtain ⟨-, summaries, -, rfl⟩ := ofFixtures_eq_ok_iff.mp opened
  rw [detail?, recordsOf_of_isObject _ isObject, lookupLast_rightDetails]

/-- Only the records under an identifier decide what stands last under it. -/
theorem member?_filter (id : String) (members : List (String × Json)) :
    Json.member? id (members.filter (·.1 = id)) = Json.member? id members :=
  (Json.member?_filter_name (fun name => name = id) id members).trans
    (if_pos (decide_eq_true rfl))

/-- What holds of every library, whatever is found in its three files. -/
structure FixtureLaw (directory : String) (fixtures : Fixtures) : Prop where
  /-- The directory and the list of problems alone decide whether the library opens. -/
  opens : (∃ library, ofFixtures directory fixtures = .ok library) ↔
    fixtures.present = true ∧ ∃ summaries, fixtures.brief.Lists summaries
  /-- The problems are those that the file lists, in its order and with their repetitions. -/
  summaries : ∀ library, ofFixtures directory fixtures = .ok library →
    ∀ summaries, fixtures.brief.Lists summaries ↔ library.summaries = summaries
  /-- An array of values that are entries gives these problems. -/
  items : ∀ text items summaries, fixtures.present = true → fixtures.brief.text = .ok text →
    Json.parse text.toList = .ok (.array items) → List.Forall₂ Summary.Decodes summaries items →
    ∃ library, ofFixtures directory fixtures = .ok library ∧ library.summaries = summaries
  /-- Under an identifier is the last record that is stored under it, if that record is right. -/
  details : ∀ library members, ofFixtures directory fixtures = .ok library →
    fixtures.detailed.IsObject members → ∀ id detail,
      library.detail? id = some detail ↔
        ∃ value, Json.Holds members id value ∧ Detail.ofJson value = .ok detail
  /-- Records under other identifiers may be replaced, added or removed. -/
  others : ∀ library members entry changed, ofFixtures directory fixtures = .ok library →
    fixtures.detailed.IsObject members → Entry.IsObject entry changed → ∀ id,
      changed.filter (·.1 = id) = members.filter (·.1 = id) →
      ∃ now, ofFixtures directory { fixtures with detailed := entry } = .ok now ∧
        now.detail? id = library.detail? id
  /-- The last records of the identifiers may be visited in any order. -/
  order : ∀ library members (order : List (String × Json)),
    ofFixtures directory fixtures = .ok library → fixtures.detailed.IsObject members →
    (order.map Prod.fst).Nodup → (∀ id value, (id, value) ∈ order ↔ Json.Holds members id value) →
    order.foldl visit (fun _ => none) = library.detail?
  /-- A file of records that is no object, or no text, has no record. -/
  unreadable : ∀ library, ofFixtures directory fixtures = .ok library →
    (∀ members, ¬ fixtures.detailed.IsObject members) → ∀ id, library.detail? id = none
  /-- The file of records is for the records only. -/
  recordsApart : ∀ library entry, ofFixtures directory fixtures = .ok library →
    ∃ now, ofFixtures directory { fixtures with detailed := entry } = .ok now ∧
      now.summaries = library.summaries ∧ now.scaffold? = library.scaffold? ∧
      now.languages = library.languages
  /-- The file of scaffolds is for the scaffolds only. -/
  scaffoldsApart : ∀ library entry, ofFixtures directory fixtures = .ok library →
    ∃ now, ofFixtures directory { fixtures with scaffolds := entry } = .ok now ∧
      now.summaries = library.summaries ∧ now.detail? = library.detail?

/-- The law of libraries holds of whatever is found in a directory. -/
theorem fixtureLaw (directory : String) (fixtures : Fixtures) :
    FixtureLaw directory fixtures where
  opens := by
    constructor
    · rintro ⟨library, opened⟩
      obtain ⟨present, summaries, lists, -⟩ := ofFixtures_eq_ok_iff.mp opened
      exact ⟨present, summaries, lists⟩
    · rintro ⟨present, summaries, lists⟩
      exact ⟨_, ofFixtures_eq_ok_iff.mpr ⟨present, summaries, lists, rfl⟩⟩
  summaries := by
    intro library opened summaries
    obtain ⟨-, found, listed, rfl⟩ := ofFixtures_eq_ok_iff.mp opened
    constructor
    · exact fun lists => listed.unique lists
    · rintro rfl
      exact listed
  items := by
    intro text items summaries present has parsed each
    have read : briefShape.readAll text.toList = .ok (summaries.map Summary.toParts) :=
      Shape.readAll_of_parse parsed (Summary.mapM_ofJson each)
    have lists : fixtures.brief.Lists summaries := Entry.lists_iff.mpr ⟨text, has, read⟩
    exact ⟨_, ofFixtures_eq_ok_iff.mpr ⟨present, summaries, lists, rfl⟩, rfl⟩
  details := by
    intro library members opened isObject id detail
    simp only [detail?_eq_bind opened isObject, Option.bind_eq_some_iff, Json.member?_eq_some_iff,
      right?_eq_some_iff]
  others := by
    intro library members entry changed opened isObject isChanged id same
    obtain ⟨present, summaries, lists, -⟩ := ofFixtures_eq_ok_iff.mp opened
    have again : ofFixtures directory { fixtures with detailed := entry } = .ok _ :=
      ofFixtures_eq_ok_iff.mpr ⟨present, summaries, lists, rfl⟩
    refine ⟨_, again, ?_⟩
    rw [detail?_eq_bind again isChanged, detail?_eq_bind opened isObject, ← member?_filter, same,
      member?_filter]
  order := by
    intro library members order opened isObject distinct lists
    funext id
    have last : lookupLast id order = Json.member? id members := by
      refine Option.ext fun value => ?_
      rw [lookupLast_eq_some_iff_mem distinct, lists, Json.member?_eq_some_iff]
    rw [foldl_visit distinct, last, Option.or_none, detail?_eq_bind opened isObject]
  unreadable := by
    intro library opened noObject id
    obtain ⟨-, summaries, -, rfl⟩ := ofFixtures_eq_ok_iff.mp opened
    rw [detail?, recordsOf_of_not_isObject _ noObject]
    rfl
  recordsApart := by
    intro library entry opened
    obtain ⟨present, summaries, lists, rfl⟩ := ofFixtures_eq_ok_iff.mp opened
    exact ⟨_, ofFixtures_eq_ok_iff.mpr ⟨present, summaries, lists, rfl⟩, rfl, rfl, rfl⟩
  scaffoldsApart := by
    intro library entry opened
    obtain ⟨present, summaries, lists, rfl⟩ := ofFixtures_eq_ok_iff.mp opened
    exact ⟨_, ofFixtures_eq_ok_iff.mpr ⟨present, summaries, lists, rfl⟩, rfl, rfl⟩

end Library

end StudyDesk
