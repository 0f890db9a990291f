/-
Module: StudyDesk.Proofs.Record.Spelling
Purpose: The texts off which texts and lists are read, told by the grammar alone.
Main exports:
  ReadsAs, readsAs_text, readsAs_nullable, readsAs_list, readsAs_defaulted,
  ReadsAs.readAll_eq_ok_iff
-/
import Mathlib.Data.List.Forall2
import StudyDesk.Proofs.Json.Outline
import StudyDesk.Proofs.Record.Agreement

namespace StudyDesk

open Json Record

variable {α : Type} {depth : Nat} {isFirst : Bool} {cs gap core content more rest : List Char}

/-- A reader reads data off exactly the texts that are spelled so, and takes the whole of each. -/
structure ReadsAs (read : List Char → Read α) (spelled : α → List Char → Prop) : Prop where
  isValue : ∀ {x core}, spelled x core → IsValue core
  takes : ∀ {x core gap more}, spelled x core → IsGap gap → EndsNumber more →
    read (gap ++ (core ++ more)) = .ok (x, more)
  exists_core : ∀ {cs x rest}, read cs = .ok (x, rest) →
    ∃ gap core, IsGap gap ∧ spelled x core ∧ cs = gap ++ (core ++ rest)

/-- Behind blanks, what is enclosed shows its first bracket. -/
theorem skipBlanks_enclosed {first last : Char} (blank : IsGap gap)
    (notSpace : isSpace first = false) :
    skipBlanks (gap ++ (first :: (content ++ [last]) ++ more)) =
      first :: (content ++ last :: more) := by
  rw [skipBlanks_append blank, List.cons_append, skipBlanks_cons notSpace, List.append_assoc,
    List.singleton_append]

/-! ### Texts -/

theorem Json.IsString.isValue {s : String} (isString : IsString s core) : IsValue core := by
  obtain ⟨denotes⟩ := isString
  exact .string denotes.isBody

theorem readsAs_text (wanted : String) : ReadsAs (readString wanted) IsString where
  isValue := IsString.isValue
  takes := by
    rintro s _ gap more ⟨denotes⟩ blank -
    simp only [readString, skipBlanks_enclosed blank (show isSpace '"' = false by decide)]
    exact readText_eq_ok_iff.mpr ⟨_, denotes, rfl⟩
  exists_core := by
    intro cs s rest read
    unfold readString at read
    split at read
    case h_1 => cases read
    case h_2 inner shown =>
      obtain ⟨body, denotes, rfl⟩ := readText_eq_ok_iff.mp read
      obtain ⟨gap, split, blank⟩ := exists_gap cs
      exact ⟨gap, _, blank, .mk denotes, by rw [split, shown]; simp⟩
    case h_3 => cases read

/-! ### Values that may be null -/

/-- Null spells that there is no value. -/
inductive IsNullable (spelled : α → List Char → Prop) : Option α → List Char → Prop where
  | null : IsNullable spelled none ['n', 'u', 'l', 'l']
  | some {x : α} {core : List Char} (given : spelled x core) : IsNullable spelled (some x) core

theorem readsAs_nullable {read : List Char → Read α} {spelled : α → List Char → Prop}
    (inner : ReadsAs read spelled)
    (notNull : ∀ {x core}, spelled x core → ∃ c tail, core = c :: tail ∧ c ≠ 'n') :
    ReadsAs (readNullable read) (IsNullable spelled) where
  isValue := by
    rintro x core (_ | given)
    · exact .word (by simp)
    · exact inner.isValue given
  takes := by
    rintro x core gap more (_ | @⟨x, _, given⟩) blank ends
    · have isValue : IsValue ['n', 'u', 'l', 'l'] := .word (by simp)
      have shown := skipBlanks_value isValue blank more
      simp only [List.cons_append, List.nil_append] at shown
      simp [readNullable, shown, readWord, Except.map]
    · have shown := skipBlanks_value (inner.isValue given) blank more
      have read := inner.takes given blank ends
      obtain ⟨c, tail, rfl, other⟩ := notNull given
      rw [List.cons_append] at shown
      simp only [List.cons_append] at read
      simp [readNullable, shown, other, read, Except.map]
  exists_core := by
    intro cs x rest read
    unfold readNullable at read
    split at read
    case h_1 inner shown =>
      obtain ⟨after, word, same⟩ := map_eq_ok_iff.mp read
      obtain ⟨rfl, rfl⟩ := Prod.mk.inj same
      obtain ⟨gap, split, blank⟩ := exists_gap cs
      rw [shown, readWord_eq_ok_iff.mp word] at split
      exact ⟨gap, _, blank, .null, split⟩
    case h_2 =>
      obtain ⟨⟨y, after⟩, taken, same⟩ := map_eq_ok_iff.mp read
      obtain ⟨rfl, rfl⟩ := Prod.mk.inj same
      obtain ⟨gap, core, blank, given, split⟩ := inner.exists_core taken
      exact ⟨gap, core, blank, .some given, split⟩

/-! ### Lists -/

/-- An array spells the list of what its items spell. -/
inductive IsListOf (spelled : α → List Char → Prop) : List α → List Char → Prop where
  | mk {values : List α} {items : List (List Char)} {core : List Char}
      (isArray : IsArray items core) (each : List.Forall₂ spelled values items) :
      IsListOf spelled values core

theorem isListOf_map_iff {β : Type} {spelled : α → List Char → Prop} {f : β → α} {values : List β} :
    IsListOf spelled (values.map f) core ↔ IsListOf (fun x => spelled (f x)) values core := by
  constructor
  · rintro ⟨isArray, each⟩
    exact ⟨isArray, List.forall₂_map_left_iff.mp each⟩
  · rintro ⟨isArray, each⟩
    exact ⟨isArray, List.forall₂_map_left_iff.mpr each⟩

variable {read : List Char → Read α} {spelled : α → List Char → Prop}

theorem ReadsAs.itemsRead (inner : ReadsAs read spelled) {items : List (List Char)}
    {values : List α} (arranged : Arranged (fun item => item) isFirst items content)
    (each : List.Forall₂ spelled values items) (more : List Char) :
    ItemsRead read isFirst (content ++ ']' :: more) values more := by
  induction arranged generalizing values with
  | close blank =>
      obtain rfl := List.forall₂_nil_right_iff.mp each
      refine .close ?_
      rw [skipBlanks_append blank, skipBlanks_cons (by decide)]
  | @cons isFirst front content item items lead others ih =>
      obtain ⟨x, values, given, eachLater, rfl⟩ := List.forall₂_cons_right_iff.mp each
      obtain ⟨c, tail, rfl, notSpace, notClose⟩ := (inner.isValue given).head
      have part := lead.partAt notSpace (tail ++ (content ++ ']' :: more))
      have ends : EndsNumber (content ++ ']' :: more) := others.endsNumber (by decide) more
      have taken := inner.takes given (List.forall_mem_nil _) ends
      simp only [List.append_assoc, List.cons_append] at part taken ⊢
      exact .cons part notClose taken (ih eachLater)

/-- Where no blank stands there is no gap. -/
theorem Json.IsGap.eq_nil {c : Char} {inner : List Char} (blank : IsGap gap)
    (notSpace : isSpace c = false) (same : c :: inner = gap ++ cs) : gap = [] := by
  cases gap with
  | nil => rfl
  | cons d gap =>
      obtain ⟨rfl, -⟩ := List.cons.inj same
      exact absurd (blank c List.mem_cons_self) (by simp [notSpace])

theorem ReadsAs.exists_items (inner : ReadsAs read spelled) {values : List α}
    (items : ItemsRead read isFirst cs values rest) :
    ∃ items content, Arranged (fun item => item) isFirst items content ∧
      List.Forall₂ spelled values items ∧ cs = content ++ ']' :: rest := by
  induction items with
  | @close isFirst cs rest shown =>
      obtain ⟨gap, split, blank⟩ := exists_gap cs
      exact ⟨[], gap, .close blank, .nil, shown ▸ split⟩
  | @cons isFirst cs here later rest c x values part notClose taken others ih =>
      obtain ⟨gap, core, blank, given, split⟩ := inner.exists_core taken
      obtain ⟨items, content, arranged, each, rfl⟩ := ih
      obtain ⟨front, lead, before⟩ := part.exists_lead
      obtain rfl := blank.eq_nil part.isSpace_eq_false split
      exact ⟨core :: items, front ++ (core ++ content), .cons lead arranged, .cons given each,
        by rw [before, split]; simp⟩

theorem exists_of_each {values : List α} {items : List (List Char)} {item : List Char}
    (each : List.Forall₂ spelled values items) (listed : item ∈ items) : ∃ x, spelled x item := by
  induction each with
  | nil => cases listed
  | @cons x _ _ _ given _ ih =>
      rcases List.mem_cons.mp listed with rfl | later
      · exact ⟨x, given⟩
      · exact ih later

theorem ReadsAs.isValue_of_each (inner : ReadsAs read spelled) {values : List α}
    {items : List (List Char)} (each : List.Forall₂ spelled values items) :
    ∀ item ∈ items, IsValue item := by
  intro item listed
  obtain ⟨x, given⟩ := exists_of_each each listed
  exact inner.isValue given

theorem readsAs_list {shape : Shape} {spelled : shape.Value → List Char → Prop}
    (inner : ReadsAs (shape.read depth) spelled) :
    ReadsAs ((Shape.list shape).read (depth + 1)) (IsListOf spelled) where
  isValue := by
    rintro values core ⟨isArray, -⟩
    exact isArray.isValue
  takes := by
    rintro values core gap more ⟨⟨arranged, isValue⟩, each⟩ blank -
    have few := arranged.length_le fun item listed => (isValue item listed).nonempty
    simp only [Shape.read, skipBlanks_enclosed blank (show isSpace '[' = false by decide), enter]
    refine readItems_eq_ok_iff.mpr ⟨inner.itemsRead arranged each more, ?_⟩
    rw [each.length_eq, List.length_append]
    omega
  exists_core := by
    intro cs values rest read
    rw [Shape.read] at read
    split at read
    case h_1 => cases read
    case h_2 here shown =>
      obtain ⟨gap, split, blank⟩ := exists_gap cs
      obtain ⟨items, content, arranged, each, rfl⟩ :=
        inner.exists_items (readItems_eq_ok_iff.mp read).1
      have isArray : IsArray items _ := .mk arranged (inner.isValue_of_each each)
      exact ⟨gap, _, blank, .mk isArray each, by rw [split, shown]; simp⟩
    case h_3 => cases read

/-! ### Presence -/

section Presence

variable {shape : Shape} {spelled : shape.Value → List Char → Prop}

/-- A default takes the place of what is absent, but not of null. -/
def IsGiven (spelled : α → List Char → Prop) : Option α → List Char → Prop
  | some x, core => spelled x core
  | none, _ => False

theorem readsAs_defaulted (inner : ReadsAs (shape.read depth) spelled) :
    ReadsAs (fun cs => readPresent (shape.read depth) cs .defaulted) (IsGiven spelled) where
  isValue := by
    rintro (_ | x) core given
    · cases given
    · exact inner.isValue given
  takes := by
    rintro (_ | x) core gap more given blank ends
    · cases given
    · exact map_eq_ok_iff.mpr ⟨_, inner.takes given blank ends, rfl⟩
  exists_core := by
    intro cs x rest read
    obtain ⟨⟨y, after⟩, taken, same⟩ := map_eq_ok_iff.mp read
    obtain ⟨rfl, rfl⟩ := Prod.mk.inj same
    exact inner.exists_core taken

end Presence

/-! ### Whole texts -/

/-- A whole text is read as data exactly when it spells them between blanks. -/
theorem ReadsAs.readAll_eq_ok_iff {shape : Shape} {spelled : shape.Value → List Char → Prop}
    (reads : ReadsAs (shape.read depthLimit) spelled) {x : shape.Value} :
    shape.readAll cs = .ok x ↔ ∃ core, spelled x core ∧ IsBetweenGaps core cs := by
  rw [Shape.readAll_eq_ok_iff]
  constructor
  · rintro ⟨gap', read, ended⟩
    obtain ⟨gap, core, blank, given, rfl⟩ := reads.exists_core read
    have blank' : IsGap gap' := all_isSpace_of_skipBlanks (complete_eq_ok_iff.mp ended)
    exact ⟨core, given, gap, gap', blank, blank', rfl⟩
  · rintro ⟨core, given, gap, gap', blank, blank', rfl⟩
    refine ⟨gap', reads.takes given blank (endsNumber_of_isGap blank'), complete_eq_ok_iff.mpr ?_⟩
    exact List.dropWhile_eq_nil_iff.mpr blank'

/-- A text spells one datum. -/
theorem ReadsAs.functional {read : List Char → Read α} {spelled : α → List Char → Prop}
    (reads : ReadsAs read spelled) {x y : α} (one : spelled x core) (two : spelled y core) :
    x = y := by
  have ends : EndsNumber [] := by simp [EndsNumber]
  have taken := reads.takes one (List.forall_mem_nil _) ends
  rw [reads.takes two (List.forall_mem_nil _) ends] at taken
  exact (Prod.mk.inj (Except.ok.inj taken)).1.symm

end StudyDesk
