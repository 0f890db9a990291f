/-
Module: StudyDesk.Proofs.Record.Canonical
Purpose: What stands in the fields of a record that is read from an object in canonical form, said of
  the object as it was before.
Main exports:
  ofJson_text_iff, ofJson_natural_iff, ofJson_texts_iff, fieldGiven_required_iff,
  fieldGiven_defaulted_iff, Shape.ofJson_record_canonical_iff, Fields.Has, Fields.Given.of_has
-/
import StudyDesk.Proofs.Json.Sorted
import StudyDesk.Proofs.Record.Agreement
import StudyDesk.Proofs.Record.Exact

namespace StudyDesk

open Json Record

variable {surplus : Surplus} {members : List (String × Json)} {name : String} {v : Json}

/-! ### Simple values -/

theorem ofJson_text_iff {s : String} :
    Shape.text.ofJson surplus v.canonical = .ok s ↔ v = .string s := by
  constructor
  · intro read
    cases v with
    | string t =>
        obtain rfl := Except.ok.inj read
        rfl
    | null | bool | number | array | object => cases read
  · rintro rfl
    rfl

theorem ofJson_path_iff {s : String} :
    Shape.path.ofJson surplus v.canonical = .ok s ↔ v = .string s := by
  constructor
  · intro read
    cases v with
    | string t =>
        obtain rfl := Except.ok.inj read
        rfl
    | null | bool | number | array | object => cases read
  · rintro rfl
    rfl

theorem ofJson_real_iff {x : Floating} :
    Shape.real.ofJson surplus v.canonical = .ok x ↔ ∃ n, v = .number n ∧ single n = x := by
  constructor
  · intro read
    cases v with
    | number n => exact ⟨n, rfl, Except.ok.inj read⟩
    | null | bool | string | array | object => cases read
  · rintro ⟨n, rfl, rfl⟩
    rfl

theorem natural?_eq_ok_iff {bits n : Nat} {number : Number} :
    natural? bits number = .ok n ↔ number = .integer n ∧ n < Nat.pow 2 bits := by
  cases number with
  | integer i =>
      rw [natural?]
      split_ifs with fits
      · rw [Bool.and_eq_true, decide_eq_true_eq, decide_eq_true_eq] at fits
        simp only [Except.ok.injEq, Number.integer.injEq]
        omega
      · rw [Bool.and_eq_true, decide_eq_true_eq, decide_eq_true_eq] at fits
        simp only [Number.integer.injEq, false_iff]
        omega
  | double x => simp [natural?]
  | single x => simp [natural?]

theorem ofJson_natural_iff {bits n : Nat} :
    (Shape.natural bits).ofJson surplus v.canonical = .ok n ↔ v = .ofNat n ∧ n < Nat.pow 2 bits := by
  constructor
  · intro read
    cases v with
    | number number =>
        obtain ⟨rfl, fits⟩ := natural?_eq_ok_iff.mp read
        exact ⟨rfl, fits⟩
    | null | bool | string | array | object => cases read
  · rintro ⟨rfl, fits⟩
    exact natural?_eq_ok_iff.mpr ⟨rfl, fits⟩

theorem ofJson_ofNat {bits n : Nat} (fits : n < Nat.pow 2 bits) :
    (Shape.natural bits).ofJson surplus (.ofNat n) = .ok n :=
  natural?_eq_ok_iff.mpr ⟨rfl, fits⟩

theorem mapM_text_eq_ok_iff {items : List Json} {texts : List String} :
    (items.map canonical).mapM (Shape.text.ofJson surplus) = .ok texts ↔
      items = texts.map .string := by
  induction items generalizing texts with
  | nil =>
      constructor
      · intro read
        obtain rfl := Except.ok.inj read
        rfl
      · intro none
        rw [List.map_eq_nil_iff.mp none.symm]
        rfl
  | cons item items ih =>
      refine mapM_cons_eq_ok_iff.trans ?_
      constructor
      · rintro ⟨text, first, others, rest, rfl⟩
        rw [ofJson_text_iff.mp first, ih.mp rest]
        rfl
      · intro same
        cases texts with
        | nil => cases same
        | cons text texts =>
            obtain ⟨first, rest⟩ := List.cons.inj same
            exact ⟨text, ofJson_text_iff.mpr first, texts, ih.mpr rest, rfl⟩

theorem ofJson_texts_iff {texts : List String} :
    (Shape.list .text).ofJson surplus v.canonical = .ok texts ↔ v = .ofStrings texts := by
  constructor
  · intro read
    cases v with
    | array items =>
        rw [canonical, canonicalItems_eq_map] at read
        exact congrArg Json.array (mapM_text_eq_ok_iff.mp read)
    | null | bool | number | string | object => cases read
  · rintro rfl
    rw [ofStrings, canonical, canonicalItems_eq_map]
    exact mapM_text_eq_ok_iff.mpr rfl

theorem canonical_ofStrings (texts : List String) : (ofStrings texts).canonical = ofStrings texts := by
  rw [ofStrings, canonical, canonicalItems_eq_map, List.map_map]
  rfl

theorem ofJson_ofStrings (texts : List String) :
    (Shape.list .text).ofJson surplus (.ofStrings texts) = .ok texts := by
  rw [← canonical_ofStrings]
  exact ofJson_texts_iff.mpr rfl

theorem ofJson_nullableText_iff {s? : Option String} :
    (Shape.nullable .text).ofJson surplus v.canonical = .ok s? ↔ v = .ofString? s? := by
  constructor
  · intro read
    cases v with
    | null =>
        obtain rfl := Except.ok.inj read
        rfl
    | string t =>
        obtain rfl := Except.ok.inj read
        rfl
    | bool | number | array | object => cases read
  · rintro rfl
    cases s? <;> rfl

/-! ### Fields -/

section Field

variable {shape : Shape}

theorem lacks_canonicalMembers_iff : Lacks (canonicalMembers members) name ↔ Lacks members name := by
  rw [← member?_eq_none_iff, member?_canonicalMembers, Option.map_eq_none_iff, member?_eq_none_iff]

theorem holds_canonicalMembers_iff {w : Json} :
    Holds (canonicalMembers members) name w ↔ ∃ v, Holds members name v ∧ v.canonical = w := by
  simp only [← member?_eq_some_iff, member?_canonicalMembers, Option.map_eq_some_iff]

theorem fieldGiven_iff {presence : Presence} {value : presence.Value shape.Value} :
    FieldGiven surplus (canonicalMembers members) name presence shape value ↔
      (∃ v, Holds members name v ∧
        presentOf (shape.ofJson surplus) v.canonical presence = .ok value) ∨
      (Lacks members name ∧ presence.absent? = some value) := by
  constructor
  · rintro (⟨found, read⟩ | ⟨lacks, default⟩)
    · obtain ⟨v, holds, rfl⟩ := holds_canonicalMembers_iff.mp (member?_eq_some_iff.mp found)
      exact .inl ⟨v, holds, read⟩
    · exact .inr ⟨lacks_canonicalMembers_iff.mp lacks, default⟩
  · rintro (⟨v, holds, read⟩ | ⟨lacks, default⟩)
    · have holds := holds_canonicalMembers_iff.mpr ⟨v, holds, rfl⟩
      exact .member (member?_eq_some_iff.mpr holds) read
    · exact .absent (lacks_canonicalMembers_iff.mpr lacks) default

theorem fieldGiven_required_iff {data : shape.Value} :
    FieldGiven surplus (canonicalMembers members) name .required shape data ↔
      ∃ v, Holds members name v ∧ shape.ofJson surplus v.canonical = .ok data := by
  refine fieldGiven_iff.trans (or_iff_left ?_)
  rintro ⟨-, default⟩
  cases default

theorem fieldGiven_defaulted_iff {given : Option shape.Value} :
    FieldGiven surplus (canonicalMembers members) name .defaulted shape given ↔
      (∃ v data, given = some data ∧ Holds members name v ∧
        shape.ofJson surplus v.canonical = .ok data) ∨
      (given = none ∧ Lacks members name) := by
  refine fieldGiven_iff.trans (or_congr ?_ ?_)
  · constructor
    · rintro ⟨v, holds, read⟩
      obtain ⟨data, read, same⟩ := map_eq_ok_iff.mp read
      exact ⟨v, data, same.symm, holds, read⟩
    · rintro ⟨v, data, rfl, holds, read⟩
      exact ⟨v, holds, map_eq_ok_iff.mpr ⟨data, read, rfl⟩⟩
  · constructor
    · rintro ⟨lacks, default⟩
      exact ⟨(Option.some.inj default).symm, lacks⟩
    · rintro ⟨rfl, lacks⟩
      exact ⟨lacks, rfl⟩

/-- Only the member of its name matters to a field. -/
theorem FieldGiven.congr {others : List (String × Json)} {presence : Presence}
    {value : presence.Value shape.Value} (same : member? name members = member? name others)
    (given : FieldGiven surplus members name presence shape value) :
    FieldGiven surplus others name presence shape value := by
  cases given with
  | member found read => exact .member (same ▸ found) read
  | absent lacks default =>
      exact .absent (member?_eq_none_iff.mp (same ▸ member?_eq_none_iff.mpr lacks)) default

end Field

/-! ### Records -/

theorem Fields.Given.congr {others : List (String × Json)} : {fields : Fields} →
    {value : fields.Value} → (∀ name ∈ fields.names, member? name members = member? name others) →
    fields.Given surplus members value → fields.Given surplus others value
  | .nil, _, _, _ => trivial
  | .cons _ _ _ _, _, same, ⟨first, rest⟩ =>
      ⟨first.congr (same _ List.mem_cons_self),
        rest.congr fun name listed => same name (List.mem_cons_of_mem _ listed)⟩

theorem Shape.ofJson_record_canonical_iff {title : String} {fields : Fields} {value : fields.Value}
    (distinct : fields.names.Nodup) :
    (Shape.record title fields).ofJson surplus (Json.object members).canonical = .ok value ↔
      fields.Given surplus (canonicalMembers members) value := by
  have once : ∀ name ∈ fields.names, Unrepeated (canonicalMembers members) name := fun name _ =>
    unrepeated_of_nodup (sorted_canonicalMembers members).nodup_names name
  exact (Shape.ofJson_record_iff distinct).trans (and_iff_right once)

theorem Shape.ofJson_openRecord_canonical_iff {title : String} {fields : Fields}
    {value : fields.Value} {extra : List (String × Json)} (distinct : fields.names.Nodup) :
    (Shape.openRecord title fields).ofJson surplus (Json.object members).canonical =
        .ok (value, extra) ↔
      fields.Given surplus (canonicalMembers members) value ∧
        extra = (canonicalMembers members).filter fun m => !fields.names.contains m.1 := by
  have once : ∀ name ∈ fields.names, Unrepeated (canonicalMembers members) name := fun name _ =>
    unrepeated_of_nodup (sorted_canonicalMembers members).nodup_names name
  exact (Shape.ofJson_openRecord_iff distinct).trans (and_congr_left' (and_iff_right once))

/-- One of the fields of a record. -/
inductive Fields.Has (name : String) (presence : Presence) (shape : Shape) : Fields → Prop where
  | here {rest : Fields} : Has name presence shape (.cons name presence shape rest)
  | there {other : String} {presence' : Presence} {shape' : Shape} {rest : Fields}
      (later : Has name presence shape rest) :
      Has name presence shape (.cons other presence' shape' rest)

/-- When a record is given, so is each of its fields. -/
theorem Fields.Given.of_has {presence : Presence} {shape : Shape} {fields : Fields}
    {value : fields.Value} (given : fields.Given surplus members value)
    (has : fields.Has name presence shape) :
    ∃ data, FieldGiven surplus members name presence shape data := by
  induction has with
  | here => exact ⟨_, given.1⟩
  | there _ ih => exact ih given.2

end StudyDesk
