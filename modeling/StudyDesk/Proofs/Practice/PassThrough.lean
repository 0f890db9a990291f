/-
Module: StudyDesk.Proofs.Practice.PassThrough
Purpose: A problem record is printed as it was stored, but for three members that are filled in.
Main exports:
  Detail.Decodes, Detail.ofJson_object_iff, Detail.Decodes.toJson_canonical, Detail.PassThroughLaw,
  Detail.passThroughLaw
-/
import StudyDesk.Proofs.Program.Printing
import StudyDesk.Proofs.Record.Canonical

namespace StudyDesk

open Json (Holds Lacks member? canonical canonicalMembers Readable)

/-!
The fields of a record, the members beside them and the defaults share one object.  It is taken apart
and put together again by name, so everything here is said by name: what an object must hold to be
decoded, and what is held by the object that is printed.
-/

namespace Detail

variable {members : List (String × Json)} {d : Detail} {name : String}

/-! ### Decoding -/

/-- The fields that every record must have. -/
def neededNames : List String :=
  ["title", "topic", "difficulty", "function", "return", "statement"]

/-- The fields that may be null. -/
def sampleNames : List String := ["sample_input", "sample_output"]

/-- The members beside the fields, in canonical form. -/
def besideMembers (members : List (String × Json)) : List (String × Json) :=
  (canonicalMembers members).filter fun m => !fields.names.contains m.1

/-- An object with these members stands for the record. -/
structure Decodes (members : List (String × Json)) (d : Detail) : Prop where
  title : Holds members "title" (.string d.title)
  topic : Holds members "topic" (.string d.topic)
  difficulty : Holds members "difficulty" (.string d.difficulty)
  function : Holds members "function" (.string d.function)
  inputs : Holds members "inputs" (.ofStrings d.inputs) ∨ (d.inputs = [] ∧ Lacks members "inputs")
  returnType : Holds members "return" (.string d.returnType)
  statement : Holds members "statement" (.string d.statement)
  sampleInput : Holds members "sample_input" (.ofString? d.sampleInput) ∨
    (d.sampleInput = none ∧ Lacks members "sample_input")
  sampleOutput : Holds members "sample_output" (.ofString? d.sampleOutput) ∨
    (d.sampleOutput = none ∧ Lacks members "sample_output")
  extra : d.extra = besideMembers members

/-! #### The members beside the fields -/

theorem member?_besideMembers_of_field (field : name ∈ fields.names)
    (members : List (String × Json)) : member? name (besideMembers members) = none := by
  have known : fields.names.contains name = true := List.contains_iff_mem.mpr field
  rw [besideMembers, Json.member?_filter_name (fun name => !fields.names.contains name), known]
  rfl

theorem member?_besideMembers_of_not_field (other : name ∉ fields.names)
    (members : List (String × Json)) :
    member? name (besideMembers members) = (member? name members).map canonical := by
  have beside : fields.names.contains name = false := by simpa using other
  rw [besideMembers, Json.member?_filter_name (fun name => !fields.names.contains name), beside,
    Json.member?_canonicalMembers]
  rfl

theorem sorted_besideMembers (members : List (String × Json)) :
    Json.Sorted (besideMembers members) :=
  Json.sorted_filter _ members

theorem canonicalMembers_besideMembers (members : List (String × Json)) :
    canonicalMembers (besideMembers members) = besideMembers members := by
  refine (sorted_besideMembers members).canonicalMembers_eq fun member listed => ?_
  obtain ⟨v, -, same⟩ := Json.mem_canonicalMembers (List.mem_filter.mp listed).1
  rw [same, Json.canonical_canonical]

/-! #### The fields -/

section Fields

variable {surplus : Surplus}

theorem fieldGiven_text_iff {s : String} :
    FieldGiven surplus (canonicalMembers members) name .required .text s ↔
      Holds members name (.string s) := by
  refine fieldGiven_required_iff.trans ?_
  simp only [ofJson_text_iff]
  exact ⟨fun ⟨v, holds, same⟩ => same ▸ holds, fun holds => ⟨_, holds, rfl⟩⟩

/-- A field that may be absent holds what is written in it, or the default. -/
theorem getD_of_fieldGiven {shape : Shape} {given : Option shape.Value} {write : shape.Value → Json}
    (reads : ∀ v data, shape.ofJson surplus v.canonical = .ok data → v = write data)
    (default : shape.Value)
    (found : FieldGiven surplus (canonicalMembers members) name .defaulted shape given) :
    Holds members name (write (given.getD default)) ∨
      (given.getD default = default ∧ Lacks members name) := by
  rcases fieldGiven_defaulted_iff.mp found with ⟨v, data, rfl, holds, read⟩ | ⟨rfl, lacks⟩
  · exact .inl (reads v data read ▸ holds)
  · exact .inr ⟨rfl, lacks⟩

theorem exists_fieldGiven (surplus : Surplus) {shape : Shape} {write : shape.Value → Json}
    (reads : ∀ data, shape.ofJson surplus (write data).canonical = .ok data)
    {default data : shape.Value}
    (said : Holds members name (write data) ∨ (data = default ∧ Lacks members name)) :
    ∃ given : Option shape.Value,
      FieldGiven surplus (canonicalMembers members) name .defaulted shape given ∧
        given.getD default = data := by
  rcases said with holds | ⟨rfl, lacks⟩
  · exact ⟨some data, fieldGiven_defaulted_iff.mpr (.inl ⟨_, data, rfl, holds, reads data⟩), rfl⟩
  · exact ⟨none, fieldGiven_defaulted_iff.mpr (.inr ⟨rfl, lacks⟩), rfl⟩

end Fields

/-- What an object is decoded as. -/
theorem ofJson_object_iff : ofJson (.object members) = .ok d ↔ Decodes members d := by
  have distinct : fields.names.Nodup := by decide
  constructor
  · intro decoded
    obtain ⟨⟨parts, extra⟩, read, rfl⟩ := map_eq_ok_iff.mp decoded
    obtain ⟨given, rfl⟩ := (Shape.ofJson_openRecord_canonical_iff distinct).mp read
    obtain ⟨title, topic, difficulty, function, inputs, returnType, statement, sampleInput,
      sampleOutput, ⟨⟩⟩ := parts
    obtain ⟨hasTitle, hasTopic, hasDifficulty, hasFunction, hasInputs, hasReturn, hasStatement,
      hasSampleInput, hasSampleOutput, -⟩ := given
    exact
      { title := fieldGiven_text_iff.mp hasTitle
        topic := fieldGiven_text_iff.mp hasTopic
        difficulty := fieldGiven_text_iff.mp hasDifficulty
        function := fieldGiven_text_iff.mp hasFunction
        inputs := getD_of_fieldGiven (fun _ _ => ofJson_texts_iff.mp) [] hasInputs
        returnType := fieldGiven_text_iff.mp hasReturn
        statement := fieldGiven_text_iff.mp hasStatement
        sampleInput := getD_of_fieldGiven (fun _ _ => ofJson_nullableText_iff.mp) none hasSampleInput
        sampleOutput :=
          getD_of_fieldGiven (fun _ _ => ofJson_nullableText_iff.mp) none hasSampleOutput
        extra := canonicalMembers_besideMembers members }
  · intro decodes
    obtain ⟨inputs, hasInputs, inputsSame⟩ :=
      exists_fieldGiven .whole (fun _ => ofJson_texts_iff.mpr rfl) decodes.inputs
    obtain ⟨sampleInput, hasSampleInput, inputSame⟩ :=
      exists_fieldGiven .whole (fun _ => ofJson_nullableText_iff.mpr rfl)
        decodes.sampleInput
    obtain ⟨sampleOutput, hasSampleOutput, outputSame⟩ :=
      exists_fieldGiven .whole (fun _ => ofJson_nullableText_iff.mpr rfl)
        decodes.sampleOutput
    refine map_eq_ok_iff.mpr ⟨((d.title, d.topic, d.difficulty, d.function, inputs, d.returnType,
      d.statement, sampleInput, sampleOutput, ()), _),
      (Shape.ofJson_openRecord_canonical_iff distinct).mpr ⟨?_, rfl⟩, ?_⟩
    · exact ⟨fieldGiven_text_iff.mpr decodes.title, fieldGiven_text_iff.mpr decodes.topic,
        fieldGiven_text_iff.mpr decodes.difficulty, fieldGiven_text_iff.mpr decodes.function,
        hasInputs, fieldGiven_text_iff.mpr decodes.returnType,
        fieldGiven_text_iff.mpr decodes.statement, hasSampleInput, hasSampleOutput, trivial⟩
    · have extra := (canonicalMembers_besideMembers members).trans decodes.extra.symm
      cases d
      obtain rfl := inputsSame
      obtain rfl := inputSame
      obtain rfl := outputSame
      exact congrArg (Detail.mk _ _ _ _ _ _ _ _ _) extra

/-! ### Printing -/

/-- The members that a record is given when it does not have them. -/
def additions : List (String × Json) :=
  [("inputs", .array []), ("sample_input", .null), ("sample_output", .null)]

/-- The fields of a record as members. -/
def knownMembers (d : Detail) : List (String × Json) :=
  [("title", .string d.title),
    ("topic", .string d.topic),
    ("difficulty", .string d.difficulty),
    ("function", .string d.function),
    ("inputs", .ofStrings d.inputs),
    ("return", .string d.returnType),
    ("statement", .string d.statement),
    ("sample_input", .ofString? d.sampleInput),
    ("sample_output", .ofString? d.sampleOutput)]

/-- A member that may be absent is found, or what is filled in is found in its place. -/
theorem member?_or_of_said {α : Type} {write : α → Json} {data default : α}
    (said : Holds members name (write data) ∨ (data = default ∧ Lacks members name)) :
    (member? name members).or (some (write default)) = some (write data) := by
  rcases said with holds | ⟨rfl, lacks⟩
  · rw [Json.member?_eq_some_iff.mpr holds, Option.some_or]
  · rw [Json.member?_eq_none_iff.mpr lacks, Option.none_or]

/-- A field is written with the value that it had, or with the one that is filled in. -/
theorem Decodes.member?_knownMembers (decodes : Decodes members d) (field : name ∈ fields.names) :
    member? name d.knownMembers = (member? name members).or (member? name additions) := by
  have needed {name : String} {s : String} (holds : Holds members name (.string s)) :
      some (Json.string s) = (member? name members).or (member? name additions) := by
    rw [Json.member?_eq_some_iff.mpr holds, Option.some_or]
  simp only [fields, Fields.names, List.mem_cons, List.not_mem_nil, or_false] at field
  rcases field with rfl | rfl | rfl | rfl | rfl | rfl | rfl | rfl | rfl
  · exact needed decodes.title
  · exact needed decodes.topic
  · exact needed decodes.difficulty
  · exact needed decodes.function
  · exact (member?_or_of_said decodes.inputs).symm
  · exact needed decodes.returnType
  · exact needed decodes.statement
  · exact (member?_or_of_said decodes.sampleInput).symm
  · exact (member?_or_of_said decodes.sampleOutput).symm

theorem lacks_knownMembers (d : Detail) (other : name ∉ fields.names) :
    Lacks d.knownMembers name := by
  have known : d.knownMembers.map Prod.fst = fields.names := rfl
  intro member listed same
  rw [← known, ← same] at other
  exact other (List.mem_map_of_mem listed)

theorem lacks_additions (other : name ∉ fields.names) : Lacks additions name := by
  have added : ∀ member ∈ additions, member.1 ∈ fields.names := by decide
  intro member listed same
  rw [← same] at other
  exact other (added member listed)

/-- A name stands for the same in the written record as in the object that it was decoded from, once
that is filled in. -/
theorem Decodes.member?_toJson (decodes : Decodes members d) (name : String) :
    (member? name (d.knownMembers ++ d.extra)).map canonical =
      (member? name (additions ++ members)).map canonical := by
  rw [Json.member?_append, Json.member?_append, decodes.extra]
  -- a name is written from the field of that name, or else from what stood beside the fields
  by_cases field : name ∈ fields.names
  · rw [member?_besideMembers_of_field field, decodes.member?_knownMembers field, Option.none_or]
  · rw [member?_besideMembers_of_not_field field,
      Json.member?_eq_none_iff.mpr (lacks_knownMembers d field),
      Json.member?_eq_none_iff.mpr (lacks_additions field), Option.or_none, Option.or_none,
      Option.map_map]
    exact congrArg (Option.map · _) (funext fun v => v.canonical_canonical)

theorem Decodes.toJson_canonical (decodes : Decodes members d) :
    d.toJson.canonical = (Json.object (additions ++ members)).canonical :=
  congrArg Json.object (Json.canonicalMembers_congr decodes.member?_toJson)

/-! ### Decoding again -/

/-- Decoding sees an object in its canonical form only. -/
theorem ofJson_canonical (v : Json) : ofJson v.canonical = ofJson v := by
  rw [ofJson, v.canonical_canonical, ← ofJson]

/-- What is filled in does not stand beside the fields. -/
theorem besideMembers_additions (members : List (String × Json)) :
    besideMembers (additions ++ members) = besideMembers members := by
  refine (sorted_besideMembers _).ext (sorted_besideMembers _) fun name => ?_
  by_cases field : name ∈ fields.names
  · rw [member?_besideMembers_of_field field, member?_besideMembers_of_field field]
  · rw [member?_besideMembers_of_not_field field, member?_besideMembers_of_not_field field,
      Json.member?_append, Json.member?_eq_none_iff.mpr (lacks_additions field), Option.or_none]

/-- What is filled in has no effect on the record. -/
theorem Decodes.filledIn (decodes : Decodes members d) : Decodes (additions ++ members) d := by
  have held {name : String} {v : Json} (holds : Holds members name v) :
      Holds (additions ++ members) name v := by
    rw [← Json.member?_eq_some_iff, Json.member?_append, Json.member?_eq_some_iff.mpr holds]
    rfl
  have filled {α : Type} {name : String} {write : α → Json} {data default : α}
      (added : member? name additions = some (write default))
      (said : Holds members name (write data) ∨ (data = default ∧ Lacks members name)) :
      Holds (additions ++ members) name (write data) := by
    rw [← Json.member?_eq_some_iff, Json.member?_append, added, member?_or_of_said said]
  exact
    { title := held decodes.title
      topic := held decodes.topic
      difficulty := held decodes.difficulty
      function := held decodes.function
      inputs := .inl (filled rfl decodes.inputs)
      returnType := held decodes.returnType
      statement := held decodes.statement
      sampleInput := .inl (filled rfl decodes.sampleInput)
      sampleOutput := .inl (filled rfl decodes.sampleOutput)
      extra := decodes.extra.trans (besideMembers_additions members).symm }

theorem Decodes.ofJson_toJson (decodes : Decodes members d) : ofJson d.toJson = .ok d := by
  rw [← ofJson_canonical, decodes.toJson_canonical, ofJson_canonical]
  exact ofJson_object_iff.mpr decodes.filledIn

/-! ### Objects that are no records -/

/-- Why an object cannot be decoded. -/
inductive Unfit (members : List (String × Json)) : Prop where
  | missing {name : String} (needed : name ∈ neededNames) (lacks : Lacks members name)
  | needed {name : String} {v : Json} (needed : name ∈ neededNames) (holds : Holds members name v)
      (noText : ∀ s, v ≠ .string s)
  | inputs {v : Json} (holds : Holds members "inputs" v) (noTexts : ∀ texts, v ≠ .ofStrings texts)
  | sample {name : String} {v : Json} (sample : name ∈ sampleNames) (holds : Holds members name v)
      (notNull : v ≠ .null) (noText : ∀ s, v ≠ .string s)

/-- An object that is not unfit stands for a record. -/
theorem exists_decodes (fit : ¬ Unfit members) : ∃ d, Decodes members d := by
  have needed : ∀ name ∈ neededNames, ∃ s, Holds members name (.string s) := by
    intro name needed
    by_contra noText
    rcases Json.holds_or_lacks members name with ⟨v, holds⟩ | lacks
    · exact fit (.needed needed holds fun s same => noText ⟨s, same ▸ holds⟩)
    · exact fit (.missing needed lacks)
  have inputs : ∃ inputs, Holds members "inputs" (.ofStrings inputs) ∨
      (inputs = [] ∧ Lacks members "inputs") := by
    by_contra noInputs
    rcases Json.holds_or_lacks members "inputs" with ⟨v, holds⟩ | lacks
    · exact fit (.inputs holds fun texts same => noInputs ⟨texts, .inl (same ▸ holds)⟩)
    · exact noInputs ⟨[], .inr ⟨rfl, lacks⟩⟩
  have sample : ∀ name ∈ sampleNames, ∃ sample, Holds members name (.ofString? sample) ∨
      (sample = none ∧ Lacks members name) := by
    intro name sample
    by_contra noSample
    rcases Json.holds_or_lacks members name with ⟨v, holds⟩ | lacks
    · refine fit (.sample sample holds ?_ ?_)
      · rintro rfl
        exact noSample ⟨none, .inl holds⟩
      · rintro s rfl
        exact noSample ⟨some s, .inl holds⟩
    · exact noSample ⟨none, .inr ⟨rfl, lacks⟩⟩
  simp only [neededNames, sampleNames, List.forall_mem_cons, List.not_mem_nil, false_imp_iff,
    implies_true, and_true] at needed sample
  obtain ⟨⟨title, hasTitle⟩, ⟨topic, hasTopic⟩, ⟨difficulty, hasDifficulty⟩,
    ⟨function, hasFunction⟩, ⟨returnType, hasReturn⟩, ⟨statement, hasStatement⟩⟩ := needed
  obtain ⟨⟨sampleInput, hasSampleInput⟩, ⟨sampleOutput, hasSampleOutput⟩⟩ := sample
  obtain ⟨inputs, hasInputs⟩ := inputs
  exact ⟨⟨title, topic, difficulty, function, inputs, returnType, statement, sampleInput,
    sampleOutput, _⟩, hasTitle, hasTopic, hasDifficulty, hasFunction, hasInputs, hasReturn,
    hasStatement, hasSampleInput, hasSampleOutput, rfl⟩

theorem Decodes.exists_text (decodes : Decodes members d) :
    ∀ name ∈ neededNames, ∃ s, Holds members name (.string s) := by
  simp only [neededNames, List.forall_mem_cons, List.not_mem_nil, false_imp_iff, implies_true,
    and_true]
  exact ⟨⟨_, decodes.title⟩, ⟨_, decodes.topic⟩, ⟨_, decodes.difficulty⟩, ⟨_, decodes.function⟩,
    ⟨_, decodes.returnType⟩, ⟨_, decodes.statement⟩⟩

theorem Decodes.exists_sample (decodes : Decodes members d) :
    ∀ name ∈ sampleNames, ∃ sample, Holds members name (.ofString? sample) ∨
      (sample = none ∧ Lacks members name) := by
  simp only [sampleNames, List.forall_mem_cons, List.not_mem_nil, false_imp_iff, implies_true,
    and_true]
  exact ⟨⟨_, decodes.sampleInput⟩, ⟨_, decodes.sampleOutput⟩⟩

theorem Decodes.not_unfit (decodes : Decodes members d) : ¬ Unfit members := by
  intro unfit
  cases unfit with
  | missing needed lacks =>
      obtain ⟨s, holds⟩ := decodes.exists_text _ needed
      exact lacks.not_holds holds
  | needed needed holds noText =>
      obtain ⟨s, text⟩ := decodes.exists_text _ needed
      exact noText s (holds.unique text)
  | inputs holds noTexts =>
      rcases decodes.inputs with texts | ⟨-, lacks⟩
      · exact noTexts _ (holds.unique texts)
      · exact lacks.not_holds holds
  | sample sample holds notNull noText =>
      obtain ⟨sample, text | ⟨-, lacks⟩⟩ := decodes.exists_sample _ sample
      · cases sample with
        | none => exact notNull (holds.unique text)
        | some s => exact noText s (holds.unique text)
      · exact lacks.not_holds holds

theorem ofJson_eq_error_iff :
    (∃ fault, ofJson (.object members) = .error fault) ↔ Unfit members := by
  constructor
  · rintro ⟨fault, failed⟩
    by_contra fit
    obtain ⟨d, decodes⟩ := exists_decodes fit
    rw [ofJson_object_iff.mpr decodes] at failed
    cases failed
  · intro unfit
    cases decoded : ofJson (.object members) with
    | error fault => exact ⟨fault, rfl⟩
    | ok d => exact absurd unfit (ofJson_object_iff.mp decoded).not_unfit

/-! ### The law -/

/-- The printed members are those of an object, with three of them filled in. -/
structure Shows (members printed : List (String × Json)) : Prop where
  /-- No name is printed twice. -/
  once : (printed.map Prod.fst).Nodup
  /-- Whatever is printed was held under the same name, or is filled in where there was nothing; and
  all of that is printed. -/
  mem_iff : ∀ name v, (name, v) ∈ printed ↔
    (∃ held, Holds members name held ∧ held.canonical = v) ∨
      (Lacks members name ∧ (name, v) ∈ additions)

theorem shows_canonicalMembers (members : List (String × Json)) :
    Shows members (canonicalMembers (additions ++ members)) where
  once := (Json.sorted_canonicalMembers _).nodup_names
  mem_iff := by
    have distinct : (additions.map Prod.fst).Nodup := by decide
    have added (name : String) (v : Json) :
        (∃ w, member? name additions = some w ∧ w.canonical = v) ↔ (name, v) ∈ additions := by
      simp only [Json.member?_eq_some_iff_mem distinct]
      have plain : ∀ added ∈ additions, added.2.canonical = added.2 := by
        simp [additions, canonical, Json.canonicalItems]
      constructor
      · rintro ⟨w, listed, rfl⟩
        rwa [plain _ listed]
      · intro listed
        exact ⟨v, listed, plain _ listed⟩
    intro name v
    rw [← Json.member?_eq_some_iff_mem (Json.sorted_canonicalMembers _).nodup_names,
      Json.member?_canonicalMembers, Json.member?_append, ← Json.member?_eq_none_iff]
    simp only [← Json.member?_eq_some_iff]
    cases found : member? name members with
    | none => simp [added]
    | some held => simp

/-- What holds of every object that may be stored as a record. -/
structure PassThroughLaw (members : List (String × Json)) : Prop where
  /-- An object cannot be decoded when it is unfit, and only then. -/
  fails_iff : (∃ fault, ofJson (.object members) = .error fault) ↔ Unfit members
  /-- The record that an object is decoded as is printed as the object, -/
  shown : ∀ d, ofJson (.object members) = .ok d → ∀ (library : Library) (id : String),
    library.detail? id = some d → (Output.problem library id).success = true ∧
      ∃ printed, (Output.problem library id).body.canonical = .object printed ∧
        Shows members printed
  /-- from which the same record is decoded again. -/
  again : ∀ d, ofJson (.object members) = .ok d → ofJson d.toJson = .ok d ∧
    ∀ (library : Library) (id : String), library.detail? id = some d →
      ofJson (Output.problem library id).body.canonical = .ok d
  /-- The printed text is a text of what is printed, and of the record. -/
  printed : ∀ d, ofJson (.object members) = .ok d → ∀ (library : Library) (id : String),
    library.detail? id = some d → Readable Json.depthLimit (.object members) →
      Json.parse (Output.problem library id).text.toList =
          .ok (Output.problem library id).body.canonical ∧
        ofText (Output.problem library id).text.toList = .ok d

theorem readable_additions (readable : Readable Json.depthLimit (.object members)) :
    Readable Json.depthLimit (.object (additions ++ members)) := by
  cases readable with
  | object inner =>
      refine .object fun member listed => ?_
      rcases List.mem_append.mp listed with added | held
      · simp only [additions, List.mem_cons, List.not_mem_nil, or_false] at added
        rcases added with rfl | rfl | rfl
        · exact .array (List.forall_mem_nil _)
        · exact .null
        · exact .null
      · exact inner member held

/-- A text of a value in canonical form is decoded as the value is. -/
theorem ofText_of_parse {cs : List Char} {v : Json} (parsed : Json.parse cs = .ok v.canonical)
    (decoded : ofJson v.canonical = .ok d) : ofText cs = .ok d := by
  obtain ⟨parts, read, same⟩ := map_eq_ok_iff.mp decoded
  rw [v.canonical_canonical] at read
  exact map_eq_ok_iff.mpr ⟨parts, Shape.readAll_of_parse parsed read, same⟩

theorem problem_eq {library : Library} {id : String} (found : library.detail? id = some d) :
    Output.problem library id = .good d.toJson := by
  rw [Output.problem, found]

/-- The law of records holds of every object. -/
theorem passThroughLaw (members : List (String × Json)) : PassThroughLaw members where
  fails_iff := ofJson_eq_error_iff
  shown := by
    intro d decoded library id found
    have decodes := ofJson_object_iff.mp decoded
    rw [problem_eq found]
    exact ⟨rfl, _, decodes.toJson_canonical, shows_canonicalMembers members⟩
  again := by
    intro d decoded
    have same := (ofJson_object_iff.mp decoded).ofJson_toJson
    refine ⟨same, fun library id found => ?_⟩
    rw [problem_eq found, ofJson_canonical]
    exact same
  printed := by
    intro d decoded library id found readable
    have decodes := ofJson_object_iff.mp decoded
    have parsed : Json.parse (Output.good d.toJson).text.toList = .ok d.toJson.canonical := by
      rw [Output.toList_text, Output.good, decodes.toJson_canonical]
      exact Json.parse_write_append Json.Spacing.indented_isBlank
        (readable_additions readable).canonical (List.forall_mem_singleton.mpr rfl)
    rw [problem_eq found]
    exact ⟨parsed, ofText_of_parse parsed ((ofJson_canonical _).trans decodes.ofJson_toJson)⟩

end Detail

end StudyDesk
