/-
Module: StudyDesk.Proofs.Json.Grammar
Purpose: The grammar of JSON texts, apart from any reader of them.
Main exports:
  IsGap, IsBody, Denotes, IsNumeral, Arranged, Member, IsValue, IsJson
-/
import StudyDesk.Proofs.Json.RoundTrip

namespace StudyDesk.Json

/-!
A text belongs to the grammar by the way it is put together.  No limit is set to the size of a
number or to the depth of a container, and a string may hold unpaired surrogates; only what a string
denotes is a text of characters.
-/

/-! ### Strings -/

/-- Blanks that may stand between the parts of a text. -/
def IsGap (gap : List Char) : Prop := ∀ c ∈ gap, isSpace c = true

/-- The hexadecimal digits with their values. -/
def hexDigits : List (Char × Nat) :=
  [('0', 0), ('1', 1), ('2', 2), ('3', 3), ('4', 4), ('5', 5), ('6', 6), ('7', 7), ('8', 8),
    ('9', 9), ('a', 10), ('b', 11), ('c', 12), ('d', 13), ('e', 14), ('f', 15), ('A', 10),
    ('B', 11), ('C', 12), ('D', 13), ('E', 14), ('F', 15)]

/-- The letters that may stand behind a backslash, with the characters that they stand for. -/
def escapes : List (Char × Char) :=
  [('"', '"'), ('\\', '\\'), ('/', '/'), ('b', Char.ofNat 0x08), ('f', Char.ofNat 0x0C),
    ('n', '\n'), ('r', '\r'), ('t', '\t')]

/-- Four hexadecimal digits spell a code unit. -/
inductive SpellsUnit : List Char → Nat → Prop where
  | mk {a b c d : Char} {i j k l : Nat} (first : (a, i) ∈ hexDigits) (second : (b, j) ∈ hexDigits)
      (third : (c, k) ∈ hexDigits) (fourth : (d, l) ∈ hexDigits) :
      SpellsUnit [a, b, c, d] (i * 0x1000 + j * 0x100 + k * 0x10 + l)

/-- Characters that stand for themselves in a string. -/
structure IsPlain (c : Char) : Prop where
  visible : 0x20 ≤ c.toNat
  notQuote : c ≠ '"'
  notBackslash : c ≠ '\\'

/-- What may stand between the quotes of a string. -/
inductive IsBody : List Char → Prop where
  | nil : IsBody []
  | plain {c : Char} {body : List Char} (isPlain : IsPlain c) (others : IsBody body) :
      IsBody (c :: body)
  | escape {c d : Char} {body : List Char} (known : (c, d) ∈ escapes) (others : IsBody body) :
      IsBody ('\\' :: c :: body)
  | unit {digits body : List Char} {n : Nat} (spells : SpellsUnit digits n)
      (others : IsBody body) : IsBody ('\\' :: 'u' :: (digits ++ body))

/-- What stands between the quotes of a string, and the characters that it denotes.  Code units
beyond the basic plane come in pairs. -/
inductive Denotes : List Char → List Char → Prop where
  | nil : Denotes [] []
  | plain {c : Char} {body chars : List Char} (isPlain : IsPlain c) (others : Denotes body chars) :
      Denotes (c :: body) (c :: chars)
  | escape {c d : Char} {body chars : List Char} (known : (c, d) ∈ escapes)
      (others : Denotes body chars) : Denotes ('\\' :: c :: body) (d :: chars)
  | unit {digits body chars : List Char} {n : Nat} (spells : SpellsUnit digits n)
      (whole : n < 0xD800 ∨ 0xDFFF < n) (others : Denotes body chars) :
      Denotes ('\\' :: 'u' :: (digits ++ body)) (Char.ofNat n :: chars)
  | pair {digits digits' body chars : List Char} {high low : Nat} (leading : SpellsUnit digits high)
      (trailing : SpellsUnit digits' low) (isHigh : 0xD800 ≤ high ∧ high ≤ 0xDBFF)
      (isLow : 0xDC00 ≤ low ∧ low ≤ 0xDFFF) (others : Denotes body chars) :
      Denotes ('\\' :: 'u' :: (digits ++ '\\' :: 'u' :: (digits' ++ body)))
        (Char.ofNat ((high - 0xD800) * 0x400 + (low - 0xDC00) + 0x10000) :: chars)

theorem Denotes.isBody {body chars : List Char} (denotes : Denotes body chars) : IsBody body := by
  induction denotes with
  | nil => exact .nil
  | plain isPlain _ ih => exact .plain isPlain ih
  | escape known _ ih => exact .escape known ih
  | unit spells _ _ ih => exact .unit spells ih
  | pair leading trailing _ _ _ ih => exact .unit leading (.unit trailing ih)

/-! ### Numbers -/

/-- One digit or more. -/
def IsRun (digits : List Char) : Prop := digits ≠ [] ∧ ∀ c ∈ digits, c.isDigit = true

/-- The digits before the point: zero stands alone. -/
inductive IsWhole : List Char → Prop where
  | zero : IsWhole ['0']
  | run {c : Char} {digits : List Char} (notZero : c ≠ '0') (isRun : IsRun (c :: digits)) :
      IsWhole (c :: digits)

/-- A fraction, if there is one. -/
inductive IsFraction : List Char → Prop where
  | none : IsFraction []
  | some {digits : List Char} (isRun : IsRun digits) : IsFraction ('.' :: digits)

/-- An exponent, if there is one. -/
inductive IsPower : List Char → Prop where
  | none : IsPower []
  | some {mark : Char} {sign digits : List Char} (isMark : mark = 'e' ∨ mark = 'E')
      (isSign : sign = [] ∨ sign = ['+'] ∨ sign = ['-']) (isRun : IsRun digits) :
      IsPower (mark :: (sign ++ digits))

/-- A number without its sign. -/
inductive IsNumeral : List Char → Prop where
  | mk {whole fraction power : List Char} (isWhole : IsWhole whole)
      (isFraction : IsFraction fraction) (isPower : IsPower power) :
      IsNumeral (whole ++ (fraction ++ power))

/-! ### Containers -/

/-- What stands before a part of a container: blanks, and a comma unless it is the first part. -/
inductive IsLead : Bool → List Char → Prop where
  | first {gap : List Char} (blank : IsGap gap) : IsLead true gap
  | next {gap gap' : List Char} (blank : IsGap gap) (blank' : IsGap gap') :
      IsLead false (gap ++ ',' :: gap')

/-- The content of a container from one of its parts on, up to the closing bracket. -/
inductive Arranged {α : Type} (text : α → List Char) : Bool → List α → List Char → Prop where
  | close {isFirst : Bool} {gap : List Char} (blank : IsGap gap) : Arranged text isFirst [] gap
  | cons {isFirst : Bool} {front content : List Char} {part : α} {parts : List α}
      (lead : IsLead isFirst front) (others : Arranged text false parts content) :
      Arranged text isFirst (part :: parts) (front ++ (text part ++ content))

/-- A member of an object: the body of its name, the blanks around the colon, and its value. -/
@[ext]
structure Member where
  name : List Char
  before : List Char
  after : List Char
  value : List Char

namespace Member

/-- A member as it stands in its object. -/
def text (member : Member) : List Char :=
  '"' :: (member.name ++ '"' :: (member.before ++ ':' :: (member.after ++ member.value)))

/-- The name stands between quotes, and only blanks around the colon. -/
structure IsFramed (member : Member) : Prop where
  name : IsBody member.name
  before : IsGap member.before
  after : IsGap member.after

/-- The characters of the name. -/
def Named (member : Member) (name : String) : Prop := Denotes member.name name.toList

end Member

/-! ### Values -/

/-- The texts of JSON values, without blanks around them. -/
inductive IsValue : List Char → Prop where
  | word {word : List Char}
      (known : word ∈ [['n', 'u', 'l', 'l'], ['t', 'r', 'u', 'e'], ['f', 'a', 'l', 's', 'e']]) :
      IsValue word
  | positive {numeral : List Char} (isNumeral : IsNumeral numeral) : IsValue numeral
  | negative {numeral : List Char} (isNumeral : IsNumeral numeral) : IsValue ('-' :: numeral)
  | string {body : List Char} (isBody : IsBody body) : IsValue ('"' :: (body ++ ['"']))
  | array {items : List (List Char)} {content : List Char}
      (arranged : Arranged (fun item => item) true items content)
      (inner : ∀ item ∈ items, IsValue item) : IsValue ('[' :: (content ++ [']']))
  | object {members : List Member} {content : List Char}
      (arranged : Arranged Member.text true members content)
      (framed : ∀ member ∈ members, member.IsFramed)
      (inner : ∀ member ∈ members, IsValue member.value) : IsValue ('{' :: (content ++ ['}']))

/-- A text is the array of the given items. -/
inductive IsArray : List (List Char) → List Char → Prop where
  | mk {items : List (List Char)} {content : List Char}
      (arranged : Arranged (fun item => item) true items content)
      (inner : ∀ item ∈ items, IsValue item) : IsArray items ('[' :: (content ++ [']']))

/-- A text is the object of the given members. -/
inductive IsObject : List Member → List Char → Prop where
  | mk {members : List Member} {content : List Char}
      (arranged : Arranged Member.text true members content)
      (framed : ∀ member ∈ members, member.IsFramed)
      (inner : ∀ member ∈ members, IsValue member.value) :
      IsObject members ('{' :: (content ++ ['}']))

/-- A text is a string that denotes the given characters. -/
inductive IsString : String → List Char → Prop where
  | mk {s : String} {body : List Char} (denotes : Denotes body s.toList) :
      IsString s ('"' :: (body ++ ['"']))

/-- A text is nothing but the given one with blanks around it. -/
def IsBetweenGaps (core text : List Char) : Prop :=
  ∃ gap gap', IsGap gap ∧ IsGap gap' ∧ text = gap ++ (core ++ gap')

/-- A whole JSON text: a value between blanks. -/
def IsJson (text : List Char) : Prop := ∃ core, IsValue core ∧ IsBetweenGaps core text

/-! ### Members by name -/

/-- The name is a text of characters, and another one. -/
def Member.IsOther (name : String) (member : Member) : Prop :=
  ∃ key, member.Named key ∧ key ≠ name

/-- A text is an object with one member of the name, and the value of that member is as `holds`
tells.  Any members of other names may stand around it. -/
inductive HasMember (name : String) (holds : List Char → Prop) : List Char → Prop where
  | mk {before after : List Member} {member : Member} {core : List Char}
      (isObject : IsObject (before ++ member :: after) core) (named : member.Named name)
      (given : holds member.value) (others : ∀ other ∈ before ++ after, other.IsOther name) :
      HasMember name holds core

/-- A text is an object in which all members have other names. -/
inductive LacksMember (name : String) : List Char → Prop where
  | mk {members : List Member} {core : List Char} (isObject : IsObject members core)
      (others : ∀ other ∈ members, other.IsOther name) : LacksMember name core

/-! ### Where parts begin and end -/

variable {isFirst : Bool} {gap core content more : List Char} {closer : Char}

theorem isSpace_of_isDigit {c : Char} (digit : c.isDigit = true) : isSpace c = false := by
  rw [Bool.eq_false_iff]
  intro space
  simp only [isSpace, Bool.or_eq_true, decide_eq_true_eq] at space
  rcases space with ((rfl | rfl) | rfl) | rfl <;> revert digit <;> decide

theorem IsNumeral.head (isNumeral : IsNumeral core) :
    ∃ c rest, core = c :: rest ∧ c.isDigit = true := by
  rcases isNumeral with ⟨isWhole, -, -⟩
  cases isWhole with
  | zero => exact ⟨'0', _, rfl, rfl⟩
  | run _ isRun => exact ⟨_, _, rfl, isRun.2 _ List.mem_cons_self⟩

/-- A value begins neither with a blank nor with what ends a list. -/
theorem IsValue.head (isValue : IsValue core) :
    ∃ c rest, core = c :: rest ∧ isSpace c = false ∧ c ≠ ']' := by
  cases isValue with
  | word known =>
      simp only [List.mem_cons, List.not_mem_nil, or_false] at known
      rcases known with rfl | rfl | rfl <;> exact ⟨_, _, rfl, by decide, by decide⟩
  | positive isNumeral =>
      obtain ⟨c, rest, rfl, digit⟩ := isNumeral.head
      refine ⟨c, rest, rfl, isSpace_of_isDigit digit, ?_⟩
      rintro rfl
      revert digit
      decide
  | negative | string | array | object => exact ⟨_, _, rfl, by decide, by decide⟩

theorem IsValue.nonempty (isValue : IsValue core) : core ≠ [] := by
  obtain ⟨c, rest, rfl, -⟩ := isValue.head
  exact List.cons_ne_nil c rest

theorem IsArray.isValue {items : List (List Char)} (isArray : IsArray items core) :
    IsValue core := by
  obtain ⟨arranged, inner⟩ := isArray
  exact .array arranged inner

theorem IsObject.isValue {members : List Member} (isObject : IsObject members core) :
    IsValue core := by
  obtain ⟨arranged, framed, inner⟩ := isObject
  exact .object arranged framed inner

theorem IsObject.isValue_of_mem {members : List Member} (isObject : IsObject members core) :
    ∀ member ∈ members, IsValue member.value := by
  obtain ⟨-, -, inner⟩ := isObject
  exact inner

theorem HasMember.isValue {name : String} {holds : List Char → Prop}
    (has : HasMember name holds core) : IsValue core := by
  obtain ⟨isObject, -⟩ := has
  exact isObject.isValue

/-- Of the value of a member, all may be said that is true of it. -/
theorem HasMember.exists_value {name : String} {holds : List Char → Prop}
    (has : HasMember name holds core) : ∃ value, holds value ∧ HasMember name (· = value) core := by
  obtain ⟨isObject, named, given, others⟩ := has
  exact ⟨_, given, .mk isObject named rfl others⟩

theorem HasMember.imp {name : String} {holds holds' : List Char → Prop}
    (has : HasMember name holds core) (implies : ∀ value, holds value → holds' value) :
    HasMember name holds' core := by
  obtain ⟨isObject, named, given, others⟩ := has
  exact .mk isObject named (implies _ given) others

theorem LacksMember.isValue {name : String} (lacks : LacksMember name core) : IsValue core := by
  obtain ⟨isObject, -⟩ := lacks
  exact isObject.isValue

theorem endsNumber_of_isGap (blank : IsGap gap) : EndsNumber gap := by
  rw [← List.append_nil gap]
  exact endsNumber_append blank (by simp [EndsNumber])

/-- No number can go on where a container does. -/
theorem Arranged.endsNumber {α : Type} {text : α → List Char} {parts : List α}
    (arranged : Arranged text false parts content)
    (ends : closer.isDigit = false ∧ closer ≠ '.' ∧ closer ≠ 'e' ∧ closer ≠ 'E')
    (more : List Char) : EndsNumber (content ++ closer :: more) := by
  cases arranged with
  | close blank => exact endsNumber_append blank (endsNumber_cons ends more)
  | cons lead others =>
      cases lead with
      | next blank blank' =>
          rw [List.append_assoc, List.append_assoc]
          exact endsNumber_append blank (endsNumber_cons (by decide) _)

theorem Arranged.length_le {α : Type} {text : α → List Char} {parts : List α}
    (arranged : Arranged text isFirst parts content) (some : ∀ part ∈ parts, text part ≠ []) :
    parts.length ≤ content.length := by
  induction arranged with
  | close => exact Nat.zero_le _
  | cons lead others ih =>
      have := List.length_pos_iff.mpr (some _ List.mem_cons_self)
      have := ih fun part member => some part (List.mem_cons_of_mem _ member)
      simp only [List.length_cons, List.length_append]
      omega

end StudyDesk.Json
