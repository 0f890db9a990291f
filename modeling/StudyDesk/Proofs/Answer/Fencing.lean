/-
Module: StudyDesk.Proofs.Answer.Fencing
Purpose: A fence with an opening line of its own makes no difference to what it surrounds, once.
Main exports:
  Outcome.withRaw, Contract.validate_congr, Fence, Fence.around, Contract.FenceLaw,
  Contract.fence_obeys_law
-/
import StudyDesk.Proofs.Answer.RoundTrip

namespace StudyDesk

/-! ### Outcomes -/

/-- The same outcome, with the given text as the output that a failure keeps. -/
def Outcome.withRaw (raw : String) (outcome : Outcome) : Outcome :=
  outcome.mapError fun failure => { failure with raw := some raw }

/-- Of raw output only what is left without its fence is held against the contract. -/
theorem Contract.validate_congr {registry : Registry} {raw other : String}
    (same : stripFence raw.toList = stripFence other.toList) :
    validate registry raw = (validate registry other).withRaw raw := by
  rw [validate, validate, same]
  cases Json.parse (stripFence other.toList) with
  | error failure => rfl
  | ok value =>
      dsimp only
      cases check registry value <;> rfl

/-! ### A fence with an opening line -/

/-- A fence with an opening line: the blanks around it, and what stands on that line. -/
structure Fence where
  before : String
  info : String
  after : String
  blankBefore : Text.isBlankText before = true
  blankAfter : Text.isBlankText after = true
  oneLine : '\n' ∉ info.toList

namespace Fence

/-- A text in a fence: the opening line, the text on lines of its own, the closing line. -/
def around (fence : Fence) (text : String) : String :=
  fence.before ++ "```" ++ fence.info ++ "\n" ++ text ++ "\n" ++ "```" ++ fence.after

theorem toList_around (fence : Fence) (text : String) :
    (fence.around text).toList =
      fence.before.toList ++
        (fenceMark ++ (fence.info.toList ++ '\n' :: (text.toList ++ ['\n'])) ++ fenceMark) ++
          fence.after.toList := by
  simp [around, fenceMark]

theorem trimChars_around (fence : Fence) (text : String) :
    Text.trimChars (fence.around text).toList =
      fenceMark ++ (fence.info.toList ++ '\n' :: (text.toList ++ ['\n'])) ++ fenceMark := by
  rw [toList_around, trimChars_marked (Text.isBlankText_iff.mp fence.blankBefore)
    (Text.isBlankText_iff.mp fence.blankAfter)]

/-- Nothing but the text is left of a text in a fence. -/
theorem stripFence_around (fence : Fence) (text : String) :
    stripFence (fence.around text).toList = Text.trimChars text.toList := by
  rw [toList_around, stripFence_marked (Text.isBlankText_iff.mp fence.blankBefore)
    (Text.isBlankText_iff.mp fence.blankAfter), insideFence_line fence.oneLine]
  exact Text.trimChars_append_blank (List.forall_mem_singleton.mpr (by decide)) text.toList

end Fence

namespace Contract

variable {registry : Registry}

/-- A text that begins with a fence mark is no JSON text, from its first character on. -/
theorem parse_of_fenceMark {cs : List Char} (marked : fenceMark <+: cs) :
    Json.parse cs = .error ⟨.expectedValue, cs, 1⟩ := by
  obtain ⟨rest, rfl⟩ := marked
  rw [Json.parse, Json.readValue]
  rfl

/-- The failure that is reported of such a text. -/
theorem message_of_fenceMark {cs : List Char} (marked : fenceMark <+: cs) :
    Json.Failure.message ⟨.expectedValue, cs, 1⟩ cs = "expected value at line 1 column 1" := by
  obtain ⟨rest, rfl⟩ := marked
  have size : Text.byteLength (fenceMark ++ rest) = 3 + Text.byteLength rest := by
    rw [fenceMark, List.cons_append, List.cons_append, List.singleton_append, Text.byteLength,
      Text.byteLength, Text.byteLength, ← Nat.add_assoc, ← Nat.add_assoc]
    rfl
  have offset :
      Json.Failure.offset ⟨.expectedValue, fenceMark ++ rest, 1⟩ (fenceMark ++ rest) = 1 := by
    unfold Json.Failure.offset
    dsimp only
    omega
  have bytes : (Text.encode (fenceMark ++ rest)).take 1 = [0x60] := rfl
  rw [Json.Failure.message, offset, bytes]
  rfl

/-- Text that shows a fence mark in front when its own fence is gone is a parse failure. -/
theorem validate_of_fenceMark {raw : String} (marked : fenceMark <+: stripFence raw.toList) :
    validate registry raw =
      .error (.parseFailure "output is not valid JSON: expected value at line 1 column 1" raw) := by
  simp only [validate, parse_of_fenceMark marked, message_of_fenceMark marked]
  rfl

/-! ### The law -/

/-- What fences with an opening line do to texts. -/
structure FenceLaw (registry : Registry) (fence outer : Fence) : Prop where
  /-- Such a fence makes no difference to a text that does not begin with a fence: the result is the
  same, and so is what is wrong; a failure only keeps the whole output. -/
  transparent : ∀ text : String, ¬ fenceMark <+: Text.trimChars text.toList →
    validate registry (fence.around text) =
      (validate registry text).withRaw (fence.around text)
  /-- So the text of a result that the contract allows is accepted in its fence as that result. -/
  accepts : ∀ result : Classification, result.WellFormed registry →
    validate registry (fence.around result.toJson.compact) = .ok result
  /-- A text that begins with a fence is no JSON text in another one, -/
  once : ∀ text : String, fenceMark <+: Text.trimChars text.toList →
    validate registry (outer.around text) =
      .error (.parseFailure "output is not valid JSON: expected value at line 1 column 1"
        (outer.around text))
  /-- whatever stands in the inner fence. -/
  twice : ∀ text : String,
    validate registry (outer.around (fence.around text)) =
      .error (.parseFailure "output is not valid JSON: expected value at line 1 column 1"
        (outer.around (fence.around text)))

theorem validate_around {text : String} (fence : Fence)
    (plain : ¬ fenceMark <+: Text.trimChars text.toList) :
    validate registry (fence.around text) =
      (validate registry text).withRaw (fence.around text) := by
  apply validate_congr
  rw [fence.stripFence_around, stripFence_of_plain plain]

theorem validate_around_marked {text : String} (fence : Fence)
    (marked : fenceMark <+: Text.trimChars text.toList) :
    validate registry (fence.around text) =
      .error (.parseFailure "output is not valid JSON: expected value at line 1 column 1"
        (fence.around text)) := by
  apply validate_of_fenceMark
  rw [fence.stripFence_around]
  exact marked

/-- A written result does not begin with a fence. -/
theorem compact_plain (result : Classification) :
    ¬ fenceMark <+: Text.trimChars result.toJson.compact.toList := by
  obtain ⟨middle, braces⟩ := write_object_eq_braces .tight 0
    [("valid", .bool result.valid),
      ("reason", .ofString? result.reason),
      ("topic", .ofString? (result.topic.map Tag.name)),
      ("type", .ofString? (result.kind.map QuestionKind.name)),
      ("answer", .ofString? result.answer),
      ("keywords", .ofStrings result.keywords)]
  rw [Json.compact, String.toList_ofList, Classification.toJson, braces,
    Text.trimChars_eq_self (by decide) (by decide), fenceMark, List.cons_prefix_cons]
  rintro ⟨same, -⟩
  cases same

/-- Every fence with an opening line obeys the law. -/
theorem fence_obeys_law (registry : Registry) (fence outer : Fence) :
    FenceLaw registry fence outer where
  transparent := fun _ plain => validate_around fence plain
  accepts := by
    intro result wellFormed
    rw [validate_around fence (compact_plain result), validate_compact_of_wellFormed wellFormed]
    rfl
  once := fun _ marked => validate_around_marked outer marked
  twice := by
    intro text
    apply validate_around_marked
    rw [fence.trimChars_around, List.append_assoc]
    exact List.prefix_append fenceMark _

end Contract

end StudyDesk
